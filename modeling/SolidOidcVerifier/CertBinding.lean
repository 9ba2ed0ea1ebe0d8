import SolidOidcVerifier.Acceptance

/-! The certificate that a token is bound to: which `cnf.x5t#S256` texts name a digest, and which client
certificates pass for it. -/
namespace SolidOidcVerifier
open Foundation

variable {S : Type}

/-- The `x5t#S256` text of a certificate's digest. -/
def certText (digest : List UInt8) : String := String.ofList (Base64Url.encode digest)

def AuthRequest.withCert (req : AuthRequest) (presented : String) : AuthRequest :=
  {req with clientCertX5tS256 := some presented}

/-- The claims bind the token to the certificate with the digest. -/
def BoundToCert (claims : Claims) (digest : List UInt8) : Prop :=
  cnfMember claims "x5t#S256" = some (.string (certText digest))

theorem certText_toList (digest : List UInt8) : (certText digest).toList = Base64Url.encode digest :=
  String.toList_ofList

theorem certText_injective : Function.Injective certText := by
  intro left right same
  apply Base64Url.encode_injective
  rw [← certText_toList,← certText_toList,same]

theorem b64urlDecode_certText (s : String) (digest : List UInt8) :
    b64urlDecode s.toList = some digest ↔ s = certText digest := by
  unfold b64urlDecode
  rw [Base64Url.decode_iff,← certText_toList,String.toList_inj]

theorem isValidX5tS256_iff (s : String) :
    isValidX5tS256 s = true ↔ ∃ digest : List UInt8, digest.length = 32 ∧ s = certText digest := by
  unfold isValidX5tS256
  simp only [← b64urlDecode_certText]
  cases b64urlDecode s.toList with
  | none => simp
  | some bytes => simp

theorem isValidX5tS256_certText (digest : List UInt8) :
    isValidX5tS256 (certText digest) = true ↔ digest.length = 32 := by
  rw [isValidX5tS256_iff]
  constructor
  · intro valid
    obtain ⟨other,width,same⟩ := valid
    rw [certText_injective same]
    exact width
  · intro width
    exact ⟨digest,width,rfl⟩

theorem validateCertBinding_bytes (req : AuthRequest) (presented expected : String) :
    validateCertBinding (req.withCert presented) expected = .ok () ↔
      Text.asBytes presented = Text.asBytes expected := by
  rw [validateCertBinding_ok]
  unfold AuthRequest.withCert
  rw [Option.some.injEq]
  constructor
  · intro same
    rw [same]
  · intro same
    exact asBytes_injective presented expected same

theorem validateCertBinding_digests (req : AuthRequest) (presented bound : List UInt8) :
    validateCertBinding (req.withCert (certText presented)) (certText bound) = .ok () ↔ bound = presented := by
  rw [validateCertBinding_ok]
  unfold AuthRequest.withCert
  rw [Option.some.injEq,certText_injective.eq_iff]
  exact eq_comm

theorem BoundToCert.extracted {claims : Claims} {digest : List UInt8} (bound : BoundToCert claims digest) :
    extractCnfX5tS256 claims = some (if digest.length = 32 then .thumbprint (certText digest) else .malformed) := by
  unfold extractCnfX5tS256
  rw [bound,Option.map_some]
  unfold readX5tS256
  simp only [Json.asStr,isValidX5tS256_certText]

/-- The certificate check compares certificates: the member is read as a digest exactly where it is the text of
one, and the check lets the presented text through exactly where it is that text. -/
theorem cert_check_compares :
    (∀ s, isValidX5tS256 s = true ↔ ∃ digest : List UInt8, digest.length = 32 ∧ s = certText digest) ∧
    (∀ (req : AuthRequest) presented expected, validateCertBinding (req.withCert presented) expected = .ok () ↔
      Text.asBytes presented = Text.asBytes expected) ∧
    (∀ (req : AuthRequest) presented bound,
      validateCertBinding (req.withCert (certText presented)) (certText bound) = .ok () ↔ bound = presented) ∧
    ∀ (req : AuthRequest) claims presented bound, BoundToCert claims bound →
      (extractCnfX5tS256 claims ≠ some .malformed ∧ checkCert (req.withCert (certText presented))
          ((extractCnfX5tS256 claims).bind X5tS256.wellFormed) = .ok () ↔
        bound.length = 32 ∧ bound = presented) := by
  refine ⟨isValidX5tS256_iff,validateCertBinding_bytes,validateCertBinding_digests,?_⟩
  intro req claims presented bound binds
  rw [binds.extracted]
  by_cases width : bound.length = 32
  · rw [if_pos width]
    simp only [Option.bind_some,X5tS256.wellFormed,checkCert,validateCertBinding_digests]
    simp [width]
  · rw [if_neg width]
    simp [width]

def sampleCert : List UInt8 := List.replicate 32 0x42

def sampleCertClaims : Claims := sampleClaims [("cnf",.object [("x5t#S256",.string (certText sampleCert))])]

theorem cert_check_sample :
    checkCert (sampleRequest.withCert (certText sampleCert))
        ((extractCnfX5tS256 sampleCertClaims).bind X5tS256.wellFormed) = .ok () ∧
      checkCert (sampleRequest.withCert (certText (List.replicate 32 0x43)))
        ((extractCnfX5tS256 sampleCertClaims).bind X5tS256.wellFormed) ≠ .ok () := by
  have bound : BoundToCert sampleCertClaims sampleCert := rfl
  have check := fun presented => cert_check_compares.2.2.2 sampleRequest sampleCertClaims presented sampleCert bound
  obtain ⟨wellFormed,passed⟩ := (check sampleCert).mpr ⟨rfl,rfl⟩
  refine ⟨passed,?_⟩
  intro other
  have same := ((check (List.replicate 32 0x43)).mp ⟨wellFormed,other⟩).2
  exact absurd same (by decide)

/-- A request is authenticated with a certificate-bound token over the connection with that certificate only. -/
theorem accepted_certificate (env : Env S) (law : PayloadLaw env.crates) (config : VerifierConfig)
    (req : AuthRequest) (world : World S) (accepted : VerifiedToken) (webId : String) (dpopScheme : Bool)
    (token issuer : String) (claims : Claims) (digest : List UInt8) (ok : (verify env config req world).1 = .ok accepted)
    (authenticated : accepted.webId = some webId) (presents : Presents req.authorization dpopScheme token)
    (signed : ValidAccessToken env config token issuer claims) (bound : BoundToCert claims digest) :
    digest.length = 32 ∧ req.clientCertX5tS256 = some (certText digest) := by
  obtain ⟨_,accepts⟩ := accepts_of_presented env law config req world accepted webId dpopScheme token issuer claims ok
    authenticated presents signed
  have possession := accepts.authentic.possession
  have wellFormed := possession.wellFormed
  have extracted := bound.extracted
  by_cases width : digest.length = 32
  · rw [if_pos width] at extracted
    exact ⟨width,possession.certificate (certText digest) extracted⟩
  · rw [if_neg width] at extracted
    exact absurd extracted wellFormed

end SolidOidcVerifier
