import SolidOidcVerifier.Possession

/-! The binding of a proof to its access token by `ath`, over every JSON value of the member. -/
namespace SolidOidcVerifier
open Foundation

/-- The member of the signed claims, if there is one, is the hash of the access token as a string; it may
be absent only where that is allowed. -/
def AthHonoured (crates : Crates) (config : VerifierConfig) (claims : Claims) (accessToken : String) : Prop :=
  (∀ value, claims.get "ath" = some value → value = .string (ath crates accessToken)) ∧
    (config.allowMissingAth = false → claims.get "ath" ≠ none)

theorem Claims.str_some (claims : Claims) (name text : String) :
    claims.str name = some text ↔ claims.get name = some (.string text) := by
  unfold Claims.str
  cases claims.get name with
  | none => simp
  | some value => simp [Json.asStr_some]

theorem athRule_of_accepted (build : Build) (crates : Crates) (config : VerifierConfig) (now : Int)
    (req : AuthRequest) (proof accessToken : String) (cnfJkt : Option String) (claims : Claims) (jwk : Jwk)
    (given : req.dpop = some proof) (verified : verifiedProof build crates proof = .ok (claims,jwk))
    (accepted : checkDpop build crates config now req accessToken true cnfJkt = .ok ()) :
    AthRule crates claims accessToken (config.allowMissingAth = true ∧ proofHasAth crates proof = false) := by
  unfold checkDpop validateDpopProof at accepted
  simp only [if_true,given,Except.bind_ok,liftStop_ok,Except.orError_ok,checkAth_ok] at accepted
  obtain ⟨_,found,_,_,signed,same,_,_,_,_,_,_,iat,_,_,_,_,hash,_⟩ := accepted
  cases found
  rw [verified] at same
  cases same
  unfold AthRule at hash ⊢
  simpa using hash

/-- The `ath` of an accepted proof is honoured exactly where it was required, is absent or is a string. -/
theorem ath_honoured_iff (build : Build) (crates : Crates) (config : VerifierConfig) (now : Int)
    (req : AuthRequest) (proof accessToken : String) (cnfJkt : Option String) (claims : Claims) (jwk : Jwk)
    (given : req.dpop = some proof) (verified : verifiedProof build crates proof = .ok (claims,jwk))
    (accepted : checkDpop build crates config now req accessToken true cnfJkt = .ok ()) :
    AthHonoured crates config claims accessToken ↔
      config.allowMissingAth = false ∨ claims.get "ath" = none ∨ ∃ text, claims.get "ath" = some (.string text) := by
  have rule := athRule_of_accepted build crates config now req proof accessToken cnfJkt claims jwk given
    verified accepted
  rcases rule with hash | ⟨⟨allowed,_⟩,absent⟩
  · have member := (Claims.str_some claims "ath" _).mp hash
    have honoured : AthHonoured crates config claims accessToken := by
      constructor
      · intro value present
        rw [member] at present
        exact (Option.some.inj present).symm
      · intro _
        rw [member]
        exact Option.some_ne_none _
    exact iff_of_true honoured (Or.inr (Or.inr ⟨_,member⟩))
  · -- On the compat route no string is there, so a member is of another type and goes unread.
    constructor
    · intro honoured
      cases member : claims.get "ath" with
      | none => exact Or.inr (Or.inl rfl)
      | some value =>
        have same := honoured.1 value member
        exact Or.inr (Or.inr ⟨_,by rw [same]⟩)
    · intro readable
      rcases readable with off | missing | ⟨text,member⟩
      · rw [allowed] at off
        cases off
      · constructor
        · intro value present
          rw [missing] at present
          cases present
        · intro off
          rw [allowed] at off
          cases off
      · rw [(Claims.str_some claims "ath" text).mpr member] at absent
        cases absent

theorem ath_honoured_sample :
    AthHonoured sampleCrates sampleConfig (sampleProofClaims [("htm",.string "GET")]) boundToken := by
  have valid := sampleProof_valid sampleConfig sampleRequest proofPayload [("htm",.string "GET")] _ rfl
    (Or.inr ⟨_,rfl⟩) (List.mem_of_getElem? (i := 5) rfl) (List.cons_ne_nil _ _)
    (List.mem_of_getElem? (i := 3) rfl) rfl (by decide)
  refine (ath_honoured_iff ⟨false,false⟩ sampleCrates sampleConfig 1700000010 sampleRequest sampleProof boundToken
    (some sampleThumbprint) _ sampleClientJwk rfl ?_ ?_).mpr (Or.inl rfl)
  · exact (verifiedProof_ok _ _ sampleCrates_payload _ _ _).mpr valid.signed
  · apply (checkDpop_ok _ _ sampleCrates_payload _ _ _ _ _ _ _).mpr
    intro _
    exact ⟨sampleThumbprint,sampleProof,_,_,_,rfl,rfl,valid⟩

section number

def numberPayload : String :=
  "\x7b\"htm\":\"GET\",\"htu\":\"https://rs.example/r\",\"jti\":\"p1\"," ++
    "\"iat\":1700000000,\"ath\":1\x7d"

def numberSignature : List UInt8 :=
  [148,140,232,246,201,236,245,195,196,96,234,42,214,199,85,50,168,111,208,90,230,12,77,39,173,17,
    70,129,163,69,227,61,213,174,169,214,71,81,115,101,201,24,112,21,195,200,64,219,100,207,70,168,
    174,121,17,150,98,225,212,201,213,42,32,7]

def numberProof : String := sampleToken proofHeader numberPayload numberSignature

theorem numberIat_lt : 1700000000 < 2^64 := by norm_num

theorem numberAth_lt : 1 < 2^64 := by norm_num

def numberClaims : Claims :=
  [("htm",.string "GET"),("htu",.string "https://rs.example/r"),("jti",.string "p1"),
    ("iat",.number (.posInt 1700000000 numberIat_lt)),("ath",.number (.posInt 1 numberAth_lt))]

def numberParse (bytes : List UInt8) : Option Json :=
  if bytes = Text.asBytes numberPayload then some (.object numberClaims) else sampleParse bytes

def numberDecode (token key : String) (alg : Algorithm) : Except String Claims :=
  if alg = .edDsa ∧ token = numberProof ∧ key = sampleClientKey then
    orError (peekClaims {sampleParser with fromSlice := numberParse} token) "InvalidToken"
  else .error "InvalidSignature"

def numberCrates : Crates where
  __ := sampleCrates
  fromSlice := numberParse
  jsonwebtoken := {
    DecodingKey := String
    fromEcComponents _ _ := .error "InvalidEcdsaKey"
    fromRsaComponents _ _ := .error "InvalidRsaKey"
    fromEdComponents x := .ok x
    decode := numberDecode }

theorem numberCrates_decode (token key : String) (alg : Algorithm) :
    numberCrates.jsonwebtoken.decode token key alg = numberDecode token key alg := rfl

theorem numberCrates_payload : PayloadLaw numberCrates := by
  intro token key alg claims decoded
  have decoded : numberDecode token key alg = .ok claims := decoded
  unfold numberDecode at decoded
  split at decoded
  · exact (Except.orError_ok _ _ _).mp decoded
  · cases decoded

theorem numberParse_payload : numberParse (Text.asBytes numberPayload) = some (.object numberClaims) := if_pos rfl

theorem numberParse_header : numberParse (Text.asBytes proofHeader) =
    some (.object [("alg",.string "EdDSA"),("typ",.string "dpop+jwt"),
      ("jwk",.object [("kty",.string "OKP"),("crv",.string "Ed25519"),("x",.string sampleClientKey)])]) := by
  have other : Text.asBytes proofHeader ≠ Text.asBytes numberPayload := by
    intro same
    exact absurd (asBytes_injective _ _ same) (by decide +kernel)
  unfold numberParse
  rw [if_neg other]
  exact sampleParse_document proofHeader _ (List.mem_of_getElem? (i := 1) rfl)

theorem numberProof_compact : CompactJws numberProof (Base64Url.encode (Text.asBytes proofHeader))
    (Base64Url.encode (Text.asBytes numberPayload)) (Base64Url.encode numberSignature) := by
  apply encodedJws_compact
  · exact sampleDocuments_filled proofHeader _ (List.mem_of_getElem? (i := 1) rfl)
  · intro empty
    exact absurd (asBytes_injective numberPayload "" empty) (by decide +kernel)
  · exact List.cons_ne_nil _ _

theorem numberProof_claims : peekClaims numberCrates numberProof = some numberClaims :=
  (peekClaims_some _ _ _).mpr ⟨_,_,_,_,numberProof_compact,Base64Url.decode_encode _,numberParse_payload⟩

theorem numberProof_header :
    peekHeader numberCrates numberProof = .ok ⟨"EdDSA",some "dpop+jwt",some sampleClientJwk⟩ := by
  unfold peekHeader
  rw [(splitCompact_ok _ _ _ _).mpr numberProof_compact]
  simp only [Except.bind_ok,Except.orError_ok]
  exact ⟨_,rfl,_,Base64Url.decode_encode _,_,numberParse_header,"EdDSA",rfl,some sampleClientJwk,rfl,rfl⟩

theorem numberProof_signed : SignedProof ⟨false,false⟩ numberCrates numberProof numberClaims sampleClientJwk := by
  have decoded : numberCrates.jsonwebtoken.decode numberProof sampleClientKey .edDsa = .ok numberClaims := by
    rw [numberCrates_decode,numberDecode,if_pos ⟨rfl,rfl,rfl⟩]
    exact (Except.orError_ok _ _ _).mpr numberProof_claims
  have built : BuildsKey numberCrates sampleClientJwk sampleClientKey :=
    Or.inr (Or.inr ⟨rfl,sampleClientKey,rfl,rfl⟩)
  have isPublic : PublicKey sampleClientJwk := by
    unfold PublicKey
    decide
  exact ⟨⟨_,numberProof_header,rfl⟩,_,numberProof_header,by decide,by decide,by decide,sampleClientJwk,
    List.mem_singleton_self _,isPublic,.jsonwebtoken .edDsa sampleClientKey rfl built decoded⟩

def numberRequest : AuthRequest := {sampleRequest with dpop := some numberProof}

def compatConfig : VerifierConfig := {sampleConfig with allowMissingAth := true}

theorem numberProof_valid :
    ValidProof ⟨false,false⟩ numberCrates compatConfig 1700000010 numberRequest numberProof boundToken
      sampleThumbprint compatConfig.allowMissingAth numberClaims sampleClientJwk 1700000000 where
  signed := numberProof_signed
  htm := by decide
  htu := ⟨_,rfl,rfl⟩
  jti := ⟨"p1",rfl,by decide⟩
  issued := rfl
  fresh := sample_fresh
  ath := Or.inr ⟨rfl,rfl⟩
  bound := sample_thumbprint

/-- Under `allow_missing_ath` a proof whose signed `ath` is the number one passes. -/
theorem number_ath_accepted :
    verifiedProof ⟨false,false⟩ numberCrates numberProof = .ok (numberClaims,sampleClientJwk) ∧
      checkDpop ⟨false,false⟩ numberCrates compatConfig 1700000010 numberRequest boundToken true
        (some sampleThumbprint) = .ok () ∧
      ¬AthHonoured numberCrates compatConfig numberClaims boundToken := by
  refine ⟨?_,?_,?_⟩
  · exact (verifiedProof_ok _ _ numberCrates_payload _ _ _).mpr numberProof_signed
  · apply (checkDpop_ok _ _ numberCrates_payload _ _ _ _ _ _ _).mpr
    intro _
    exact ⟨sampleThumbprint,numberProof,_,_,_,rfl,rfl,numberProof_valid⟩
  · intro honoured
    cases honoured.1 _ rfl

end number

end SolidOidcVerifier
