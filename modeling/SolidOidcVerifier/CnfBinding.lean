import SolidOidcVerifier.ReplayMarks

/-! Which `cnf.jkt` members of an accepted token had their proof validated. -/
namespace SolidOidcVerifier
open Foundation

variable {S : Type}

/-- SHA-256 digests have 32 bytes. -/
def DigestLaw (crates : Crates) : Prop := ∀ bytes, (crates.sha256 bytes).length = 32

theorem thumbprint_ne_empty (crates : Crates) (law : DigestLaw crates) (jwk : Jwk) (thumbprint : String)
    (computed : jwk.thumbprintSha256 crates = .ok thumbprint) : thumbprint ≠ "" := by
  intro empty
  unfold Jwk.thumbprintSha256 at computed
  cases canonical : jwk.canonical with
  | error e =>
    rw [canonical] at computed
    cases computed
  | ok text =>
    rw [canonical] at computed
    change Except.ok (digestText crates text) = .ok thumbprint at computed
    have chars := congrArg String.toList (Except.ok.inj computed)
    unfold digestText at chars
    rw [String.toList_ofList,empty] at chars
    have digest := (Base64Url.encode_eq_nil _).mp chars
    have width := law (Text.asBytes text)
    rw [digest] at width
    cases width

/-- The request carries a proof whose key has the thumbprint that the member holds. -/
def ProvesMember (env : Env S) (config : VerifierConfig) (req : AuthRequest) (token : String)
    (member : Json) : Prop :=
  ∃ jkt proof proofClaims jwk iat, member = .string jkt ∧ req.dpop = some proof ∧
    ValidProof env.build env.crates config (nowSecs env.proofClock) req proof token jkt
      config.allowMissingAth proofClaims jwk iat

theorem extractCnfJkt_some (claims : Claims) (jkt : String) :
    extractCnfJkt claims = some jkt ↔ cnfMember claims "jkt" = some (.string jkt) ∧ jkt ≠ "" := by
  unfold extractCnfJkt
  rw [Option.filter_eq_some_iff,Option.bind_eq_some_iff]
  simp only [Json.asStr_some,exists_eq_right,decide_eq_true_eq]

/-- An accepted request whose signed claims have a `cnf.jkt` member proved possession of it exactly
where the member is a non-empty string. -/
theorem jkt_member_proved_iff (env : Env S) (law : PayloadLaw env.crates) (digests : DigestLaw env.crates)
    (config : VerifierConfig) (req : AuthRequest) (world : World S) (accepted : VerifiedToken)
    (webId : String) (dpopScheme : Bool) (token issuer : String) (claims : Claims) (member : Json)
    (ok : (verify env config req world).1 = .ok accepted) (authenticated : accepted.webId = some webId)
    (presents : Presents req.authorization dpopScheme token)
    (signed : ValidAccessToken env config token issuer claims)
    (bound : cnfMember claims "jkt" = some member) :
    ProvesMember env config req token member ↔ ∃ text, member = .string text ∧ text ≠ "" := by
  apply Iff.intro
  · intro proved
    obtain ⟨jkt,_,_,jwk,_,text,_,valid⟩ := proved
    exact ⟨jkt,text,thumbprint_ne_empty env.crates digests jwk jkt valid.bound⟩
  · intro readable
    obtain ⟨text,string,filled⟩ := readable
    obtain ⟨_,accepts⟩ := accepts_of_presented env law config req world accepted webId dpopScheme token issuer claims ok
      authenticated presents signed
    rw [string] at bound
    have jkt := (extractCnfJkt_some claims text).mpr ⟨bound,filled⟩
    obtain ⟨found,proof,proofClaims,jwk,iat,named,given,valid⟩ :=
      accepts.authentic.possession.dpop (Or.inl (Option.isSome_of_mem jkt))
    rw [jkt] at named
    cases named
    exact ⟨text,proof,proofClaims,jwk,iat,string,given,valid⟩

theorem sampleCrates_digest : DigestLaw sampleCrates := by
  intro bytes
  rw [sampleCrates_sha256]
  unfold sampleDigest
  split <;> rfl

theorem sampleRequest_proves_member :
    ProvesMember sampleEnv sampleConfig sampleRequest boundToken (.string sampleThumbprint) := by
  apply (jkt_member_proved_iff sampleEnv sampleCrates_payload sampleCrates_digest sampleConfig sampleRequest
    ⟨[],[]⟩ _ _ true boundToken "https://idp.example" boundClaims _ sampleRequest_verified rfl
    sampleRequest_presents boundToken_valid rfl).mpr
  exact ⟨sampleThumbprint,rfl,by decide⟩

def emptyJktRequest : AuthRequest where
  authorization := some ("Bearer " ++ emptyJktToken)
  dpop := none
  method := "GET"
  url := "https://rs.example/r"
  clientCertX5tS256 := none

def emptyJktClaims : Claims := sampleClaims [("cnf",.object [("jkt",.string "")])]

/-- A token with an empty `cnf.jkt` passes as an unbound bearer token, without any proof. -/
theorem empty_jkt_reads_as_absent :
    (∃ accepted, (verify sampleEnv openConfig emptyJktRequest ⟨[],[]⟩).1 = .ok accepted ∧
        accepted.webId = some "https://alice.example/card#me") ∧
      Presents emptyJktRequest.authorization false emptyJktToken ∧
      ValidAccessToken sampleEnv openConfig emptyJktToken "https://idp.example" emptyJktClaims ∧
      cnfMember emptyJktClaims "jkt" = some (.string "") ∧
      ¬ProvesMember sampleEnv openConfig emptyJktRequest emptyJktToken (.string "") := by
  have presents : Presents emptyJktRequest.authorization false emptyJktToken :=
    sampleBearer_presents emptyJktToken (sampleToken_visible _ _ _) (sampleToken_ne_empty _ _ _)
  have authentic : Authentic sampleEnv openConfig emptyJktRequest false emptyJktToken "https://idp.example"
      emptyJktClaims "https://alice.example/card#me" :=
    sampleBearer_authentic emptyJktRequest emptyJktPayload _ _ (Or.inr ⟨_,rfl⟩)
      (List.mem_of_getElem? (i := 4) rfl) (List.cons_ne_nil _ _) (List.mem_of_getElem? (i := 2) rfl) rfl rfl
  have unreplayed : Unreplayed sampleEnv openConfig emptyJktRequest [] := by
    intro proof given
    cases given
  have confirmed : ProfileConfirms openConfig "https://alice.example/card#me" "https://idp.example" := by
    intro strict
    cases strict
  have unproved : ¬ProvesMember sampleEnv openConfig emptyJktRequest emptyJktToken (.string "") := by
    intro proved
    obtain ⟨_,_,_,_,_,_,given,_⟩ := proved
    cases given
  exact ⟨⟨_,verify_of_accepts sampleEnv sampleCrates_payload openConfig emptyJktRequest ⟨[],[]⟩ _ _ _ _ _
    ⟨presents,authentic,unreplayed,confirmed⟩,rfl⟩,presents,authentic.access,rfl,unproved⟩

end SolidOidcVerifier
