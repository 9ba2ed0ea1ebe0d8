import SolidOidcVerifier.Acceptance

/-! Which `jti` a verification hands to the replay store. -/
namespace SolidOidcVerifier
open Foundation

variable {S : Type}

def MarksNothing (before after : World S) : Prop :=
  after.store = before.store ∧
    ∃ calls, after.calls = before.calls ++ calls ∧ ∀ jti ttl, Call.mark jti ttl ∉ calls

theorem MarksNothing.refl (world : World S) : MarksNothing world world := ⟨rfl,[],by simp,by simp⟩

theorem MarksNothing.trans (first second third : World S) (earlier : MarksNothing first second)
    (later : MarksNothing second third) : MarksNothing first third := by
  obtain ⟨same,calls,grown,clean⟩ := earlier
  obtain ⟨still,others,further,silent⟩ := later
  refine ⟨still.trans same,calls ++ others,by rw [further,grown,List.append_assoc],?_⟩
  intro jti ttl member
  rcases List.mem_append.mp member with inside | inside
  · exact clean jti ttl inside
  · exact silent jti ttl inside

theorem keysFor_marks_nothing (env : Env S) (issuer : String) :
    Exec.Within MarksNothing (keysFor env issuer) := by
  intro world
  exact ⟨rfl,[.keysFor issuer],rfl,by simp⟩

theorem validateToken_marks_nothing (env : Env S) (config : VerifierConfig) (req : AuthRequest)
    (parsed : Parsed) (issuer : String) (dpopScheme : Bool) :
    Exec.Within MarksNothing (validateToken env config req parsed issuer dpopScheme) := by
  apply Exec.bind_within MarksNothing MarksNothing.trans
  · apply Exec.bind_within MarksNothing MarksNothing.trans _ _ (Exec.lift_within _ MarksNothing.refl _)
    intro header
    apply Exec.bind_within MarksNothing MarksNothing.trans _ _ (Exec.lift_within _ MarksNothing.refl _)
    intro _
    apply Exec.bind_within MarksNothing MarksNothing.trans _ _ (Exec.lift_within _ MarksNothing.refl _)
    intro _
    apply Exec.bind_within MarksNothing MarksNothing.trans _ _ (keysFor_marks_nothing env issuer)
    intro keys
    apply Exec.bind_within MarksNothing MarksNothing.trans _ _ (Exec.lift_within _ MarksNothing.refl _)
    intro claims
    apply Exec.bind_within MarksNothing MarksNothing.trans _ _ (Exec.checked_within _ MarksNothing.refl _)
    intro _
    exact Exec.pure_within _ MarksNothing.refl _
  · intro claims
    apply Exec.bind_within MarksNothing MarksNothing.trans _ _ (Exec.checked_within _ MarksNothing.refl _)
    intro _
    exact Exec.pure_within _ MarksNothing.refl _

theorem authenticate_marks_nothing (env : Env S) (config : VerifierConfig) (req : AuthRequest)
    (parsed : Parsed) : Exec.Within MarksNothing (authenticate env config req parsed) := by
  apply Exec.bind_within MarksNothing MarksNothing.trans _ _ (Exec.lift_within _ MarksNothing.refl _)
  intro _
  apply Exec.bind_within MarksNothing MarksNothing.trans _ _ (Exec.lift_within _ MarksNothing.refl _)
  intro issuer
  apply Exec.bind_within MarksNothing MarksNothing.trans _ _ (Exec.lift_within _ MarksNothing.refl _)
  intro _
  apply Exec.bind_within MarksNothing MarksNothing.trans _ _
    (validateToken_marks_nothing env config req parsed issuer _)
  intro claims
  apply Exec.bind_within MarksNothing MarksNothing.trans _ _ (Exec.lift_within _ MarksNothing.refl _)
  intro webId
  apply Exec.bind_within MarksNothing MarksNothing.trans _ _ (Exec.lift_within _ MarksNothing.refl _)
  intro _
  exact Exec.pure_within _ MarksNothing.refl _

theorem checkBidirectional_marks_nothing (config : VerifierConfig) (webId issuer : String) :
    Exec.Within MarksNothing (checkBidirectional config webId issuer : Exec (World S) VerifyError Unit) := by
  unfold checkBidirectional
  split
  · exact Exec.pure_within _ MarksNothing.refl _
  · split
    · exact Exec.lift_within _ MarksNothing.refl _
    · apply Exec.bind_within MarksNothing MarksNothing.trans
      · intro world
        exact ⟨rfl,[.resolve webId],rfl,by simp⟩
      · intro profile
        exact Exec.lift_within _ MarksNothing.refl _

theorem checkReplay_run (env : Env S) (config : VerifierConfig) (proof : String) (world : World S) :
    checkReplay env config proof world =
      match proofJti env.crates proof,config.replayTtl env.build with
      | none,_ => (.error (.rejected (invalidTokenDpop "DPoP proof is missing a jti.")),world)
      | some _,none => (.error .panicked,world)
      | some jti,some ttl => (acceptReply config (env.replay.mark jti ttl world.store).1,
          ⟨(env.replay.mark jti ttl world.store).2,world.calls ++ [.mark jti ttl]⟩) := by
  unfold checkReplay
  cases proofJti env.crates proof with
  | none => rfl
  | some jti =>
    cases config.replayTtl env.build with
    | none => rfl
    | some ttl => rfl

def openConfig : VerifierConfig := {sampleConfig with requireDpop := false}

theorem sampleBearer_authentic (req : AuthRequest) (payload : String) (cnf : Claims) (signature : List UInt8)
    (short : cnf = [] ∨ ∃ value, cnf = [("cnf",value)])
    (known : (payload,sampleClaims cnf) ∈ sampleDocuments) (filled : signature ≠ [])
    (signed : (sampleToken accessHeader payload signature,sampleIssuerKey) ∈ sampleSignatures)
    (jkt : extractCnfJkt (sampleClaims cnf) = none) (x5t : extractCnfX5tS256 (sampleClaims cnf) = none) :
    Authentic sampleEnv openConfig req false (sampleToken accessHeader payload signature)
      "https://idp.example" (sampleClaims cnf) "https://alice.example/card#me" := by
  have payloadRead := sampleToken_claims accessHeader payload _ (sampleClaims cnf) signature
    (List.mem_of_getElem? (i := 0) rfl) known filled
  have valid := sampleToken_valid payload cnf signature short known filled signed
  have possession : Possession sampleEnv.build sampleEnv.crates openConfig (nowSecs sampleEnv.proofClock) req
      (sampleToken accessHeader payload signature) false (sampleClaims cnf) := by
    refine ⟨?_,?_,?_⟩
    · rw [x5t]
      simp
    · intro needed
      rw [jkt] at needed
      simp [openConfig] at needed
    · intro thumbprint bound
      rw [x5t] at bound
      cases bound
  have claimed : (sampleClaims cnf).str "iss" = some "https://idp.example" ∧
      (sampleClaims cnf).str "webid" = some "https://alice.example/card#me" := by
    rcases short with none | ⟨value,some⟩
    · rw [none]
      exact ⟨rfl,rfl⟩
    · rw [some]
      exact ⟨rfl,rfl⟩
  obtain ⟨exp,iat,temporal⟩ := valid.2.temporal
  exact ⟨by simp [openConfig],⟨_,payloadRead,claimed.1,by decide,by decide⟩,
    ⟨valid.1,valid.2.required,valid.2.issuer,valid.2.audience,exp,iat,temporal.expiry,temporal.unexpired,
      temporal.begun,temporal.issued,temporal.past⟩,possession,
    ⟨claimed.2,by decide,_,rfl,rfl,rfl,rfl⟩,Or.inl rfl⟩

theorem sampleBearer_presents (token : String) (visible : ∀ c ∈ token.toList, Text.isWhitespace c = false)
    (filled : token ≠ "") : Presents (some ("Bearer " ++ token)) false token :=
  presents_plain false "Bearer " token ['B','e','a','r','e','r'] (by decide) (by decide +kernel)
    (by simp [Text.isWhitespace]) (by simp) visible filled

theorem sampleToken_ne_empty (header payload : String) (signature : List UInt8) :
    sampleToken header payload signature ≠ "" := by
  intro empty
  have chars := congrArg String.toList empty
  unfold sampleToken encodedJws at chars
  rw [String.toList_ofList] at chars
  simp at chars

end SolidOidcVerifier
