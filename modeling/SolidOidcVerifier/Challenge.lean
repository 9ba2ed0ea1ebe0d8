import SolidOidcVerifier.Acceptance
import SolidOidcVerifier.Foundation.FieldText

/-! Which texts the error of a verification quotes, and when its challenge is a legal header value. -/
namespace SolidOidcVerifier
open Foundation

theorem escapeQuoted_printable (text : String) : FieldText (escapeQuoted text) ↔ FieldText text := by
  unfold escapeQuoted FieldText
  rw [String.toList_ofList,FieldText.replace _ _ _ (by decide) (by simp [fieldChar]),
    FieldText.replace _ _ _ (by decide) (by simp [fieldChar])]

theorem dpopAlgs_printable : ∀ alg ∈ dpopAlgs, FieldText alg := by decide +kernel

theorem wwwAuthenticate_printable (config : VerifierConfig) (error : VerifyError)
    (issuers : ∀ issuer ∈ config.trustedIssuers, FieldText issuer) :
    FieldText (wwwAuthenticate config error) ↔ FieldText error.message := by
  have named : FieldText (escapeQuoted (String.intercalate " " config.trustedIssuers)) :=
    (escapeQuoted_printable _).mpr ((FieldText.intercalate " " (.literal _ rfl) _).mpr issuers)
  have code : FieldText error.kind.code := by cases error.kind <;> decide
  have algs : FieldText (String.intercalate " " dpopAlgs) :=
    (FieldText.intercalate " " (.literal _ rfl) _).mpr dpopAlgs_printable
  unfold wwwAuthenticate VerifyError.wwwAuthenticate
  have opening : FieldText ((if (error.dpop || config.requireDpop) = true then "DPoP" else "Bearer") ++ " ") := by
    split <;> decide
  rw [FieldText.append,FieldText.intercalate ", " (.literal _ rfl),List.forall_mem_append,List.forall_mem_cons,
    List.forall_mem_cons,List.forall_mem_cons,List.forall_mem_singleton,
    FieldText.quoted _ _ _ (.literal _ rfl) (.literal _ rfl),FieldText.quoted _ _ _ (.literal _ rfl) (.literal _ rfl),
    FieldText.quoted _ _ _ (.literal _ rfl) (.literal _ rfl),escapeQuoted_printable]
  have scope : FieldText "scope=\"webid\"" := by decide
  have last : ∀ text ∈ (if (error.dpop || config.requireDpop) = true then
      ["algs=\"" ++ String.intercalate " " dpopAlgs ++ "\""] else []), FieldText text := by
    split
    · rw [List.forall_mem_singleton,FieldText.quoted _ _ _ (.literal _ rfl) (.literal _ rfl)]
      exact algs
    · simp
  constructor
  · intro printable
    exact printable.2.1.2.1
  · intro printable
    exact ⟨opening,⟨code,printable,scope,named⟩,last⟩

/-- The result's error is printable exactly where the text is. -/
def Quotes {α : Type} (result : Except (Stop VerifyError) α) (text : Option String) : Prop :=
  ∀ error, result = .error (.rejected error) → (FieldText error.message ↔ ∀ quote ∈ text, FieldText quote)

/-- The quote of a sequence: its own text where the first part fails. -/
def quoteThen {ε α : Type} (first : Except ε α) (own : Option String) (next : α → Option String) : Option String :=
  match first with
  | .error _ => own
  | .ok value => next value

theorem quoteThen_mapError {ε δ α : Type} (change : ε → δ) (first : Except ε α) (own : Option String)
    (next : α → Option String) : quoteThen (first.mapError change) own next = quoteThen first own next := by
  cases first <;> rfl

theorem quoteThen_none {ε α : Type} (first : Except ε α) : quoteThen first none (fun _ => none) = none := by
  cases first <;> rfl

namespace Quotes

variable {α β S : Type}

theorem of_error (error : VerifyError) (text : Option String)
    (same : FieldText error.message ↔ ∀ quote ∈ text, FieldText quote) :
    Quotes (.error (.rejected error) : Except (Stop VerifyError) α) text := by
  intro other failed
  cases failed
  exact same

theorem of_ok (value : α) (text : Option String) : Quotes (.ok value) text := by
  intro error failed
  cases failed

theorem quoting (error : VerifyError) (text : String) (same : FieldText error.message ↔ FieldText text) :
    Quotes (.error (.rejected error) : Except (Stop VerifyError) α) (some text) := by
  apply of_error
  simp [same]

theorem constant (error : VerifyError) (printable : FieldText error.message) :
    Quotes (.error (.rejected error) : Except (Stop VerifyError) α) none := by
  apply of_error
  simp [printable]

theorem panicked (text : Option String) : Quotes (.error .panicked : Except (Stop VerifyError) α) text := by
  intro error failed
  cases failed

theorem bind (first : Except (Stop VerifyError) α) (next : α → Except (Stop VerifyError) β) (own : Option String)
    (rest : α → Option String) (fails : Quotes first own)
    (continues : ∀ value, first = .ok value → Quotes (next value) (rest value)) :
    Quotes (first >>= next) (quoteThen first own rest) := by
  cases first with
  | error stop =>
    intro error failed
    cases failed
    exact fails error rfl
  | ok value => exact continues value rfl

theorem run_bind (first : Exec (World S) VerifyError α) (next : α → Exec (World S) VerifyError β)
    (world : World S) (own : Option String) (rest : α → Option String) (fails : Quotes (first world).1 own)
    (continues : ∀ value after, first world = (.ok value,after) → Quotes (next value after).1 (rest value)) :
    Quotes ((first >>= next) world).1 (quoteThen (first world).1 own rest) := by
  generalize outcome : first world = found at fails
  obtain ⟨result,after⟩ := found
  cases result with
  | error stop =>
    rw [Exec.bind_of_error _ _ world after stop outcome]
    intro error failed
    cases failed
    exact fails error rfl
  | ok value =>
    rw [Exec.bind_of_ok _ _ world after value outcome]
    exact continues value after outcome

theorem lift_then (result : Except VerifyError α) (next : α → Exec (World S) VerifyError β) (world : World S)
    (own : Option String) (rest : α → Option String) (fails : Quotes (liftStop result) own)
    (continues : ∀ value, result = .ok value → Quotes (next value world).1 (rest value)) :
    Quotes ((Exec.lift result >>= next) world).1 (quoteThen result own rest) := by
  cases result with
  | error error =>
    rw [Exec.bind_of_error (Exec.lift (.error error)) next world world (.rejected error) rfl]
    intro other failed
    cases failed
    exact fails error rfl
  | ok value =>
    rw [Exec.bind_of_ok (Exec.lift (.ok value)) next world world value rfl]
    exact continues value rfl

theorem lift_ensure (condition : Prop) [Decidable condition] (error : VerifyError)
    (next : Unit → Exec (World S) VerifyError α) (world : World S) (text : Option String)
    (printable : FieldText error.message) (continues : condition → Quotes (next () world).1 text) :
    Quotes ((Exec.lift (Foundation.ensure condition error) >>= next) world).1 (if condition then text else none) := by
  unfold Foundation.ensure
  split
  · rename_i holds
    rw [Exec.bind_of_ok (Exec.lift (.ok ())) next world world () rfl]
    exact continues holds
  · rw [Exec.bind_of_error (Exec.lift (.error error)) next world world (.rejected error) rfl]
    intro other failed
    cases failed
    simp [printable]

theorem bind_none (first : Except (Stop VerifyError) α) (next : α → Except (Stop VerifyError) β)
    (fails : Quotes first none) (continues : ∀ value, first = .ok value → Quotes (next value) none) :
    Quotes (first >>= next) none := by
  have both := bind first next none (fun _ => none) fails continues
  rwa [quoteThen_none] at both

theorem run_none (first : Exec (World S) VerifyError α) (next : α → Exec (World S) VerifyError β)
    (world : World S) (fails : Quotes (first world).1 none)
    (continues : ∀ value after, Quotes (next value after).1 none) : Quotes ((first >>= next) world).1 none := by
  have both := run_bind first next world none (fun _ => none) fails fun value after _ => continues value after
  rwa [quoteThen_none] at both

/-- A part that quotes only where it fails, before a part that never does. -/
theorem bind_spent (first : Except (Stop VerifyError) α) (next : α → Except (Stop VerifyError) β)
    (text : Option String) (fails : Quotes first text)
    (continues : ∀ value, first = .ok value → text = none ∧ Quotes (next value) none) :
    Quotes (first >>= next) text := by
  cases first with
  | error stop =>
    intro error failed
    cases failed
    exact fails error rfl
  | ok value =>
    obtain ⟨spent,rest⟩ := continues value rfl
    rw [spent]
    exact rest

theorem ensure (condition : Prop) [Decidable condition] (error : VerifyError)
    (printable : FieldText error.message) : Quotes (rejectUnless condition error) none := by
  unfold rejectUnless Foundation.ensure
  split
  · exact of_ok _ _
  · exact constant _ printable

theorem ensure_then (condition : Prop) [Decidable condition] (error : VerifyError)
    (next : Except (Stop VerifyError) α) (text : Option String) (printable : FieldText error.message)
    (continues : condition → Quotes next text) :
    Quotes (rejectUnless condition error >>= fun _ => next) (if condition then text else none) := by
  unfold rejectUnless Foundation.ensure
  split
  · rename_i holds
    exact continues holds
  · exact constant _ printable

theorem orError_then {δ : Type} (value : Option δ) (error : VerifyError)
    (next : δ → Except (Stop VerifyError) α) (text : δ → Option String) (printable : FieldText error.message)
    (continues : ∀ found, value = some found → Quotes (next found) (text found)) :
    Quotes (liftStop (Foundation.orError value error) >>= next) (value.bind text) := by
  cases value with
  | none => exact constant _ printable
  | some found => exact continues found rfl

theorem arith (value : Option Int) : Quotes (SolidOidcVerifier.arith value) none := by
  cases value with
  | none => exact panicked _
  | some value => exact of_ok _ _

theorem mapError (result : Except VerifyError α) (change : VerifyError → VerifyError) (text : Option String)
    (same : ∀ error, FieldText (change error).message ↔ FieldText error.message)
    (quotes : Quotes (liftStop result) text) : Quotes (liftStop (result.mapError change)) text := by
  cases result with
  | ok value => exact of_ok _ _
  | error error => exact of_error _ _ ((same error).trans (quotes error rfl))

theorem orError (value : Option α) (error : VerifyError) (printable : FieldText error.message) :
    Quotes (liftStop (Foundation.orError value error)) none := by
  cases value with
  | none => exact constant _ printable
  | some value => exact of_ok _ _

end Quotes

theorem liftStop_bind {α β : Type} (first : Except VerifyError α) (next : α → Except VerifyError β) :
    liftStop (first >>= next) = liftStop first >>= fun value => liftStop (next value) := by
  cases first <;> rfl

theorem liftStop_ensure (condition : Prop) [Decidable condition] (error : VerifyError) :
    liftStop (ensure condition error) = rejectUnless condition error := by
  unfold rejectUnless ensure
  split <;> rfl

section tokens

variable (build : Build) (crates : Crates)

theorem splitCompact_quotes (token : String) : Quotes (liftStop (splitCompact token)) none := by
  unfold splitCompact
  split
  · split
    · exact .of_ok _ _
    · exact .constant _ (.literal _ rfl)
  · exact .constant _ (.literal _ rfl)

theorem jwkParameter_quotes (header : Json) : Quotes (liftStop (jwkParameter header)) none := by
  unfold jwkParameter
  split
  · exact .of_ok _ _
  · exact .of_ok _ _
  · split
    · exact .of_ok _ _
    · exact .constant _ (.literal _ rfl)

theorem peekHeader_quotes (token : String) : Quotes (liftStop (peekHeader crates token)) none := by
  unfold peekHeader
  simp only [liftStop_bind]
  refine .bind_none _ _ (splitCompact_quotes token) fun segments _ => ?_
  refine .bind_none _ _ (.orError _ _ (.literal _ rfl)) fun bytes _ => ?_
  refine .bind_none _ _ (.orError _ _ (.literal _ rfl)) fun v _ => ?_
  refine .bind_none _ _ (.orError _ _ (.literal _ rfl)) fun alg _ => ?_
  exact .bind_none _ _ (jwkParameter_quotes v) fun jwk _ => .of_ok _ _

theorem peekIssuer_quotes (token : String) : Quotes (liftStop (peekIssuer crates token)) none := by
  unfold peekIssuer
  rw [liftStop_bind]
  refine .bind_none _ _ (.orError _ _ (.literal _ rfl)) fun claims _ => ?_
  split
  · split
    · exact .of_ok _ _
    · exact .constant _ (.literal _ rfl)
  · exact .constant _ (.literal _ rfl)

theorem enforceTyp_quotes (header : Header) (want : String) (printable : FieldText want) :
    Quotes (liftStop (enforceTyp header (some want))) none := by
  unfold enforceTyp
  simp only [liftStop_ensure]
  exact .ensure _ _ ((FieldText.quoted _ want _ (.literal _ rfl) (.literal _ rfl)).mpr printable)

theorem publicOnly_quotes (jwk : Jwk) : Quotes (liftStop (publicOnly jwk)) none := by
  unfold publicOnly
  simp only [liftStop_bind,liftStop_ensure]
  exact .bind_none _ _ (.ensure _ _ (.literal _ rfl)) fun _ _ => .ensure _ _ (.literal _ rfl)

theorem firstVerified_quotes (verify : Jwk → Except VerifyError Claims) (quote : Jwk → Option String)
    (keys : List Jwk) (each : ∀ jwk ∈ keys, Quotes (liftStop (verify jwk)) (quote jwk)) :
    ∀ lastErr own, Quotes (liftStop (firstVerified verify [] lastErr)) own →
      Quotes (liftStop (firstVerified verify keys lastErr)) ((keys.getLast?.map quote).getD own) := by
  induction keys with
  | nil =>
    intro lastErr own last
    exact last
  | cons jwk rest ih =>
    intro lastErr own last
    have first := each jwk List.mem_cons_self
    have others := ih (fun other member => each other (List.mem_cons_of_mem _ member))
    unfold firstVerified
    cases tried : verify jwk with
    | ok claims => exact .of_ok _ _
    | error e =>
      rw [tried] at first
      have kept := others (some e) (quote jwk) (.of_error e _ (first e rfl))
      rw [List.getLast?_cons]
      cases ending : rest.getLast? with
      | none =>
        rw [ending] at kept
        exact kept
      | some final =>
        rw [ending] at kept
        exact kept

theorem p521VerifyingKeyFromJwk_quotes (jwk : Jwk) :
    Quotes (liftStop (p521VerifyingKeyFromJwk crates jwk)) none := by
  unfold p521VerifyingKeyFromJwk
  simp only [liftStop_bind,liftStop_ensure]
  refine .bind_none _ _ (publicOnly_quotes jwk) fun _ _ => ?_
  refine .bind_none _ _ (.ensure _ _ (.literal _ rfl)) fun _ _ => ?_
  refine .bind_none _ _ (.ensure _ _ (.literal _ rfl)) fun _ _ => ?_
  refine .bind_none _ _ (.orError _ _ (.literal _ rfl)) fun x _ => ?_
  refine .bind_none _ _ (.orError _ _ (.literal _ rfl)) fun y _ => ?_
  refine .bind_none _ _ (.orError _ _ (.literal _ rfl)) fun xBytes _ => ?_
  refine .bind_none _ _ (.orError _ _ (.literal _ rfl)) fun yBytes _ => ?_
  exact .bind_none _ _ (.ensure _ _ (.literal _ rfl)) fun _ _ => .orError _ _ (.literal _ rfl)

theorem verifyEs512With_quotes (signingInput : List Char) (signature : crates.p521.Signature)
    (claims : Claims) (jwk : Jwk) :
    Quotes (liftStop (verifyEs512With crates signingInput signature claims jwk)) none := by
  unfold verifyEs512With
  simp only [liftStop_bind,liftStop_ensure]
  refine .bind_none _ _ (p521VerifyingKeyFromJwk_quotes crates jwk) fun key _ => ?_
  exact .bind_none _ _ (.ensure _ _ (.literal _ rfl)) fun _ _ => .of_ok _ _

theorem verifyEs512OverCandidates_quotes (token : String) (keys : List Jwk) :
    Quotes (liftStop (verifyEs512OverCandidates crates token keys)) none := by
  unfold verifyEs512OverCandidates
  simp only [liftStop_bind,liftStop_ensure]
  refine .bind_none _ _ (.ensure _ _ (.literal _ rfl)) fun _ _ => ?_
  refine .bind_none _ _ (splitCompact_quotes token) fun segments _ => ?_
  obtain ⟨h,p,s⟩ := segments
  refine .bind_none _ _ (.orError _ _ (.literal _ rfl)) fun sigBytes _ => ?_
  refine .bind_none _ _ (.ensure _ _ (.literal _ rfl)) fun _ _ => ?_
  refine .bind_none _ _ (.orError _ _ (.literal _ rfl)) fun signature _ => ?_
  refine .bind_none _ _ (.orError _ _ (.literal _ rfl)) fun claims _ => ?_
  have tried := firstVerified_quotes (verifyEs512With crates (h ++ '.' :: p) signature claims) (fun _ => none) keys
    (fun jwk _ => verifyEs512With_quotes crates _ signature claims jwk) none none (.constant _ (.literal _ rfl))
  cases ending : keys.getLast? with
  | none =>
    rw [ending] at tried
    exact tried
  | some final =>
    rw [ending] at tried
    exact tried

def algQuote (alg : String) : Option String := if algInPolicy alg then none else some alg

theorem unsupportedAlg_quotes (alg : String) :
    Quotes (rejectUnless (algInPolicy alg)
      (invalidToken ("Unsupported or non-asymmetric signature algorithm: " ++ alg ++ "."))) (algQuote alg) := by
  unfold rejectUnless ensure algQuote
  split
  · exact .of_ok _ _
  · exact .quoting _ _ (FieldText.quoted _ alg _ (.literal _ rfl) (.literal _ rfl))

theorem mapAlgorithm_quotes (alg : String) : Quotes (liftStop (mapAlgorithm build alg)) (algQuote alg) := by
  have whole : algQuote alg = quoteThen (rejectUnless (algInPolicy alg)
      (invalidToken ("Unsupported or non-asymmetric signature algorithm: " ++ alg ++ "."))) (algQuote alg)
      fun _ => none := by
    unfold algQuote rejectUnless ensure
    split <;> rfl
  rw [whole]
  unfold mapAlgorithm
  simp only [liftStop_bind,liftStop_ensure]
  refine .bind _ _ _ _ (unsupportedAlg_quotes alg) fun _ policy => ?_
  refine .bind_none _ _ (.ensure _ _ (.literal _ rfl)) fun _ other => ?_
  refine .bind_none _ _ (.ensure _ _ (.literal _ rfl)) fun _ verifiable => ?_
  -- An algorithm that gets here is one of the nine.
  rw [rejectUnless_ok] at policy other verifiable
  obtain ⟨a,named⟩ | fork := (acceptable_cases build alg).mp ⟨policy,verifiable⟩
  · rw [named]
    cases a <;> exact .of_ok _ _
  · exact absurd fork.2 other

def errorText {α : Type} : Except String α → Option String
  | .ok _ => none
  | .error text => some text

theorem backendKey_quotes {K : Type} (kind : String) (key : Except String K) (printable : FieldText kind) :
    Quotes (liftStop (backendKey kind key)) (errorText key) := by
  have opening : FieldText ("Invalid " ++ kind ++ " public key: ") :=
    (FieldText.quoted _ kind _ (.literal _ rfl) (.literal _ rfl)).mpr printable
  cases key with
  | ok key => exact .of_ok _ _
  | error text => exact .quoting _ _ (FieldText.quoted _ text _ opening (.literal _ rfl))

def keyQuote (jwk : Jwk) : Option String :=
  quoteThen (publicOnly jwk) none fun _ =>
    if jwk.kty = "EC" then do errorText (crates.jsonwebtoken.fromEcComponents (← jwk.x) (← jwk.y))
    else if jwk.kty = "RSA" then do errorText (crates.jsonwebtoken.fromRsaComponents (← jwk.n) (← jwk.e))
    else if jwk.kty = "OKP" then do errorText (crates.jsonwebtoken.fromEdComponents (← jwk.x))
    else some jwk.kty

theorem decodingKeyFromJwk_quotes (jwk : Jwk) :
    Quotes (liftStop (decodingKeyFromJwk crates jwk)) (keyQuote crates jwk) := by
  unfold decodingKeyFromJwk keyQuote
  rw [liftStop_bind,← quoteThen_mapError Stop.rejected]
  refine .bind _ _ _ _ (publicOnly_quotes jwk) fun _ _ => ?_
  split
  · simp only [liftStop_bind]
    refine .orError_then _ _ _ _ (.literal _ rfl) fun x _ => ?_
    exact .orError_then _ _ _ _ (.literal _ rfl) fun y _ => backendKey_quotes _ _ (.literal _ rfl)
  · split
    · simp only [liftStop_bind]
      refine .orError_then _ _ _ _ (.literal _ rfl) fun n _ => ?_
      exact .orError_then _ _ _ _ (.literal _ rfl) fun e _ => backendKey_quotes _ _ (.literal _ rfl)
    · split
      · simp only [liftStop_bind]
        exact .orError_then _ _ _ _ (.literal _ rfl) fun x _ => backendKey_quotes _ _ (.literal _ rfl)
      · exact .quoting _ _ (FieldText.quoted _ jwk.kty _ (.literal _ rfl) (.literal _ rfl))

def candidateQuote (token : String) (alg : Algorithm) (jwk : Jwk) : Option String :=
  quoteThen (decodingKeyFromJwk crates jwk) (keyQuote crates jwk) fun key =>
    errorText (crates.jsonwebtoken.decode token key alg)

theorem verifyWith_quotes (token : String) (alg : Algorithm) (jwk : Jwk) :
    Quotes (liftStop (verifyWith crates token alg jwk)) (candidateQuote crates token alg jwk) := by
  unfold verifyWith candidateQuote
  rw [liftStop_bind,← quoteThen_mapError Stop.rejected]
  refine .bind _ _ _ _ (decodingKeyFromJwk_quotes crates jwk) fun key _ => ?_
  cases crates.jsonwebtoken.decode token key alg with
  | ok claims => exact .of_ok _ _
  | error text =>
    apply Quotes.quoting
    change FieldText ("signature verification failed: " ++ text) ↔ _
    rw [FieldText.append]
    exact and_iff_right (.literal _ rfl)

/-- What the failure of a signature verification quotes: the algorithm, or what the last key does. -/
def signatureQuote (token : String) (keys : List Jwk) (want : String) : Option String :=
  quoteThen (peekHeader crates token) none fun header =>
    if build.es512 ∧ header.alg = "ES512" then none
    else quoteThen (mapAlgorithm build header.alg) (algQuote header.alg) fun alg =>
      quoteThen (enforceTyp header (some want)) none fun _ => keys.getLast?.bind (candidateQuote crates token alg)

theorem verifySignature_quotes (token : String) (keys : List Jwk) (want : String) (printable : FieldText want) :
    Quotes (liftStop (verifySignature build crates token keys (some want)))
      (signatureQuote build crates token keys want) := by
  unfold verifySignature signatureQuote
  rw [liftStop_bind,← quoteThen_mapError Stop.rejected]
  refine .bind _ _ _ _ (peekHeader_quotes crates token) fun header _ => ?_
  split
  · rw [liftStop_bind]
    exact .bind_none _ _ (enforceTyp_quotes header want printable) fun _ _ =>
      verifyEs512OverCandidates_quotes crates token keys
  · rw [liftStop_bind,← quoteThen_mapError Stop.rejected]
    refine .bind _ _ _ _ (mapAlgorithm_quotes build header.alg) fun alg _ => ?_
    rw [liftStop_bind,← quoteThen_mapError Stop.rejected]
    refine .bind _ _ _ _ (enforceTyp_quotes header want printable) fun _ _ => ?_
    have tried := firstVerified_quotes (verifyWith crates token alg) (candidateQuote crates token alg) keys
      (fun jwk _ => verifyWith_quotes crates token alg jwk) none none (.constant _ (.literal _ rfl))
    rw [liftStop_bind,liftStop_ensure]
    cases ending : keys.getLast? with
    | none =>
      rw [ending] at tried
      exact .bind_none _ _ (.ensure _ _ (.literal _ rfl)) fun _ _ => tried
    | some final =>
      rw [ending] at tried
      have filled : keys ≠ [] := by
        intro empty
        rw [empty] at ending
        cases ending
      unfold rejectUnless ensure
      rw [if_pos filled]
      exact tried

def proofQuote (proof : String) : Option String :=
  quoteThen (peekHeader crates proof) none fun header =>
    header.jwk.bind fun jwk =>
      if ¬jwk.hasPrivateMaterial then
        if ¬jwk.isSymmetric then signatureQuote build crates proof [jwk] "dpop+jwt" else none
      else none

theorem verifiedProof_quotes (proof : String) :
    Quotes (liftStop (verifiedProof build crates proof)) (proofQuote build crates proof) := by
  unfold verifiedProof
  apply Quotes.mapError
  · intro error
    change FieldText ("DPoP proof verification failed: " ++ error.message) ↔ _
    rw [FieldText.append]
    exact and_iff_right (.literal _ rfl)
  unfold verifyProofWithEmbeddedJwk proofQuote
  rw [liftStop_bind,← quoteThen_mapError Stop.rejected]
  refine .bind _ _ _ _ (peekHeader_quotes crates proof) fun header _ => ?_
  rw [liftStop_bind]
  refine .orError_then _ _ _ _ (.literal _ rfl) fun jwk _ => ?_
  rw [liftStop_bind,liftStop_ensure]
  refine .ensure_then _ _ _ _ (.literal _ rfl) fun _ => ?_
  rw [liftStop_bind,liftStop_ensure]
  refine .ensure_then _ _ _ _ (.literal _ rfl) fun _ => ?_
  rw [liftStop_bind]
  have signed := verifySignature_quotes build crates proof [jwk] "dpop+jwt" (.literal _ rfl)
  cases verified : verifySignature build crates proof [jwk] (some "dpop+jwt") with
  | ok claims => exact .of_ok _ _
  | error error =>
    rw [verified] at signed
    exact .of_error _ _ (signed error rfl)

theorem verifiedProof_kty (proof : String) (claims : Claims) (jwk : Jwk)
    (verified : verifiedProof build crates proof = .ok (claims,jwk)) : FieldText jwk.kty := by
  unfold verifiedProof at verified
  rw [Except.mapError_ok] at verified
  unfold verifyProofWithEmbeddedJwk at verified
  simp only [Except.bind_ok,Except.ensure_ok,exists_const] at verified
  obtain ⟨header,_,key,_,_,_,signed,ran,same⟩ := verified
  cases same
  obtain ⟨_,_,_,_,_,other,member,_,keyed⟩ := verifySignature_sound build crates proof [jwk] _ _ ran
  rw [List.mem_singleton.mp member] at keyed
  cases keyed with
  | jsonwebtoken a decoding named built decoded =>
    obtain ⟨ec,_⟩ | ⟨rsa,_⟩ | ⟨okp,_⟩ := built
    · rw [ec]
      exact .literal _ rfl
    · rw [rsa]
      exact .literal _ rfl
    · rw [okp]
      exact .literal _ rfl
  | p521 signingInput point signature feature named built parts accepted =>
    exact .of_ignoreCase _ _ built.1 (by simp [fieldChar])

theorem canonical_error (jwk : Jwk) (error : JwkError) (failed : jwk.canonical = .error error) :
    (∃ name ∈ ["crv","x","y","e","n"], error = .missingMember name) ∨ error = .unsupportedKty jwk.kty := by
  have absent : ∀ (value : Option String) (name : String) (next : String → Except JwkError String),
      (orError value (.missingMember name) >>= next) = .error error →
        error = .missingMember name ∨ ∃ found, next found = .error error := by
    intro value name next failed
    cases value with
    | none =>
      cases failed
      exact Or.inl rfl
    | some found => exact Or.inr ⟨found,failed⟩
  unfold Jwk.canonical at failed
  split at failed
  · obtain same | ⟨_,failed⟩ := absent _ _ _ failed
    · exact Or.inl ⟨_,by simp,same⟩
    obtain same | ⟨_,failed⟩ := absent _ _ _ failed
    · exact Or.inl ⟨_,by simp,same⟩
    obtain same | ⟨_,failed⟩ := absent _ _ _ failed
    · exact Or.inl ⟨_,by simp,same⟩
    cases failed
  · split at failed
    · obtain same | ⟨_,failed⟩ := absent _ _ _ failed
      · exact Or.inl ⟨_,by simp,same⟩
      obtain same | ⟨_,failed⟩ := absent _ _ _ failed
      · exact Or.inl ⟨_,by simp,same⟩
      cases failed
    · split at failed
      · obtain same | ⟨_,failed⟩ := absent _ _ _ failed
        · exact Or.inl ⟨_,by simp,same⟩
        obtain same | ⟨_,failed⟩ := absent _ _ _ failed
        · exact Or.inl ⟨_,by simp,same⟩
        cases failed
      · cases failed
        exact Or.inr rfl

theorem thumbprint_quotes (jwk : Jwk) (printable : FieldText jwk.kty) :
    Quotes (liftStop ((jwk.thumbprintSha256 crates).mapError proofKeyError)) none := by
  unfold Jwk.thumbprintSha256
  cases canonical : jwk.canonical with
  | ok text => exact .of_ok _ _
  | error error =>
    apply Quotes.constant
    change FieldText ("DPoP proof key is invalid: " ++ error.display ++ ".")
    rw [FieldText.quoted _ _ _ (.literal _ rfl) (.literal _ rfl)]
    obtain ⟨name,member,same⟩ | same := canonical_error jwk error canonical
    · have names : ∀ name ∈ ["crv","x","y","e","n"], FieldText name := by simp; decide
      rw [same]
      exact (FieldText.quoted _ name _ (.literal _ rfl) (.literal _ rfl)).mpr (names name member)
    · rw [same]
      exact (FieldText.quoted _ jwk.kty _ (.literal _ rfl) (.literal _ rfl)).mpr printable

end tokens

section possession

variable (build : Build) (crates : Crates) (config : VerifierConfig)

theorem checkFreshness_quotes (now iat : Int) : Quotes (checkFreshness build config now iat) none := by
  unfold checkFreshness
  refine .bind_none _ _ ?_ fun width _ => ?_
  · cases config.freshnessWidth build with
    | none => exact .panicked _
    | some width => exact .of_ok _ _
  refine .bind_none _ _ (.arith _) fun difference _ => ?_
  exact .bind_none _ _ (.arith _) fun distance _ => .ensure _ _ (.literal _ rfl)

theorem checkAth_quotes (claims : Claims) (accessToken : String) (requireAth : Bool) :
    Quotes (liftStop (checkAth crates claims accessToken requireAth)) none := by
  unfold checkAth
  split
  · rw [liftStop_ensure]
    exact .ensure _ _ (.literal _ rfl)
  · rw [liftStop_ensure]
    exact .ensure _ _ (.literal _ rfl)

def presentedQuote (proof : String) : Option String :=
  quoteThen (verifiedProof build crates proof) (proofQuote build crates proof) fun _ => none

theorem validateDpopProof_quotes (now : Int) (req : AuthRequest) (proof accessToken cnfJkt : String)
    (requireAth : Bool) :
    Quotes (validateDpopProof build crates config now req proof accessToken cnfJkt requireAth)
      (presentedQuote build crates proof) := by
  unfold validateDpopProof presentedQuote
  rw [← quoteThen_mapError Stop.rejected]
  refine .bind _ _ _ _ (verifiedProof_quotes build crates proof) fun found verified => ?_
  obtain ⟨claims,jwk⟩ := found
  have kty := verifiedProof_kty build crates proof claims jwk ((liftStop_ok _ _).mp verified)
  refine .bind_none _ _ (.ensure _ _ (.literal _ rfl)) fun _ _ => ?_
  refine .bind_none _ _ (.ensure _ _ (.literal _ rfl)) fun _ _ => ?_
  refine .bind_none _ _ (.ensure _ _ (.literal _ rfl)) fun _ _ => ?_
  refine .bind_none _ _ (.orError _ _ (.literal _ rfl)) fun iat _ => ?_
  refine .bind_none _ _ (checkFreshness_quotes build config now iat) fun _ _ => ?_
  refine .bind_none _ _ (checkAth_quotes crates claims accessToken requireAth) fun _ _ => ?_
  refine .bind_none _ _ (thumbprint_quotes crates jwk kty) fun proofJkt _ => ?_
  exact .ensure _ _ (.literal _ rfl)

def possessionQuote (req : AuthRequest) (dpopScheme : Bool) (claims : Claims) : Option String :=
  if extractCnfX5tS256 claims ≠ some .malformed ∧ mustDpop config dpopScheme claims then
    req.dpop.bind fun proof => (extractCnfJkt claims).bind fun _ => presentedQuote build crates proof
  else none

theorem checkDpop_quotes (now : Int) (req : AuthRequest) (accessToken : String) (must : Bool)
    (cnfJkt : Option String) :
    Quotes (checkDpop build crates config now req accessToken must cnfJkt)
      (if must then req.dpop.bind fun proof => cnfJkt.bind fun _ => presentedQuote build crates proof else none) := by
  unfold checkDpop
  split
  · refine .orError_then _ _ _ _ (.literal _ rfl) fun proof _ => ?_
    refine .orError_then _ _ _ _ (.literal _ rfl) fun jkt _ => ?_
    exact validateDpopProof_quotes build crates config now req proof accessToken jkt _
  · exact .of_ok _ _

theorem checkCert_quotes (req : AuthRequest) (thumbprint : Option String) :
    Quotes (liftStop (checkCert req thumbprint)) none := by
  unfold checkCert
  split
  · unfold validateCertBinding
    simp only [liftStop_bind,liftStop_ensure]
    exact .bind_none _ _ (.orError _ _ (.literal _ rfl)) fun _ _ => .ensure _ _ (.literal _ rfl)
  · exact .of_ok _ _

theorem checkDpop_spent (now : Int) (req : AuthRequest) (accessToken : String) (must : Bool)
    (cnfJkt : Option String) (value : Unit)
    (passed : checkDpop build crates config now req accessToken must cnfJkt = .ok value) :
    (if must then req.dpop.bind fun proof => cnfJkt.bind fun _ => presentedQuote build crates proof else none) =
      none := by
  cases must with
  | false => rfl
  | true =>
    unfold checkDpop validateDpopProof at passed
    rw [if_pos rfl] at passed
    simp only [Except.bind_ok,liftStop_ok,Except.orError_ok] at passed
    obtain ⟨proof,given,jkt,bound,found,verified,_⟩ := passed
    rw [if_pos rfl,given,bound]
    change quoteThen (verifiedProof build crates proof) _ _ = none
    rw [verified]
    rfl

theorem checkPossession_quotes (now : Int) (req : AuthRequest) (accessToken : String) (dpopScheme : Bool)
    (claims : Claims) :
    Quotes (checkPossession build crates config now req accessToken dpopScheme claims)
      (possessionQuote build crates config req dpopScheme claims) := by
  unfold checkPossession possessionQuote
  rw [ite_and]
  refine .ensure_then _ _ _ _ (.literal _ rfl) fun _ => ?_
  refine .bind_spent _ _ _ (checkDpop_quotes build crates config now req accessToken _ _) fun value passed => ?_
  exact ⟨checkDpop_spent build crates config now req accessToken _ _ value passed,checkCert_quotes req _⟩

end possession

section claims

theorem requireClaims_quotes (claims : Claims) (names : List String)
    (printable : ∀ name ∈ names, FieldText name) : Quotes (liftStop (requireClaims claims names)) none := by
  induction names with
  | nil => exact .of_ok _ _
  | cons name rest ih =>
    obtain ⟨first,others⟩ := List.forall_mem_cons.mp printable
    unfold requireClaims
    simp only [liftStop_bind,liftStop_ensure]
    have message := (FieldText.quoted "Access token is missing the '" name "' claim." (.literal _ rfl) (.literal _ rfl)).mpr first
    exact .bind_none _ _ (.ensure _ _ message) fun _ _ => ih others

theorem checkTemporal_quotes (build : Build) (config : VerifierConfig) (now : Int) (claims : Claims) :
    Quotes (checkTemporal build config now claims) none := by
  unfold checkTemporal
  refine .bind_none _ _ ?_ fun _ _ => ?_
  · unfold checkExp
    split
    · exact .bind_none _ _ (.arith _) fun _ _ => .ensure _ _ (.literal _ rfl)
    · exact .constant _ (.literal _ rfl)
  refine .bind_none _ _ ?_ fun _ _ => ?_
  · unfold checkNbf
    split
    · exact .bind_none _ _ (.arith _) fun _ _ => .ensure _ _ (.literal _ rfl)
    · exact .of_ok _ _
  · unfold checkIat
    split
    · exact .bind_none _ _ (.arith _) fun _ _ => .ensure _ _ (.literal _ rfl)
    · exact .constant _ (.literal _ rfl)

variable {S : Type} (env : Env S) (config : VerifierConfig)

theorem checkAccessClaims_quotes (issuer : String) (claims : Claims) :
    Quotes (checkAccessClaims env config issuer claims) none := by
  have names : ∀ name ∈ ["sub","jti","client_id"], FieldText name := by simp; decide
  unfold checkAccessClaims
  refine .bind_none _ _ (requireClaims_quotes claims _ names) fun _ _ => ?_
  refine .bind_none _ _ (.ensure _ _ (.literal _ rfl)) fun _ _ => ?_
  refine .bind_none _ _ (.ensure _ _ (.literal _ rfl)) fun _ _ => ?_
  exact checkTemporal_quotes env.build config _ claims

def tokenQuote (token issuer : String) : Option String :=
  quoteThen (peekHeader env.crates token) none fun header =>
    if algInPolicy header.alg then
      if algIsVerifiable env.build header.alg then
        quoteThen (env.keysFor issuer) none fun keys =>
          quoteThen (verifiedAccessToken env token keys) (signatureQuote env.build env.crates token keys "at+jwt")
            fun _ => none
      else none
    else some header.alg

theorem verifiedAccessToken_quotes (token : String) (keys : List Jwk) :
    Quotes (liftStop (verifiedAccessToken env token keys))
      (signatureQuote env.build env.crates token keys "at+jwt") := by
  unfold verifiedAccessToken
  apply Quotes.mapError
  · intro error
    change FieldText ("Access token verification failed: " ++ error.message) ↔ _
    rw [FieldText.append]
    exact and_iff_right (.literal _ rfl)
  · exact verifySignature_quotes env.build env.crates token keys "at+jwt" (.literal _ rfl)

theorem keysFor_quotes (issuer : String) (world : World S) : Quotes (keysFor env issuer world).1 none := by
  unfold keysFor
  cases env.keysFor issuer with
  | error text => exact .constant _ (.literal _ rfl)
  | ok keys => exact .of_ok _ _

theorem validateAccessToken_quotes (parsed : Parsed) (issuer : String) (world : World S) :
    Quotes (validateAccessToken env config parsed issuer world).1 (tokenQuote env parsed.token issuer) := by
  unfold validateAccessToken tokenQuote
  refine .lift_then _ _ _ _ _ (peekHeader_quotes env.crates parsed.token) fun header _ => ?_
  have unsupported := unsupportedAlg_quotes header.alg
  rw [← liftStop_ensure] at unsupported
  have policy : ∀ text, (if algInPolicy header.alg then text else some header.alg) =
      quoteThen (ensure (algInPolicy header.alg) (invalidToken ("Unsupported or non-asymmetric signature algorithm: " ++
        header.alg ++ "."))) (algQuote header.alg) fun _ => text := by
    intro text
    unfold ensure algQuote
    split <;> rfl
  rw [policy]
  refine .lift_then _ _ _ _ _ unsupported fun _ _ => ?_
  refine .lift_ensure _ _ _ _ _ (.literal _ rfl) fun _ => ?_
  have asked : ∀ quote : List Jwk → Option String, quoteThen (env.keysFor issuer) none quote =
      quoteThen (keysFor env issuer world).1 none quote := by
    intro quote
    unfold keysFor
    rw [quoteThen_mapError]
  rw [asked]
  refine .run_bind _ _ _ _ _ (keysFor_quotes env issuer world) fun keys after _ => ?_
  refine .lift_then _ _ _ _ _ (verifiedAccessToken_quotes env parsed.token keys) fun claims _ => ?_
  exact .run_none _ _ _ (checkAccessClaims_quotes env config issuer claims) fun _ _ => .of_ok _ _

def validationQuote (req : AuthRequest) (parsed : Parsed) (issuer : String) (dpopScheme : Bool)
    (world : World S) : Option String :=
  quoteThen (validateAccessToken env config parsed issuer world).1 (tokenQuote env parsed.token issuer)
    fun claims => quoteThen (checkPossession env.build env.crates config (nowSecs env.proofClock) req parsed.token
      dpopScheme claims) (possessionQuote env.build env.crates config req dpopScheme claims) fun _ => none

theorem validateToken_quotes (req : AuthRequest) (parsed : Parsed) (issuer : String) (dpopScheme : Bool)
    (world : World S) :
    Quotes (validateToken env config req parsed issuer dpopScheme world).1
      (validationQuote env config req parsed issuer dpopScheme world) := by
  unfold validateToken validationQuote
  refine .run_bind _ _ _ _ _ (validateAccessToken_quotes env config parsed issuer world) fun claims after _ => ?_
  have checked := checkPossession_quotes env.build env.crates config (nowSecs env.proofClock) req parsed.token
    dpopScheme claims
  exact .run_bind (Exec.checked _) _ after _ _ checked fun _ _ _ => .of_ok _ _

/-- A missing identity claim is named, as the configuration spells it. -/
def webidQuote (claims : Claims) : Option String :=
  if presentStr claims config.webidClaim = none then some config.webidClaim else none

theorem extractWebid_quotes (url : UrlCrate) (claims : Claims) :
    Quotes (liftStop (extractWebid url config claims)) (webidQuote config claims) := by
  unfold extractWebid webidQuote
  cases presentStr claims config.webidClaim with
  | none => exact .quoting _ _ (FieldText.quoted _ config.webidClaim _ (.literal _ rfl) (.literal _ rfl))
  | some raw =>
    change Quotes (liftStop (validateWebidClaim url raw)) none
    unfold validateWebidClaim
    simp only [liftStop_bind,liftStop_ensure]
    refine .bind_none _ _ (.ensure _ _ (.literal _ rfl)) fun _ _ => ?_
    refine .bind_none _ _ (.orError _ _ (.literal _ rfl)) fun parsed _ => ?_
    refine .bind_none _ _ (.ensure _ _ (.literal _ rfl)) fun _ _ => ?_
    exact .bind_none _ _ (.ensure _ _ (.literal _ rfl)) fun _ _ => .of_ok _ _

theorem checkAuthorizedParty_quotes (claims : Claims) :
    Quotes (liftStop (checkAuthorizedParty config claims)) none := by
  unfold checkAuthorizedParty
  split
  · exact .of_ok _ _
  · split
    · rw [liftStop_ensure]
      exact .ensure _ _ (.literal _ rfl)
    · exact .constant _ (.literal _ rfl)

def schemeQuote (parsed : Parsed) : Option String :=
  if parsed.scheme = "bearer" ∨ parsed.scheme = "dpop" then none else some parsed.scheme

theorem schemeGate_quotes (crates : Crates) (parsed : Parsed) :
    Quotes (liftStop (schemeGate crates config parsed)) (schemeQuote parsed) := by
  unfold schemeGate schemeQuote
  by_cases bearer : parsed.scheme = "bearer"
  · rw [if_pos bearer,if_pos (Or.inl bearer),liftStop_ensure]
    exact .ensure _ _ (.literal _ rfl)
  · by_cases dpop : parsed.scheme = "dpop"
    · rw [if_neg bearer,if_pos dpop]
      exact .of_ok _ _
    · rw [if_neg bearer,if_neg dpop,if_neg (not_or.mpr ⟨bearer,dpop⟩)]
      exact .quoting _ _ (FieldText.quoted _ parsed.scheme _ (.literal _ rfl) (.literal _ rfl))

def authenticationQuote (req : AuthRequest) (parsed : Parsed) (world : World S) : Option String :=
  quoteThen (schemeGate env.crates config parsed) (schemeQuote parsed) fun _ =>
    quoteThen (peekIssuer env.crates parsed.token) none fun issuer =>
      if issuer ∈ config.trustedIssuers then
        quoteThen (validateToken env config req parsed issuer (parsed.scheme == "dpop") world).1
          (validationQuote env config req parsed issuer (parsed.scheme == "dpop") world) fun claims =>
            quoteThen (extractWebid env.crates.url config claims) (webidQuote config claims) fun _ => none
      else none

theorem authenticate_quotes (req : AuthRequest) (parsed : Parsed) (world : World S) :
    Quotes (authenticate env config req parsed world).1 (authenticationQuote env config req parsed world) := by
  unfold authenticate authenticationQuote
  refine .lift_then _ _ _ _ _ (schemeGate_quotes config env.crates parsed) fun _ _ => ?_
  refine .lift_then _ _ _ _ _ (peekIssuer_quotes env.crates parsed.token) fun issuer _ => ?_
  refine .lift_ensure _ _ _ _ _ (.literal _ rfl) fun _ => ?_
  refine .run_bind _ _ _ _ _ (validateToken_quotes env config req parsed issuer _ world) fun claims after _ => ?_
  refine .lift_then _ _ _ _ _ (extractWebid_quotes config env.crates.url claims) fun webId _ => ?_
  exact .run_none _ _ _ (checkAuthorizedParty_quotes config claims) fun _ _ => .of_ok _ _

theorem acceptReply_quotes (reply : MarkReply) : Quotes (acceptReply config reply) none := by
  cases reply with
  | new => exact .of_ok _ _
  | replay => exact .constant (invalidTokenDpop "DPoP proof has already been used (replay).") (.literal _ rfl)
  | panicked => exact .panicked _
  | backendError text =>
    unfold acceptReply
    by_cases closed : config.replayFailClosed = true
    · simp only [if_pos closed]
      exact .constant _ (.literal _ rfl)
    · simp only [if_neg closed]
      exact .of_ok _ _

theorem replayStep_quotes (req : AuthRequest) (world : World S) :
    Quotes (replayStep env config req world).1 none := by
  unfold replayStep
  cases req.dpop with
  | none => exact .of_ok _ _
  | some proof =>
    refine .run_none _ _ _ (.orError _ _ (.literal _ rfl)) fun jti after => ?_
    refine .run_none _ _ _ ?_ fun ttl later => ?_
    · change Quotes (orError (config.replayTtl env.build) .panicked) none
      cases config.replayTtl env.build with
      | none => exact .panicked _
      | some ttl => exact .of_ok _ _
    refine .run_none _ _ _ (.of_ok _ _) fun reply last => ?_
    exact acceptReply_quotes config reply

theorem checkBidirectional_quotes (webId issuer : String) (world : World S) :
    Quotes (checkBidirectional config webId issuer world).1 none := by
  unfold checkBidirectional
  split
  · exact .of_ok _ _
  · cases config.webidResolver with
    | none =>
      change Quotes (liftStop (ensure _ _)) none
      rw [liftStop_ensure]
      exact .ensure _ _ (.literal _ rfl)
    | some resolver =>
      refine .run_none _ _ _ (.of_ok _ _) fun profile after => ?_
      change Quotes (liftStop (ensure _ _)) none
      rw [liftStop_ensure]
      exact .ensure _ _ (.literal _ rfl)

/-- The text that the error of a refused request quotes, if it quotes one: the scheme, the algorithm of
a header, the key type or the backend's text for the last key tried, or the name of the WebID claim. -/
def verifyQuote (req : AuthRequest) (world : World S) : Option String :=
  (parseAuthorization env.crates req.authorization).bind fun parsed =>
    quoteThen (authenticate env config req parsed world).1 (authenticationQuote env config req parsed world)
      fun _ => none

theorem verify_quotes (req : AuthRequest) (world : World S) :
    Quotes (verify env config req world).1 (verifyQuote env config req world) := by
  unfold verify verifyQuote
  cases parseAuthorization env.crates req.authorization with
  | none => exact .of_ok _ _
  | some parsed =>
    refine .run_bind _ _ _ _ _ (authenticate_quotes env config req parsed world) fun authenticated after _ => ?_
    refine .run_none _ _ _ (replayStep_quotes env config req after) fun _ marked => ?_
    exact .run_none _ _ _ (checkBidirectional_quotes config _ _ marked) fun _ _ => .of_ok _ _

/-- The challenge for a refused request is a legal header value exactly where the text that its error
quotes is printable. -/
theorem challenge_legal_iff (req : AuthRequest) (world : World S) (error : VerifyError)
    (issuers : ∀ issuer ∈ config.trustedIssuers, FieldText issuer)
    (refused : (verify env config req world).1 = .error (.rejected error)) :
    FieldText (wwwAuthenticate config error) ↔ ∀ text ∈ verifyQuote env config req world, FieldText text := by
  rw [wwwAuthenticate_printable config error issuers]
  exact verify_quotes env config req world error refused

end claims

theorem verify_refused {S : Type} (env : Env S) (config : VerifierConfig) (req : AuthRequest) (parsed : Parsed)
    (world after : World S) (issuer : String) (stop : Stop VerifyError)
    (presented : parseAuthorization env.crates req.authorization = some parsed)
    (gate : schemeGate env.crates config parsed = .ok ()) (named : peekIssuer env.crates parsed.token = .ok issuer)
    (trusted : issuer ∈ config.trustedIssuers)
    (refused : validateAccessToken env config parsed issuer world = (.error stop,after)) :
    verify env config req world = (.error stop,after) := by
  have validated : validateToken env config req parsed issuer (parsed.scheme == "dpop") world =
      (.error stop,after) := Exec.bind_of_error _ _ _ _ _ refused
  have authenticated : authenticate env config req parsed world = (.error stop,after) := by
    unfold authenticate
    rw [Exec.bind_of_ok (Exec.lift (schemeGate env.crates config parsed)) _ world world () (by rw [gate]; rfl),
      Exec.bind_of_ok (Exec.lift (peekIssuer env.crates parsed.token)) _ world world issuer (by rw [named]; rfl)]
    have passed : ensure (issuer ∈ config.trustedIssuers) (invalidToken "Token issuer is not trusted.") = .ok () :=
      if_pos trusted
    rw [Exec.bind_of_ok (Exec.lift (ensure (issuer ∈ config.trustedIssuers) _)) _ world world () (by
      rw [passed]; rfl)]
    exact Exec.bind_of_error _ _ _ _ _ validated
  unfold verify
  rw [presented]
  exact Exec.bind_of_error _ _ _ _ _ authenticated

def unsupportedAlg (alg : String) : VerifyError :=
  invalidToken ("Unsupported or non-asymmetric signature algorithm: " ++ alg ++ ".")

theorem validateAccessToken_unsupported {S : Type} (env : Env S) (config : VerifierConfig) (parsed : Parsed)
    (issuer : String) (world : World S) (alg : String) (typ : Option String) (jwk : Option Jwk)
    (peeked : peekHeader env.crates parsed.token = .ok ⟨alg,typ,jwk⟩) (outside : ¬algInPolicy alg) :
    validateAccessToken env config parsed issuer world = (.error (.rejected (unsupportedAlg alg)),world) := by
  unfold validateAccessToken
  rw [Exec.bind_of_ok (Exec.lift (peekHeader env.crates parsed.token)) _ world world ⟨alg,typ,jwk⟩ (by
    rw [peeked]; rfl)]
  have refused : ensure (algInPolicy alg) (unsupportedAlg alg) = .error (unsupportedAlg alg) := if_neg outside
  exact Exec.bind_of_error (Exec.lift (ensure (algInPolicy alg) (unsupportedAlg alg))) _ world world
    (.rejected (unsupportedAlg alg)) (by rw [refused]; rfl)

def lineHeader : String := "\x7b\"alg\":\"\\n\"\x7d"

def lineParse (bytes : List UInt8) : Option Json :=
  if bytes = Text.asBytes lineHeader then some (.object [("alg",.string "\n")]) else sampleParse bytes

def lineCrates : Crates := {sampleCrates with fromSlice := lineParse}

def lineEnv : Env (List String) := {sampleEnv with crates := lineCrates}

theorem lineEnv_fromSlice (bytes : List UInt8) : lineEnv.crates.fromSlice bytes = lineParse bytes := rfl

def lineToken : String := sampleToken lineHeader boundPayload [1]

def lineRequest : AuthRequest where
  authorization := some ("DPoP " ++ lineToken)
  dpop := none
  method := "GET"
  url := "https://rs.example/r"
  clientCertX5tS256 := none

def lineError : VerifyError := unsupportedAlg "\n"

theorem lineToken_compact : CompactJws lineToken (Base64Url.encode (Text.asBytes lineHeader))
    (Base64Url.encode (Text.asBytes boundPayload)) (Base64Url.encode [1]) := by
  apply encodedJws_compact
  · decide +kernel
  · exact sampleDocuments_filled boundPayload _ (List.mem_of_getElem? (i := 2) rfl)
  · simp

theorem lineToken_claims : peekClaims lineEnv.crates lineToken = some boundClaims := by
  apply (peekClaims_some _ _ _).mpr
  refine ⟨_,_,_,_,lineToken_compact,Base64Url.decode_encode _,?_⟩
  have other : Text.asBytes boundPayload ≠ Text.asBytes lineHeader := by
    intro same
    exact absurd (asBytes_injective _ _ same) (by decide)
  rw [lineEnv_fromSlice]
  unfold lineParse
  rw [if_neg other]
  exact sampleParse_document boundPayload _ (List.mem_of_getElem? (i := 2) rfl)

theorem lineParse_header : lineParse (Text.asBytes lineHeader) = some (.object [("alg",.string "\n")]) :=
  if_pos rfl

theorem lineToken_header : peekHeader lineEnv.crates lineToken = .ok ⟨"\n",none,none⟩ := by
  unfold peekHeader
  rw [(splitCompact_ok _ _ _ _).mpr lineToken_compact]
  simp only [Except.bind_ok,Except.orError_ok]
  exact ⟨_,rfl,_,Base64Url.decode_encode _,.object [("alg",.string "\n")],lineParse_header,"\n",rfl,none,rfl,rfl⟩

theorem lineRequest_presents : Presents lineRequest.authorization true lineToken := by
  refine presents_plain true "DPoP " lineToken ['D','P','o','P'] (by decide) (by decide +kernel)
    (by simp [Text.isWhitespace]) (by simp) (sampleToken_visible _ _ _) ?_
  intro empty
  have whole := lineToken_compact.whole
  rw [empty] at whole
  simp at whole

theorem lineRequest_refused :
    (verify lineEnv sampleConfig lineRequest ⟨[],[]⟩).1 = .error (.rejected lineError) := by
  have presented : parseAuthorization lineEnv.crates lineRequest.authorization = some ⟨"dpop",lineToken⟩ :=
    (parseAuthorization_some lineEnv.crates _ true lineToken).mpr lineRequest_presents
  have issuer : peekIssuer lineEnv.crates lineToken = .ok "https://idp.example" :=
    (peekIssuer_ok _ _ _).mpr ⟨boundClaims,lineToken_claims,rfl,by decide⟩
  have refused := validateAccessToken_unsupported lineEnv sampleConfig ⟨"dpop",lineToken⟩ "https://idp.example"
    ⟨[],[]⟩ "\n" none none lineToken_header (by decide)
  rw [verify_refused lineEnv sampleConfig lineRequest _ _ _ _ _ presented rfl issuer (by decide) refused]
  rfl

theorem challenge_legal_line : FieldText (wwwAuthenticate sampleConfig lineError) ↔
    ∀ text ∈ verifyQuote lineEnv sampleConfig lineRequest ⟨[],[]⟩, FieldText text :=
  challenge_legal_iff lineEnv sampleConfig lineRequest ⟨[],[]⟩ lineError (by decide) lineRequest_refused

/-- The line feed in the `alg` of an unverified header reaches the challenge. -/
theorem line_feed_reaches_challenge : (∀ issuer ∈ sampleConfig.trustedIssuers, FieldText issuer) ∧
    (verify lineEnv sampleConfig lineRequest ⟨[],[]⟩).1 = .error (.rejected lineError) ∧
    ¬FieldText (wwwAuthenticate sampleConfig lineError) := by
  have issuers : ∀ issuer ∈ sampleConfig.trustedIssuers, FieldText issuer := by decide +kernel
  refine ⟨issuers,lineRequest_refused,?_⟩
  rw [wwwAuthenticate_printable sampleConfig lineError issuers]
  intro printable
  have feed := (FieldText.quoted _ "\n" _ (.literal _ rfl) (.literal _ rfl)).mp printable
  exact absurd (feed '\n' (by simp)) (by decide)

end SolidOidcVerifier
