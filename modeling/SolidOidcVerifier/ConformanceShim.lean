import SolidOidcVerifier.Foundation.FieldText
import SolidOidcVerifier.Noninterference

/-! The server of the conformance tests. It answers a request by the outcome of its verification, and presents no
client certificate. -/
namespace SolidOidcVerifier
open Foundation

variable {S : Type}

/-- A request as the server's libraries hand it over: the names of the headers are in lower case, and the values stand
in the order of arrival. -/
structure HttpRequest where
  method : String
  path : Option String
  headers : List (String × List UInt8)

structure HttpResponse where
  status : Nat
  challenge : Option String
  body : Json

structure AppState where
  config : VerifierConfig
  publicBase : String

/-- `HeaderValue::to_str`: visible ASCII and tabs. -/
def headerText (value : List UInt8) : Option String :=
  if ∀ b ∈ value, b = 9 ∨ (32 ≤ b ∧ b < 127) then some (String.ofList (value.map fun b => Char.ofNat b.toNat))
  else none

def headerStr (headers : List (String × List UInt8)) (name : String) : Option String :=
  (headers.lookup name).bind headerText

/-- The name of a method is ASCII, where `to_uppercase` is `Char.toUpper` of each character. -/
def AppState.authRequest (state : AppState) (req : HttpRequest) : AuthRequest where
  authorization := headerStr req.headers "authorization"
  dpop := headerStr req.headers "dpop"
  method := String.ofList (req.method.toList.map Char.toUpper)
  url := state.publicBase ++ req.path.getD "/"
  clientCertX5tS256 := none

/-- `StatusCode::from_u16`. -/
def statusFromU16 (code : Nat) : Option Nat := if 100 ≤ code ∧ code < 1000 then some code else none

def jsonOption : Option String → Json
  | some text => .string text
  | none => .null

/-- `legal` stands for the test of `HeaderValue::from_str`. -/
def respond (legal : String → Bool) (config : VerifierConfig) : Except VerifyError VerifiedToken → HttpResponse
  | .ok token =>
    if token.isPublic then ⟨200,none,.object [("authenticated",.bool false)]⟩
    else ⟨200,none,.object [("authenticated",.bool true),("webid",jsonOption token.webId),
      ("issuer",jsonOption token.issuer),("client_id",jsonOption token.clientId)]⟩
  | .error error =>
    let challenge := wwwAuthenticate config error
    ⟨(statusFromU16 error.kind.status).getD 401,if legal challenge then some challenge else none,
      .object [("error",.string error.message)]⟩

def handle (env : Env S) (legal : String → Bool) (state : AppState) (req : HttpRequest) :
    Exec (World S) Empty HttpResponse := do
  let result ← Exec.attempt (verify env state.config (state.authRequest req))
  return respond legal state.config result

theorem parseAuthorization_none (crates : Crates) (authorization : Option String) :
    parseAuthorization crates authorization = none ↔
      ∀ header, authorization = some header → ' ' ∉ Text.trim header.toList := by
  unfold parseAuthorization
  cases authorization with
  | none => simp
  | some header =>
    simp only [Option.bind_eq_bind,Option.bind_some,Option.some.injEq,forall_eq']
    cases split : Text.splitOnce ' ' (Text.trim header.toList) with
    | none => simp [(Text.splitOnce_none _ _).mp split]
    | some parts =>
      obtain ⟨scheme,rest⟩ := parts
      obtain ⟨whole,_⟩ := (Text.splitOnce_some _ _ _ _).mp split
      have filled := Text.trim_after_space header.toList scheme rest whole
      rw [Option.bind_some]
      simp [filled,whole]

theorem status_kept (kind : ErrorKind) : (statusFromU16 kind.status).getD 401 = kind.status := by
  cases kind <;> rfl

namespace HttpResponse

def Names (response : HttpResponse) (webId : String) : Prop :=
  response.status = 200 ∧ response.body.get "authenticated" = some (.bool true) ∧
    response.body.get "webid" = some (.string webId)

def Anonymous (response : HttpResponse) : Prop :=
  response.status = 200 ∧ response.body.get "authenticated" = some (.bool false)

/-- A refusal gives the text of its error, and its challenge where a header may carry it. -/
def Refuses (response : HttpResponse) (legal : String → Bool) (config : VerifierConfig) (error : VerifyError) : Prop :=
  response.body.get "error" = some (.string error.message) ∧
    response.challenge = (some (wwwAuthenticate config error)).filter legal

end HttpResponse

section respond

variable (legal : String → Bool) (config : VerifierConfig) (result : Except VerifyError VerifiedToken)

theorem respond_names (webId : String) :
    (respond legal config result).Names webId ↔ ∃ token, result = .ok token ∧ token.webId = some webId := by
  unfold HttpResponse.Names respond VerifiedToken.isPublic
  cases result with
  | error error => simp [Json.get,Json.asObject,Claims.get,List.lookup]
  | ok token =>
    cases named : token.webId with
    | none => simp [Json.get,Json.asObject,Claims.get,List.lookup,named]
    | some found => simp [Json.get,Json.asObject,Claims.get,List.lookup,jsonOption,named]

theorem respond_anonymous :
    (respond legal config result).Anonymous ↔ ∃ token, result = .ok token ∧ token.webId = none := by
  unfold HttpResponse.Anonymous respond VerifiedToken.isPublic
  cases result with
  | error error => simp [Json.get,Json.asObject,Claims.get,List.lookup]
  | ok token =>
    cases named : token.webId with
    | none => simp [Json.get,Json.asObject,Claims.get,List.lookup,named]
    | some found => simp [Json.get,Json.asObject,Claims.get,List.lookup,named]

theorem respond_refuses (error : VerifyError) :
    (respond legal config (.error error)).Refuses legal config error ∧
      (respond legal config (.error error)).status = error.kind.status := by
  refine ⟨⟨rfl,?_⟩,status_kept error.kind⟩
  unfold respond
  simp only [Option.filter_some]

end respond

/-- Only a request without credentials is verified without naming a WebID. -/
theorem verify_nameless (env : Env S) (config : VerifierConfig) (req : AuthRequest) (world : World S) :
    (∃ token, (verify env config req world).1 = .ok token ∧ token.webId = none) ↔
      parseAuthorization env.crates req.authorization = none := by
  constructor
  · intro verified
    obtain ⟨token,ok,nameless⟩ := verified
    cases presented : parseAuthorization env.crates req.authorization with
    | none => rfl
    | some parsed =>
      obtain ⟨authenticated,_,_,_,_,_,same⟩ := (verify_run env config req parsed world token presented).mp ok
      rw [same] at nameless
      cases nameless
  · intro absent
    refine ⟨VerifiedToken.public,?_,rfl⟩
    unfold verify
    rw [absent]
    rfl

theorem Accepts.uncertified (env : Env S) (config : VerifierConfig) (req : AuthRequest) (store : S) (dpopScheme : Bool)
    (token issuer : String) (claims : Claims) (webId : String) (uncertified : req.clientCertX5tS256 = none)
    (accepts : Accepts env config req store dpopScheme token issuer claims webId) : extractCnfX5tS256 claims = none := by
  have possession := accepts.authentic.possession
  cases found : extractCnfX5tS256 claims with
  | none => rfl
  | some x5t =>
    cases x5t with
    | malformed => exact absurd found possession.wellFormed
    | thumbprint text =>
      have presented := possession.certificate text found
      rw [uncertified] at presented
      cases presented

theorem handle_value (env : Env S) (legal : String → Bool) (state : AppState) (req : HttpRequest) (world : World S)
    (response : HttpResponse) : (handle env legal state req world).1 = .ok response ↔
      ∃ result : Except VerifyError VerifiedToken, respond legal state.config result = response ∧
        (verify env state.config (state.authRequest req) world).1 = result.mapError .rejected := by
  unfold handle
  simp only [Exec.bind_value,Exec.attempt_value,Exec.pure_run,Except.ok.injEq]
  constructor
  · intro answered
    obtain ⟨result,verified,same⟩ := answered
    exact ⟨result,same,verified⟩
  · intro answered
    obtain ⟨result,same,verified⟩ := answered
    exact ⟨result,verified,same⟩

theorem handle_ok (env : Env S) (legal : String → Bool) (state : AppState) (req : HttpRequest) (world : World S)
    (shown : HttpResponse → Prop) (holds : VerifiedToken → Prop)
    (rule : ∀ result, shown (respond legal state.config result) ↔ ∃ token, result = .ok token ∧ holds token) :
    (∃ response, (handle env legal state req world).1 = .ok response ∧ shown response) ↔
      ∃ token, (verify env state.config (state.authRequest req) world).1 = .ok token ∧ holds token := by
  constructor
  · intro answered
    obtain ⟨response,answer,said⟩ := answered
    obtain ⟨result,rfl,verified⟩ := (handle_value env legal state req world response).mp answer
    obtain ⟨token,rfl,kept⟩ := (rule result).mp said
    exact ⟨token,verified,kept⟩
  · intro verified
    obtain ⟨token,ok,kept⟩ := verified
    exact ⟨_,(handle_value env legal state req world _).mpr ⟨.ok token,rfl,ok⟩,(rule _).mpr ⟨token,rfl,kept⟩⟩

/-- The server names a WebID exactly where the request, at the public address, meets the rule with a token that is bound
to no certificate, and takes a request for anonymous exactly where its Authorization header is no text or a text of one
word. Every other answer refuses with the error of `verify`, by 503 where the store was unavailable and by 401 otherwise. -/
theorem handle_answers (env : Env S) (law : PayloadLaw env.crates) (legal : String → Bool) (state : AppState)
    (req : HttpRequest) (store : S) :
    let answers := fun response => (handle env legal state req ⟨store,[]⟩).1 = .ok response
    (∀ webId, (∃ response, answers response ∧ response.Names webId) ↔
      ∃ dpopScheme token issuer claims, extractCnfX5tS256 claims = none ∧
        Accepts env state.config (state.authRequest req) store dpopScheme token issuer claims webId) ∧
    ((∃ response, answers response ∧ response.Anonymous) ↔
      ∀ header, headerStr req.headers "authorization" = some header → ' ' ∉ Text.trim header.toList) ∧
    ∀ response, answers response → (∃ webId, response.Names webId) ∨ response.Anonymous ∨
      (∃ error, (verify env state.config (state.authRequest req) ⟨store,[]⟩).1 = .error (.rejected error) ∧
        response.Refuses legal state.config error) ∧
      (StoreUnavailable env state.config store (verify env state.config (state.authRequest req) ⟨store,[]⟩).2.calls →
        response.status = 503) ∧
      (¬StoreUnavailable env state.config store (verify env state.config (state.authRequest req) ⟨store,[]⟩).2.calls →
        response.status = 401) := by
  intro answers
  refine ⟨?_,?_,?_⟩
  · intro webId
    rw [handle_ok env legal state req ⟨store,[]⟩ _ _ (fun result => respond_names legal state.config result webId)]
    constructor
    · intro verified
      obtain ⟨token,ok,named⟩ := verified
      obtain ⟨dpopScheme,token,issuer,claims,accepts⟩ :=
        accepts_of_verify env law state.config _ ⟨store,[]⟩ token webId ok named
      exact ⟨dpopScheme,token,issuer,claims,accepts.uncertified env state.config _ store _ _ _ _ _ rfl,accepts⟩
    · intro rule
      obtain ⟨dpopScheme,token,issuer,claims,_,accepts⟩ := rule
      exact ⟨_,verify_of_accepts env law state.config _ ⟨store,[]⟩ dpopScheme token issuer claims webId accepts,rfl⟩
  · rw [handle_ok env legal state req ⟨store,[]⟩ _ _ (respond_anonymous legal state.config),verify_nameless]
    exact parseAuthorization_none env.crates _
  · intro response answer
    obtain ⟨result,rfl,verified⟩ := (handle_value env legal state req ⟨store,[]⟩ response).mp answer
    cases result with
    | ok token =>
      cases named : token.webId with
      | none => exact Or.inr (Or.inl ((respond_anonymous legal state.config _).mpr ⟨token,rfl,named⟩))
      | some webId => exact Or.inl ⟨webId,(respond_names legal state.config _ webId).mpr ⟨token,rfl,named⟩⟩
    | error error =>
      obtain ⟨refuses,status⟩ := respond_refuses legal state.config error
      have ordinary := verify_status env state.config _ store error verified
      obtain ⟨own,failed⟩ := status_of_ordinary error
      refine Or.inr (Or.inr ⟨⟨error,verified,refuses⟩,?_,?_⟩)
      · intro unavailable
        rw [status]
        exact failed (fun kept => ordinary.mp kept unavailable)
      · intro available
        rw [status]
        exact own (ordinary.mpr available)

theorem headerText_printable (text : String) (printable : FieldText text) :
    headerText (text.toList.map fun c => UInt8.ofNat c.toNat) = some text := by
  have kept : ∀ c ∈ text.toList, (UInt8.ofNat c.toNat).toNat = c.toNat ∧ 32 ≤ c.toNat ∧ c.toNat < 127 := by
    intro c member
    have range := printable c member
    simp only [fieldChar,Bool.and_eq_true,decide_eq_true_eq] at range
    refine ⟨?_,range⟩
    rw [UInt8.toNat_ofNat']
    exact Nat.mod_eq_of_lt (by omega)
  have visible : ∀ b ∈ text.toList.map fun c => UInt8.ofNat c.toNat, b = 9 ∨ (32 ≤ b ∧ b < 127) := by
    intro b member
    obtain ⟨c,inside,rfl⟩ := List.mem_map.mp member
    obtain ⟨same,low,high⟩ := kept c inside
    refine Or.inr ⟨UInt8.le_iff_toNat_le.mpr ?_,UInt8.lt_iff_toNat_lt.mpr ?_⟩
    · rw [same]
      exact low
    · rw [same]
      exact high
  unfold headerText
  rw [if_pos visible,Option.some.injEq,List.map_map]
  have back : text.toList.map ((fun b : UInt8 => Char.ofNat b.toNat) ∘ fun c => UInt8.ofNat c.toNat) = text.toList := by
    conv_rhs => rw [← List.map_id text.toList]
    apply List.map_congr_left
    intro c member
    simp only [Function.comp_apply,(kept c member).1,Char.ofNat_toNat,id_eq]
  rw [back,String.ofList_toList]

theorem sampleToken_printable (header payload : String) (signature : List UInt8) :
    FieldText (sampleToken header payload signature) := by
  have printable := Base64Url.mem_encode (fun c => fieldChar c = true) (by decide)
  unfold FieldText sampleToken encodedJws
  rw [String.toList_ofList]
  intro c member
  simp only [List.mem_append,List.mem_cons] at member
  rcases member with inside | rfl | inside | rfl | inside
  · exact printable _ c inside
  · rfl
  · exact printable _ c inside
  · rfl
  · exact printable _ c inside

def sampleState : AppState := ⟨sampleConfig,"https://rs.example"⟩

def sampleHttp : HttpRequest where
  method := "get"
  path := some "/r"
  headers := [("authorization",("DPoP " ++ boundToken).toList.map fun c => UInt8.ofNat c.toNat),
    ("dpop",sampleProof.toList.map fun c => UInt8.ofNat c.toNat)]

theorem headerStr_first (name text : String) (rest : List (String × List UInt8)) (printable : FieldText text) :
    headerStr ((name,text.toList.map fun c => UInt8.ofNat c.toNat) :: rest) name = some text := by
  unfold headerStr
  rw [List.lookup_cons_self,Option.bind_some]
  exact headerText_printable text printable

theorem headerStr_next (name other : String) (value : List UInt8) (rest : List (String × List UInt8))
    (apart : (name == other) = false) : headerStr ((other,value) :: rest) name = headerStr rest name := by
  unfold headerStr
  rw [List.lookup_cons,apart]

theorem sampleHttp_request : sampleState.authRequest sampleHttp = sampleRequest := by
  have authorization : headerStr sampleHttp.headers "authorization" = some ("DPoP " ++ boundToken) :=
    headerStr_first _ _ _ ((FieldText.append _ _).mpr ⟨by decide,sampleToken_printable _ _ _⟩)
  have dpop : headerStr sampleHttp.headers "dpop" = some sampleProof :=
    (headerStr_next "dpop" "authorization" _ _ (by decide)).trans
      (headerStr_first _ _ _ (sampleToken_printable _ _ _))
  unfold AppState.authRequest
  rw [authorization,dpop]
  rfl

theorem handle_answers_sample :
    ∃ response, (handle sampleEnv (fun _ => true) sampleState sampleHttp ⟨[],[]⟩).1 = .ok response ∧
      response.Names "https://alice.example/card#me" := by
  obtain ⟨named,_⟩ := handle_answers sampleEnv sampleCrates_payload (fun _ => true) sampleState sampleHttp []
  refine (named _).mpr ⟨true,boundToken,"https://idp.example",boundClaims,rfl,?_⟩
  rw [sampleHttp_request]
  exact sampleRequest_accepts

end SolidOidcVerifier
