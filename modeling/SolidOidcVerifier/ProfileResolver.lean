import SolidOidcVerifier.Acceptance
import SolidOidcVerifier.FetchSafety

/-! The profile behind a WebID, fetched and read as Turtle, and the strict check against it. -/
namespace SolidOidcVerifier
open Foundation

/-- A subject or an object as far as the reader of a profile tells them apart. -/
inductive RdfTerm where
  | namedNode (iri : String)
  | blankNode (id : String)
  | literal (value : String)
  | quoted (text : String)
deriving DecidableEq,Repr

structure Triple where
  subject : RdfTerm
  predicate : String
  object : RdfTerm
deriving DecidableEq,Repr

/-- The Turtle parser: a base IRI, where the text is one, and the triples and errors of a document. -/
structure Oxttl where
  Base : Type
  withBaseIri : String → Option Base
  forSlice : Option Base → List UInt8 → List (Except String Triple)

def collectIssuers (webId profileUrl : String) :
    List (Except String Triple) → Finset String → Except String (Finset String)
  | [],issuers => .ok issuers
  | .error _ :: _,_ => .error "WebID profile is not valid Turtle."
  | .ok triple :: rest,issuers =>
    if triple.predicate ≠ solidOidcIssuer then collectIssuers webId profileUrl rest issuers
    else match triple.subject with
      | .namedNode subject =>
        if subject ≠ webId ∧ subject ≠ profileUrl then collectIssuers webId profileUrl rest issuers
        else match triple.object with
          | .namedNode object => collectIssuers webId profileUrl rest (insert object issuers)
          | _ => collectIssuers webId profileUrl rest issuers
      | _ => collectIssuers webId profileUrl rest issuers

def parseOidcIssuers (oxttl : Oxttl) (body : List UInt8) (baseUrl webId profileUrl : String) :
    Except String (Finset String) :=
  collectIssuers webId profileUrl (oxttl.forSlice (oxttl.withBaseIri baseUrl) body) ∅

def turtleAccept : String := "text/turtle, application/x-turtle;q=0.9, */*;q=0.1"

variable {N : Type}

/-- `NetworkWebIdResolver::resolve`. -/
def resolveProfile (network : Network N) (url : UrlCrate) (oxttl : Oxttl) (fetch : SafeFetchConfig)
    (webId : String) : Exec (NetWorld N) String WebIdProfile := do
  let profileUrl := canonicaliseProfileUrl url webId
  let resp ← Exec.mapReject ("WebID profile fetch failed: " ++ ·)
    (get network url fetch profileUrl turtleAccept)
  let issuers ← Exec.lift (parseOidcIssuers oxttl resp.body resp.finalUrl webId profileUrl)
  return ⟨issuers⟩

/-- The resolver at a state of the network. The worker thread of a hop hands a panic on as an error. -/
def networkResolver (network : Network N) (url : UrlCrate) (oxttl : Oxttl) (fetch : SafeFetchConfig)
    (world : NetWorld N) : WebIdResolver := fun webId =>
  match (resolveProfile network url oxttl fetch webId world).1 with
  | .ok profile => .ok profile
  | .error (.rejected text) => .error text
  | .error .panicked => .error "WebID profile fetch failed: HTTP worker thread panicked."

def NamesIssuer (webId profileUrl issuer : String) (triple : Triple) : Prop :=
  triple.predicate = solidOidcIssuer ∧
    (triple.subject = .namedNode webId ∨ triple.subject = .namedNode profileUrl) ∧
    triple.object = .namedNode issuer

/-- A document without syntax errors that names the issuer. -/
def DocumentNames (items : List (Except String Triple)) (webId profileUrl issuer : String) : Prop :=
  (∀ item ∈ items, ∃ triple, item = .ok triple) ∧
    ∃ triple, .ok triple ∈ items ∧ NamesIssuer webId profileUrl issuer triple

def ListsIssuer (network : Network N) (url : UrlCrate) (oxttl : Oxttl) (fetch : SafeFetchConfig)
    (world : NetWorld N) (webId issuer : String) : Prop :=
  ∃ response, (get network url fetch (canonicaliseProfileUrl url webId) turtleAccept world).1 = .ok response ∧
    DocumentNames (oxttl.forSlice (oxttl.withBaseIri response.finalUrl) response.body) webId
      (canonicaliseProfileUrl url webId) issuer

theorem collectIssuers_step (webId profileUrl : String) (triple : Triple) (rest : List (Except String Triple))
    (issuers : Finset String) : ∃ further : Finset String,
      collectIssuers webId profileUrl (.ok triple :: rest) issuers = collectIssuers webId profileUrl rest further ∧
        ∀ issuer, issuer ∈ further ↔ issuer ∈ issuers ∨ NamesIssuer webId profileUrl issuer triple := by
  obtain ⟨subject,predicate,object⟩ := triple
  simp only [collectIssuers,NamesIssuer]
  by_cases predicated : predicate = solidOidcIssuer
  · cases subject with
    | namedNode subject =>
      by_cases other : subject ≠ webId ∧ subject ≠ profileUrl
      · refine ⟨issuers,by simp [predicated,other],?_⟩
        intro issuer
        simp [other]
      · have own : subject = webId ∨ subject = profileUrl := by
          by_contra neither
          exact other (not_or.mp neither)
        cases object with
        | namedNode object =>
          refine ⟨insert object issuers,by simp [predicated,other],?_⟩
          intro issuer
          simp only [Finset.mem_insert,RdfTerm.namedNode.injEq,predicated,own,true_and]
          rw [or_comm,eq_comm]
        | _ => exact ⟨issuers,by simp [predicated,other],by simp⟩
    | _ => exact ⟨issuers,by simp [predicated],by simp⟩
  · exact ⟨issuers,by simp [predicated],by simp [predicated]⟩

theorem collectIssuers_ok (webId profileUrl : String) (items : List (Except String Triple)) :
    ∀ issuers found : Finset String, collectIssuers webId profileUrl items issuers = .ok found →
      (∀ item ∈ items, ∃ triple, item = .ok triple) ∧ ∀ issuer, issuer ∈ found ↔
        issuer ∈ issuers ∨ ∃ triple, .ok triple ∈ items ∧ NamesIssuer webId profileUrl issuer triple := by
  induction items with
  | nil =>
    intro issuers found collected
    cases collected
    simp
  | cons item rest ih =>
    intro issuers found collected
    cases item with
    | error text => cases collected
    | ok triple =>
      obtain ⟨further,same,added⟩ := collectIssuers_step webId profileUrl triple rest issuers
      rw [same] at collected
      obtain ⟨whole,members⟩ := ih further found collected
      refine ⟨List.forall_mem_cons.mpr ⟨⟨triple,rfl⟩,whole⟩,?_⟩
      intro issuer
      rw [members issuer,added issuer,or_assoc]
      apply or_congr_right
      constructor
      · intro named
        obtain here | ⟨other,inside,named⟩ := named
        · exact ⟨triple,List.mem_cons_self,here⟩
        · exact ⟨other,List.mem_cons_of_mem _ inside,named⟩
      · intro named
        obtain ⟨other,inside,named⟩ := named
        obtain same | inside := List.mem_cons.mp inside
        · cases same
          exact Or.inl named
        · exact Or.inr ⟨other,inside,named⟩

theorem collectIssuers_total (webId profileUrl : String) (items : List (Except String Triple)) :
    (∀ item ∈ items, ∃ triple, item = .ok triple) →
      ∀ issuers : Finset String, ∃ found, collectIssuers webId profileUrl items issuers = .ok found := by
  induction items with
  | nil =>
    intro _ issuers
    exact ⟨issuers,rfl⟩
  | cons item rest ih =>
    intro whole issuers
    obtain ⟨⟨triple,same⟩,whole⟩ := List.forall_mem_cons.mp whole
    obtain ⟨further,step,_⟩ := collectIssuers_step webId profileUrl triple rest issuers
    rw [same,step]
    exact ih whole further

theorem parseOidcIssuers_lists (oxttl : Oxttl) (body : List UInt8) (baseUrl webId profileUrl issuer : String) :
    (∃ found, parseOidcIssuers oxttl body baseUrl webId profileUrl = .ok found ∧ issuer ∈ found) ↔
      DocumentNames (oxttl.forSlice (oxttl.withBaseIri baseUrl) body) webId profileUrl issuer := by
  unfold parseOidcIssuers DocumentNames
  constructor
  · intro listed
    obtain ⟨found,collected,member⟩ := listed
    obtain ⟨whole,members⟩ := collectIssuers_ok webId profileUrl _ ∅ found collected
    obtain already | named := (members issuer).mp member
    · simp at already
    · exact ⟨whole,named⟩
  · intro document
    obtain ⟨whole,named⟩ := document
    obtain ⟨found,collected⟩ := collectIssuers_total webId profileUrl _ whole ∅
    obtain ⟨_,members⟩ := collectIssuers_ok webId profileUrl _ ∅ found collected
    exact ⟨found,collected,(members issuer).mpr (Or.inr named)⟩

theorem networkResolver_ok (network : Network N) (url : UrlCrate) (oxttl : Oxttl) (fetch : SafeFetchConfig)
    (world : NetWorld N) (webId : String) (profile : WebIdProfile) :
    networkResolver network url oxttl fetch world webId = .ok profile ↔
      (resolveProfile network url oxttl fetch webId world).1 = .ok profile := by
  unfold networkResolver
  cases (resolveProfile network url oxttl fetch webId world).1 with
  | ok found => simp
  | error stop => cases stop <;> simp

/-- The resolver's profile lists exactly the issuers that the fetched document names. -/
theorem networkResolver_lists (network : Network N) (url : UrlCrate) (oxttl : Oxttl) (fetch : SafeFetchConfig)
    (world : NetWorld N) (webId issuer : String) :
    profileLists (networkResolver network url oxttl fetch world webId) issuer = true ↔
      ListsIssuer network url oxttl fetch world webId issuer := by
  unfold ListsIssuer
  rw [profileLists_iff]
  simp only [networkResolver_ok,← parseOidcIssuers_lists]
  unfold resolveProfile
  simp only [Exec.bind_value,Exec.mapReject_ok,Exec.lift_value]
  constructor
  · intro listed
    obtain ⟨profile,⟨response,fetched,found,parsed,same⟩,member⟩ := listed
    cases same
    exact ⟨response,fetched,found,parsed,member⟩
  · intro listed
    obtain ⟨response,fetched,found,parsed,member⟩ := listed
    exact ⟨⟨found⟩,⟨response,fetched,found,parsed,rfl⟩,member⟩

variable {S : Type}

theorem authenticate_off (env : Env S) (config : VerifierConfig) (req : AuthRequest) (parsed : Parsed) :
    authenticate env {config with bidirectionalMode := .off} req parsed = authenticate env config req parsed :=
  rfl

theorem replayStep_off (env : Env S) (config : VerifierConfig) (req : AuthRequest) :
    replayStep env {config with bidirectionalMode := .off} req = replayStep env config req := rfl

theorem verify_at_profile (env : Env S) (config : VerifierConfig) (req : AuthRequest) (parsed : Parsed)
    (world middle marked : World S) (authenticated : Authenticated)
    (presented : parseAuthorization env.crates req.authorization = some parsed)
    (checked : authenticate env config req parsed world = (.ok authenticated,middle))
    (unreplayed : replayStep env config req middle = (.ok (),marked)) :
    (verify env config req world).1 =
      (checkBidirectional config authenticated.webId authenticated.issuer marked).1.map
        fun _ => authenticated.credentials := by
  unfold verify
  rw [presented]
  change ((authenticate env config req parsed >>= fun authenticated => _) world).1 = _
  rw [Exec.bind_of_ok _ _ world middle authenticated checked]
  change ((replayStep env config req >>= fun _ => _) middle).1 = _
  rw [Exec.bind_of_ok _ _ middle marked () unreplayed]
  generalize outcome : checkBidirectional config authenticated.webId authenticated.issuer marked = confirmed
  obtain ⟨result,last⟩ := confirmed
  change ((checkBidirectional config authenticated.webId authenticated.issuer >>= fun _ => _) marked).1 = _
  cases result with
  | error stop =>
    rw [Exec.bind_of_error _ _ marked last stop outcome]
    rfl
  | ok value =>
    rw [Exec.bind_of_ok _ _ marked last value outcome]
    rfl

theorem checkBidirectional_strict (config : VerifierConfig) (webId issuer : String) (resolver : WebIdResolver)
    (world : World S) (strict : config.bidirectionalMode = .strict) (given : config.webidResolver = some resolver) :
    (checkBidirectional config webId issuer world).1 =
      if profileLists (resolver webId) issuer then .ok () else .error (.rejected bidirectionalRejection) := by
  unfold checkBidirectional
  rw [strict,given,if_neg (by decide)]
  change (Exec.lift (ensure (profileLists (resolver webId) issuer ∨ ¬BidirectionalMode.strict = .strict)
    bidirectionalRejection) _).1 = _
  by_cases listed : profileLists (resolver webId) issuer = true
  · rw [if_pos listed,Exec.lift_value,Except.ensure_ok]
    exact Or.inl listed
  · rw [if_neg listed]
    unfold ensure
    rw [if_neg (by simp [listed])]
    rfl

/-- Strict checking over the network accepts an otherwise valid request exactly where the fetched
profile lists the issuer, and refuses it with the constant error wherever it does not. -/
theorem strict_check_fails_closed (env : Env S) (config : VerifierConfig) (network : Network N) (oxttl : Oxttl)
    (fetch : SafeFetchConfig) (netWorld : NetWorld N) (req : AuthRequest) (world : World S)
    (token : VerifiedToken) (webId issuer : String) (strict : config.bidirectionalMode = .strict)
    (networked : config.webidResolver = some (networkResolver network env.crates.url oxttl fetch netWorld))
    (valid : (verify env {config with bidirectionalMode := .off} req world).1 = .ok token)
    (named : token.webId = some webId) (issued : token.issuer = some issuer) :
    ((verify env config req world).1 = .ok token ↔
      ListsIssuer network env.crates.url oxttl fetch netWorld webId issuer) ∧
    (¬ListsIssuer network env.crates.url oxttl fetch netWorld webId issuer →
      (verify env config req world).1 = .error (.rejected bidirectionalRejection)) := by
  cases presented : parseAuthorization env.crates req.authorization with
  | none =>
    unfold verify at valid
    rw [presented] at valid
    cases valid
    cases named
  | some parsed =>
    obtain ⟨authenticated,middle,marked,checked,unreplayed,_,same⟩ :=
      (verify_run env _ req parsed world token presented).mp valid
    rw [authenticate_off] at checked
    rw [replayStep_off] at unreplayed
    rw [verify_at_profile env config req parsed world middle marked authenticated presented checked unreplayed,
      checkBidirectional_strict config _ _ _ marked strict networked]
    rw [same] at named issued
    cases named
    cases issued
    rw [← networkResolver_lists,same]
    by_cases listed : profileLists (networkResolver network env.crates.url oxttl fetch netWorld
        authenticated.webId) authenticated.issuer = true
    · rw [if_pos listed]
      simp [listed,Except.map]
    · rw [if_neg listed]
      simp [listed,Except.map]

theorem verify_off (env : Env S) (config : VerifierConfig) (resolver : Option WebIdResolver)
    (req : AuthRequest) (world : World S) :
    verify env {config with bidirectionalMode := .off, webidResolver := resolver} req world =
      verify env {config with bidirectionalMode := .off} req world := by
  unfold verify
  cases parseAuthorization env.crates req.authorization with
  | none => rfl
  | some parsed => rfl

def sampleProfile : List UInt8 :=
  Text.asBytes "<#me> <http://www.w3.org/ns/solid/terms#oidcIssuer> <https://idp.example>."

def sampleOxttl : Oxttl where
  Base := String
  withBaseIri text := some text
  forSlice base body :=
    if base = some "https://alice.example/card" ∧ body = sampleProfile then
      [.ok ⟨.namedNode "https://alice.example/card#me",solidOidcIssuer,.namedNode "https://idp.example"⟩]
    else [.error "syntax error"]

def sampleResponse : Response where
  status := 200
  statusText := "200 OK"
  location := none
  contentLength := none
  body position := (sampleProfile[position]?.map BodyRead.byte).getD .finished

def sampleNetwork : Network Unit where
  resolveHost host world :=
    (if host = "alice.example" then .ok [.v4 (Ipv4Addr.ofBits 134744072)] else .error "no such host",world)
  exchange request world :=
    (if request.host = "alice.example" then .ok sampleResponse else .error "connection refused",world)

def strictConfig : VerifierConfig where
  __ := sampleConfig
  bidirectionalMode := .strict
  webidResolver := some (networkResolver sampleNetwork sampleUrl sampleOxttl .default ⟨(),[]⟩)

theorem sampleProfile_fetched :
    (get sampleNetwork sampleUrl .default "https://alice.example/card" turtleAccept ⟨(),[]⟩).1 =
      .ok ⟨sampleProfile,"https://alice.example/card"⟩ := by
  decide +kernel

theorem sampleProfile_lists : ListsIssuer sampleNetwork sampleUrl sampleOxttl .default ⟨(),[]⟩
    "https://alice.example/card#me" "https://idp.example" := by
  have address : canonicaliseProfileUrl sampleUrl "https://alice.example/card#me" = "https://alice.example/card" := by
    decide +kernel
  unfold ListsIssuer
  rw [address]
  refine ⟨_,sampleProfile_fetched,?_⟩
  have parsed : sampleOxttl.forSlice (sampleOxttl.withBaseIri "https://alice.example/card") sampleProfile =
      [.ok ⟨.namedNode "https://alice.example/card#me",solidOidcIssuer,.namedNode "https://idp.example"⟩] := by
    simp [sampleOxttl]
  rw [parsed]
  exact ⟨by simp,_,List.mem_singleton_self _,rfl,Or.inl rfl,rfl⟩

theorem strict_check_accepts_sample : (verify sampleEnv strictConfig sampleRequest ⟨[],[]⟩).1 =
    .ok (Authenticated.mk boundClaims "https://idp.example" "https://alice.example/card#me").credentials := by
  have valid : (verify sampleEnv {strictConfig with bidirectionalMode := .off} sampleRequest ⟨[],[]⟩).1 =
      .ok (Authenticated.mk boundClaims "https://idp.example" "https://alice.example/card#me").credentials := by
    have same := verify_off sampleEnv sampleConfig strictConfig.webidResolver sampleRequest ⟨[],[]⟩
    exact (congrArg Prod.fst same).trans sampleRequest_verified
  exact (strict_check_fails_closed sampleEnv strictConfig sampleNetwork sampleOxttl .default ⟨(),[]⟩ sampleRequest
    ⟨[],[]⟩ _ _ _ rfl rfl valid rfl rfl).1.mpr sampleProfile_lists

end SolidOidcVerifier
