import SolidOidcVerifier.CallTrace
import SolidOidcVerifier.Foundation.Rejections
import SolidOidcVerifier.Interleaving
import SolidOidcVerifier.JwksProvenance

/-! A verifier over the network provider of keys and the in-memory replay store, with concurrent calls of
`verify` on it. A call that needs the keys of an issuer looks them up when it arrives, may have to fetch and
to store them, and goes on once it has its answer. -/
namespace SolidOidcVerifier
open Foundation

structure Server (T : Type) where
  deployment : Deployment T
  paths : UrlPaths deployment.crates.url
  fetcher : SafeFetchConfig
  cacheTtl : T

structure Arrival (T : Type) where
  req : AuthRequest
  since : T

structure ServerState (T : Type) where
  verifier : System T
  jwks : JwksSystem T
  arrived : Nat → Option (Arrival T)

/-- `check` reads the clock of the access token at `reading`, between the arrival of the call and the step. -/
inductive ServerEvent (N T : Type) where
  | tick (reading : T)
  | arrive (call : Nat) (req : AuthRequest)
  | fetch (call : Nat) (network : Network N) (world : NetWorld N)
  | store (call : Nat)
  | check (call : Nat) (reading : T) (resolver : WebIdResolver)
  | mark (call : Nat)
  | finish (call : Nat)

/-- What the verifier sees of an answer of `keys_for`, which never panics (`fetchKeys_rejects`). -/
def keysAnswer : Except (Stop String) (List Jwk) → Except String (List Jwk)
  | .ok keys => .ok keys
  | .error (.rejected text) => .error text
  | .error .panicked => .error "HTTP worker thread panicked."

section panics

variable {N T : Type}

def Unpanicked {ε : Type} (stop : Stop ε) : Prop := stop ≠ .panicked

theorem lift_unpanicked {σ ε α : Type} (result : Except ε α) :
    Exec.Rejects Unpanicked (Exec.lift result : Exec σ ε α) := by
  apply Exec.rejects_lift
  intro error _ same
  cases same

theorem answered_unpanicked {α : Type} (answer : Except String α) :
    Except.Rejects Unpanicked (answer.mapError Stop.rejected) := by
  apply Except.rejects_mapError
  intro error same
  cases same

theorem hop_unpanicked (network : Network N) (url : UrlCrate) (config : SafeFetchConfig) (accept current : String) :
    Exec.Rejects Unpanicked (hop network url config accept current) := by
  unfold hop
  apply Exec.rejects_bind
  · exact lift_unpanicked _
  intro (parsed,host)
  apply Exec.rejects_bind
  · unfold pinnedIps
    split
    · exact Exec.rejects_pure _ _
    · apply Exec.rejects_bind
      · exact fun world => answered_unpanicked _
      · exact fun records => lift_unpanicked _
  intro pinned
  apply Exec.rejects_bind
  · exact lift_unpanicked _
  intro request
  apply Exec.rejects_bind
  · unfold runHttpHop
    apply Exec.rejects_bind
    · exact fun world => answered_unpanicked _
    · exact fun resp => lift_unpanicked _
  exact fun outcome => lift_unpanicked _

theorem hops_unpanicked (network : Network N) (url : UrlCrate) (config : SafeFetchConfig) (accept : String) (left : Nat) :
    ∀ current, Exec.Rejects Unpanicked (hops network url config accept left current) := by
  induction left with
  | zero => intro current; exact lift_unpanicked _
  | succ left ih =>
    intro current
    unfold hops
    apply Exec.rejects_bind
    · exact hop_unpanicked network url config accept current
    intro found
    cases found with
    | inl response => exact Exec.rejects_pure _ _
    | inr next => exact ih next

theorem fetchKeys_rejects (provider : NetworkJwksProvider T) (network : Network N) (issuer : String) :
    Exec.Rejects Unpanicked (provider.fetchKeys network issuer) := by
  have fetches : ∀ context address, Exec.Rejects Unpanicked (provider.fetch network context address) := by
    intro context address
    apply Exec.rejects_mapReject Unpanicked
    · exact hops_unpanicked network _ _ _ _ _
    · intro stop fine same
      cases stop with
      | rejected error => cases same
      | panicked => exact fine rfl
  unfold NetworkJwksProvider.fetchKeys
  apply Exec.rejects_bind
  · exact lift_unpanicked _
  intro discoveryUrl
  apply Exec.rejects_bind
  · exact fetches _ discoveryUrl
  intro disc
  apply Exec.rejects_bind
  · exact lift_unpanicked _
  intro jwksUri
  apply Exec.rejects_bind
  · exact fetches _ jwksUri
  exact fun jwks => lift_unpanicked _

end panics

def JwksStage.issuer : JwksStage → String
  | .fetching issuer => issuer
  | .fetched issuer _ => issuer
  | .returned issuer _ => issuer

namespace Server

variable {N T : Type}

def provider (server : Server T) : NetworkJwksProvider T :=
  ⟨server.deployment.crates,server.paths,server.fetcher,server.cacheTtl⟩

/-- The issuer whose keys `verify` asks for, where it comes to that. -/
def asksFor (server : Server T) (req : AuthRequest) : Option String := do
  let parsed ← parseAuthorization server.deployment.crates req.authorization
  (schemeGate server.deployment.crates server.deployment.config parsed).toOption
  let issuer ← (peekIssuer server.deployment.crates parsed.token).toOption
  (ensure (issuer ∈ server.deployment.config.trustedIssuers) ()).toOption
  let header ← (peekHeader server.deployment.crates parsed.token).toOption
  (ensure (algInPolicy header.alg) ()).toOption
  (ensure (algIsVerifiable server.deployment.build header.alg) ()).toOption
  return issuer

/-- The answer of `keys_for` that a call goes on with; there is none while the call still waits. A request
that is settled without keys meets an answer that nothing reads. -/
def keysOf (server : Server T) (state : ServerState T) (call : Nat) (req : AuthRequest) :
    Option (Except String (List Jwk)) :=
  match server.asksFor req with
  | none => some (.error "")
  | some _ =>
    match state.jwks.stage call with
    | some (.returned _ result) => some (keysAnswer result)
    | _ => none

variable [Field T] [LinearOrder T] [FloorRing T]

/-- The attempt of a call that has its keys. -/
def attemptOf (server : Server T) (state : ServerState T) (call : Nat) (reading : T) (resolver : WebIdResolver) :
    Option Attempt := do
  let arrival ← state.arrived call
  let keys ← server.keysOf state call arrival.req
  if arrival.since ≤ reading ∧ reading ≤ state.verifier.now then
    some ⟨arrival.req,fun _ => keys,resolver,some ⌊reading⌋₊⟩
  else none

/-- What an event makes the verifier do. -/
def verifierSteps (server : Server T) (event : ServerEvent N T) (state : ServerState T) : List (Event T) :=
  match event with
  | .tick reading => [.tick reading]
  | .check call reading resolver => ((server.attemptOf state call reading resolver).map (Event.check call)).toList
  | .mark call => [.mark call]
  | .finish call => [.finish call]
  | _ => []

/-- What an event makes the provider of keys do. Its clock is the monotonic one. -/
def jwksSteps (server : Server T) (event : ServerEvent N T) (state : ServerState T) : List (JwksEvent N T) :=
  match event with
  | .tick reading => [.tick (max state.verifier.now reading+server.deployment.offset)]
  | .arrive call req =>
    match state.arrived call with
    | none => ((server.asksFor req).map (JwksEvent.lookup call)).toList
    | some _ => []
  | .fetch call network world => [.fetch call network world]
  | .store call => [.store call]
  | _ => []

def arrivals (event : ServerEvent N T) (state : ServerState T) : Nat → Option (Arrival T) :=
  match event with
  | .arrive call req =>
    match state.arrived call with
    | none => Function.update state.arrived call (some ⟨req,state.verifier.now⟩)
    | some _ => state.arrived
  | _ => state.arrived

def step (server : Server T) (event : ServerEvent N T) (state : ServerState T) : ServerState T where
  verifier := History.run server.deployment.step (server.verifierSteps event state) state.verifier
  jwks := History.run server.provider.step (server.jwksSteps event state) state.jwks
  arrived := arrivals event state

/-- A fresh server, whose replay store holds at most `maxEntries`. -/
def start (server : Server T) (maxEntries : Nat) (now : T) : ServerState T where
  verifier := ⟨now,⟨InMemoryReplayStore.withClock maxEntries,[]⟩,fun _ => none⟩
  jwks := .new (now+server.deployment.offset)
  arrived _ := none

def run (server : Server T) (maxEntries : Nat) (now : T) (events : List (ServerEvent N T)) : ServerState T :=
  History.run server.step events (server.start maxEntries now)

/-- The steps of the verifier in a run of the server. -/
def verifierEvents (server : Server T) (maxEntries : Nat) (now : T) (events : List (ServerEvent N T)) : List (Event T) :=
  History.projection server.step server.verifierSteps events (server.start maxEntries now)

def jwksEvents (server : Server T) (maxEntries : Nat) (now : T) (events : List (ServerEvent N T)) :
    List (JwksEvent N T) :=
  History.projection server.step server.jwksSteps events (server.start maxEntries now)

theorem run_verifier (server : Server T) (maxEntries : Nat) (now : T) (events : List (ServerEvent N T)) :
    (server.run maxEntries now events).verifier =
      History.run server.deployment.step (server.verifierEvents maxEntries now events) (server.start maxEntries now).verifier :=
  History.run_projects server.step server.deployment.step ServerState.verifier server.verifierSteps
    (fun _ _ => rfl) events _

theorem run_jwks (server : Server T) (maxEntries : Nat) (now : T) (events : List (ServerEvent N T)) :
    (server.run maxEntries now events).jwks =
      server.provider.run (server.jwksEvents maxEntries now events) (now+server.deployment.offset) :=
  History.run_projects server.step server.provider.step ServerState.jwks server.jwksSteps (fun _ _ => rfl) events _

end Server

end SolidOidcVerifier
