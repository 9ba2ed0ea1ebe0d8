import SolidOidcVerifier.Foundation.ExpiryMap
import SolidOidcVerifier.Foundation.History
import SolidOidcVerifier.JwksProvider

/-! The cache of key sets, and concurrent calls of `keys_for` on it. A call looks the issuer up under
the lock, fetches without it where there is no fresh entry, and stores under the lock again; between
these steps any other call may take its own. -/
namespace SolidOidcVerifier
open Foundation

structure JwksCacheEntry (T : Type) where
  keys : List Jwk
  fetchedAt : T

/-- `poisoned` is the state of the mutex after a panic under its lock. -/
structure JwksCache (T : Type) where
  entries : ExpiryMap.Map String (JwksCacheEntry T)
  poisoned : Bool

def jwksPoisonedError : String := "JWKS cache mutex poisoned"

/-- `Instant::elapsed`, which is zero for an instant ahead. -/
def elapsed {T : Type} [LE T] [DecidableLE T] [Sub T] [Zero T] (fetchedAt now : T) : T :=
  if fetchedAt ≤ now then now-fetchedAt else 0

namespace JwksCache

variable {T : Type}

def lookup [LE T] [DecidableLE T] [LT T] [DecidableLT T] [Sub T] [Zero T] (ttl now : T) (issuer : String)
    (cache : JwksCache T) : Except String (Option (List Jwk)) :=
  if cache.poisoned then .error jwksPoisonedError
  else match cache.entries.lookup issuer with
    | some entry => if elapsed entry.fetchedAt now < ttl then .ok (some entry.keys) else .ok none
    | none => .ok none

def insert (now : T) (issuer : String) (keys : List Jwk) (cache : JwksCache T) : JwksCache T :=
  if cache.poisoned then cache else {cache with entries := cache.entries.insert issuer ⟨keys,now⟩}

end JwksCache

variable {N T : Type} [LinearOrder T] [Sub T] [Zero T]

/-- `NetworkJwksProvider::keys_for`. The clock is read twice, at the lookup and at the insertion. -/
def NetworkJwksProvider.keysFor (provider : NetworkJwksProvider T) (network : Network N) (looked stored : T)
    (issuer : String) (cache : JwksCache T) (world : NetWorld N) :
    Except (Stop String) (List Jwk) × JwksCache T × NetWorld N :=
  match cache.lookup provider.cacheTtl looked issuer with
  | .error text => (.error (.rejected text),cache,world)
  | .ok (some keys) => (.ok keys,cache,world)
  | .ok none =>
    match provider.fetchKeys network issuer world with
    | (.error stop,after) => (.error stop,cache,after)
    | (.ok keys,after) => (.ok keys,cache.insert stored issuer keys,after)

inductive JwksStage where
  | fetching (issuer : String)
  | fetched (issuer : String) (keys : List Jwk)
  | returned (issuer : String) (result : Except (Stop String) (List Jwk))

/-- One provider with the calls on it; `stage` is empty for a call that has not begun. -/
structure JwksSystem (T : Type) where
  now : T
  cache : JwksCache T
  stage : Nat → Option JwksStage

/-- A fetch meets a network of its own, in whatever state. `poison` is a panic under the lock, which no
step of a call raises. -/
inductive JwksEvent (N T : Type) where
  | tick (reading : T)
  | poison
  | lookup (call : Nat) (issuer : String)
  | fetch (call : Nat) (network : Network N) (world : NetWorld N)
  | store (call : Nat)

namespace JwksSystem

def new (start : T) : JwksSystem T := ⟨start,⟨∅,false⟩,fun _ => none⟩

def advance (system : JwksSystem T) (call : Nat) (stage : JwksStage) : JwksSystem T :=
  {system with stage := Function.update system.stage call (some stage)}

end JwksSystem

namespace NetworkJwksProvider

def lookupStage (issuer : String) : Except String (Option (List Jwk)) → JwksStage
  | .error text => .returned issuer (.error (.rejected text))
  | .ok (some keys) => .returned issuer (.ok keys)
  | .ok none => .fetching issuer

def fetchStage (issuer : String) : Except (Stop String) (List Jwk) → JwksStage
  | .error stop => .returned issuer (.error stop)
  | .ok keys => .fetched issuer keys

/-- A step that its call cannot take now changes nothing. -/
def step (provider : NetworkJwksProvider T) (event : JwksEvent N T) (system : JwksSystem T) : JwksSystem T :=
  match event with
  | .tick reading => {system with now := max system.now reading}
  | .poison => {system with cache := {system.cache with poisoned := true}}
  | .lookup call issuer =>
    match system.stage call with
    | none => system.advance call (lookupStage issuer (system.cache.lookup provider.cacheTtl system.now issuer))
    | some _ => system
  | .fetch call network world =>
    match system.stage call with
    | some (.fetching issuer) => system.advance call (fetchStage issuer (provider.fetchKeys network issuer world).1)
    | _ => system
  | .store call =>
    match system.stage call with
    | some (.fetched issuer keys) =>
      {system.advance call (.returned issuer (.ok keys)) with cache := system.cache.insert system.now issuer keys}
    | _ => system

def run (provider : NetworkJwksProvider T) (events : List (JwksEvent N T)) (start : T) : JwksSystem T :=
  History.run provider.step events (.new start)

def FetchedBy (provider : NetworkJwksProvider T) (start : T) (call : Nat) (issuer : String) (keys : List Jwk) :
    List (JwksEvent N T) → Prop :=
  Happened fun before event => ∃ network world, event = .fetch call network world ∧
    (provider.run before start).stage call = some (.fetching issuer) ∧
    (provider.fetchKeys network issuer world).1 = .ok keys

/-- At the instant, a call stored the keys that it had fetched for the issuer. -/
def StoredAt (provider : NetworkJwksProvider T) (start : T) (issuer : String) (keys : List Jwk) (instant : T) :
    List (JwksEvent N T) → Prop :=
  Happened fun before event => ∃ call, event = .store call ∧ (provider.run before start).now = instant ∧
    FetchedBy provider start call issuer keys before

/-- The call found an entry of the issuer that was stored less than the cache's time to live before. -/
def ServedFresh (provider : NetworkJwksProvider T) (start : T) (call : Nat) (issuer : String) (keys : List Jwk) :
    List (JwksEvent N T) → Prop :=
  Happened fun before event => event = .lookup call issuer ∧ ∃ instant,
    StoredAt provider start issuer keys instant before ∧
    (provider.run before start).cache.entries.lookup issuer = some ⟨keys,instant⟩ ∧
    instant ≤ (provider.run before start).now ∧ (provider.run before start).now-instant < provider.cacheTtl

/-- What a step can do. -/
inductive Moves (provider : NetworkJwksProvider T) (system : JwksSystem T) : JwksEvent N T → JwksSystem T → Prop where
  | none (event : JwksEvent N T) : Moves provider system event system
  | ticked (reading : T) : Moves provider system (.tick reading) {system with now := max system.now reading}
  | poisoned : Moves provider system .poison {system with cache := {system.cache with poisoned := true}}
  | refused (call : Nat) (issuer : String) (begins : system.stage call = Option.none)
      (locked : system.cache.poisoned = true) :
      Moves provider system (.lookup call issuer)
        (system.advance call (.returned issuer (.error (.rejected jwksPoisonedError))))
  | served (call : Nat) (issuer : String) (entry : JwksCacheEntry T) (begins : system.stage call = Option.none)
      (found : system.cache.entries.lookup issuer = some entry)
      (fresh : elapsed entry.fetchedAt system.now < provider.cacheTtl) :
      Moves provider system (.lookup call issuer) (system.advance call (.returned issuer (.ok entry.keys)))
  | missed (call : Nat) (issuer : String) (begins : system.stage call = Option.none) :
      Moves provider system (.lookup call issuer) (system.advance call (.fetching issuer))
  | failed (call : Nat) (network : Network N) (world : NetWorld N) (issuer : String) (stop : Stop String)
      (was : system.stage call = some (.fetching issuer))
      (outcome : (provider.fetchKeys network issuer world).1 = .error stop) :
      Moves provider system (.fetch call network world) (system.advance call (.returned issuer (.error stop)))
  | fetched (call : Nat) (network : Network N) (world : NetWorld N) (issuer : String) (keys : List Jwk)
      (was : system.stage call = some (.fetching issuer))
      (outcome : (provider.fetchKeys network issuer world).1 = .ok keys) :
      Moves provider system (.fetch call network world) (system.advance call (.fetched issuer keys))
  | stored (call : Nat) (issuer : String) (keys : List Jwk)
      (was : system.stage call = some (.fetched issuer keys)) :
      Moves provider system (.store call) {system.advance call (.returned issuer (.ok keys)) with
        cache := system.cache.insert system.now issuer keys}

theorem step_moves (provider : NetworkJwksProvider T) (event : JwksEvent N T) (system : JwksSystem T) :
    Moves provider system event (provider.step event system) := by
  cases event with
  | tick reading => exact Moves.ticked reading
  | poison => exact Moves.poisoned
  | lookup call issuer =>
    cases begins : system.stage call with
    | some stage =>
      simp only [step,begins]
      exact Moves.none _
    | none =>
      simp only [step,begins,JwksCache.lookup]
      by_cases locked : system.cache.poisoned = true
      · rw [if_pos locked]
        exact Moves.refused call issuer begins locked
      · rw [if_neg locked]
        cases found : system.cache.entries.lookup issuer with
        | none => exact Moves.missed call issuer begins
        | some entry =>
          by_cases fresh : elapsed entry.fetchedAt system.now < provider.cacheTtl
          · simp only [if_pos fresh]
            exact Moves.served call issuer entry begins found fresh
          · simp only [if_neg fresh]
            exact Moves.missed call issuer begins
  | fetch call network world =>
    cases was : system.stage call with
    | none =>
      simp only [step,was]
      exact Moves.none _
    | some stage =>
      cases stage with
      | fetching issuer =>
        simp only [step,was]
        cases outcome : (provider.fetchKeys network issuer world).1 with
        | error stop => exact Moves.failed call network world issuer stop was outcome
        | ok keys => exact Moves.fetched call network world issuer keys was outcome
      | _ =>
        simp only [step,was]
        exact Moves.none _
  | store call =>
    cases was : system.stage call with
    | none =>
      simp only [step,was]
      exact Moves.none _
    | some stage =>
      cases stage with
      | fetched issuer keys =>
        simp only [step,was]
        exact Moves.stored call issuer keys was
      | _ =>
        simp only [step,was]
        exact Moves.none _

end NetworkJwksProvider

end SolidOidcVerifier
