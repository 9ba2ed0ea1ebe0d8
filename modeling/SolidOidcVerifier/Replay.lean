import SolidOidcVerifier.Foundation.ExpiryMap
import SolidOidcVerifier.Foundation.Mealy
import SolidOidcVerifier.Verifier

/-! The in-memory replay store over an arbitrary type of instants. -/
namespace SolidOidcVerifier
open Foundation

/-- Limits of the target: the largest `usize` and the largest `Instant`. -/
structure Platform (T : Type) where
  usizeMax : Nat
  instantMax : T

/-- `poisoned` is the state of the mutex after a panic under its lock. -/
structure InMemoryReplayStore (T : Type) where
  inner : ExpiryMap.Map String T
  poisoned : Bool
  maxEntries : Nat

def poisonedError : String := "replay store mutex poisoned"

def capacityError : String := "replay store at capacity; refusing to evict live jti (fail-closed)"

namespace InMemoryReplayStore

variable {T : Type}

def withClock (maxEntries : Nat) : InMemoryReplayStore T := ⟨∅,false,maxEntries⟩

def cap (platform : Platform T) (store : InMemoryReplayStore T) : Nat :=
  min store.maxEntries platform.usizeMax

variable [LinearOrder T]

def pruneExpired (now : T) (store : InMemoryReplayStore T) : InMemoryReplayStore T :=
  {store with inner := ExpiryMap.retain (fun expiry => decide (now < expiry)) store.inner}

/-- A new key at capacity, before which expired entries are swept. -/
def atCapacity (platform : Platform T) (jti : String) (store : InMemoryReplayStore T) : Prop :=
  jti ∉ store.inner ∧ store.cap platform ≤ ExpiryMap.size store.inner

instance (platform : Platform T) (jti : String) (store : InMemoryReplayStore T) :
    Decidable (store.atCapacity platform jti) := by
  unfold atCapacity
  infer_instance

def contains (jti : String) (now : T) (store : InMemoryReplayStore T) : Except String Bool :=
  if store.poisoned then .error poisonedError
  else .ok (ExpiryMap.Live store.inner.lookup now jti)

/-- The store that the insertion meets: itself, or swept where it was at capacity. -/
def MakesRoom (platform : Platform T) (jti : String) (now : T) (store room : InMemoryReplayStore T) : Prop :=
  (¬store.atCapacity platform jti ∧ room = store) ∨
    (store.atCapacity platform jti ∧ room = store.pruneExpired now ∧
      ExpiryMap.size room.inner < room.cap platform)

theorem pruneExpired_lookup (now : T) (store : InMemoryReplayStore T) (jti : String) (expiry : T)
    (ahead : now < expiry) :
    (store.pruneExpired now).inner.lookup jti = some expiry ↔ store.inner.lookup jti = some expiry := by
  unfold pruneExpired
  rw [ExpiryMap.lookup_retain]
  simp [ahead]

theorem MakesRoom.lookup (platform : Platform T) (jti : String) (now : T)
    (store room : InMemoryReplayStore T) (made : MakesRoom platform jti now store room) (other : String)
    (expiry : T) (ahead : now < expiry) :
    room.inner.lookup other = some expiry ↔ store.inner.lookup other = some expiry := by
  obtain ⟨_,same⟩ | ⟨_,same,_⟩ := made
  · rw [same]
  · rw [same]
    exact pruneExpired_lookup now store other expiry ahead

variable [Add T]

/-- The insertion. An overflow of the instant panics under the lock, before the map changes. -/
def record (platform : Platform T) (jti : String) (ttl now : T) (store : InMemoryReplayStore T) :
    MarkReply × InMemoryReplayStore T :=
  if now+ttl ≤ platform.instantMax then
    (.new,{store with inner := store.inner.insert jti (now+ttl)})
  else (.panicked,{store with poisoned := true})

variable [Zero T]

def mark (platform : Platform T) (jti : String) (ttl now : T) (store : InMemoryReplayStore T) :
    MarkReply × InMemoryReplayStore T :=
  if store.poisoned then (.backendError poisonedError,store)
  else if ExpiryMap.Live store.inner.lookup now jti then (.replay,store)
  else if 0 < ttl then
    if store.atCapacity platform jti then
      let swept := store.pruneExpired now
      if swept.cap platform ≤ ExpiryMap.size swept.inner then (.backendError capacityError,swept)
      else swept.record platform jti ttl now
    else store.record platform jti ttl now
  else (.new,store)

/-- The store as the verifier calls it, at one reading of the monotonic clock. -/
def seam [NatCast T] (platform : Platform T) (now : T) : ReplayStore (InMemoryReplayStore T) where
  mark jti ttl store := store.mark platform jti (ttl : T) now

end InMemoryReplayStore

inductive Operation (T : Type) where
  | mark (jti : String) (ttl now : T)
  | contains (jti : String) (now : T)

inductive Answer where
  | mark (reply : MarkReply)
  | contains (found : Except String Bool)
deriving DecidableEq

def Operation.now {T : Type} : Operation T → T
  | .mark _ _ now => now
  | .contains _ now => now

/-- The instant of expiry, where a mark computes one, is within the platform's limit. -/
def Operation.Representable {T : Type} [Add T] [Zero T] [LE T] [LT T] (platform : Platform T) :
    Operation T → Prop
  | .mark _ ttl now => 0 < ttl → now+ttl ≤ platform.instantMax
  | .contains _ _ => True

instance {T : Type} [Add T] [Zero T] [LE T] [LT T] [DecidableLE T] [DecidableLT T] (platform : Platform T)
    (op : Operation T) : Decidable (op.Representable platform) := by
  unfold Operation.Representable
  cases op with
  | mark jti ttl now => exact inferInstanceAs (Decidable (0 < ttl → now+ttl ≤ platform.instantMax))
  | contains jti now => exact isTrue trivial

namespace InMemoryReplayStore

variable {T : Type} [LinearOrder T] [Add T] [Zero T]

def step (platform : Platform T) (op : Operation T) (store : InMemoryReplayStore T) :
    Answer × InMemoryReplayStore T :=
  match op with
  | .mark jti ttl now =>
    let (reply,next) := store.mark platform jti ttl now
    (.mark reply,next)
  | .contains jti now => (.contains (store.contains jti now),store)

def run (platform : Platform T) : List (Operation T) → InMemoryReplayStore T →
    List Answer × InMemoryReplayStore T := Mealy.run (step platform)

inductive MarkStep (platform : Platform T) (jti : String) (ttl now : T) (store : InMemoryReplayStore T) :
    MarkReply → InMemoryReplayStore T → Prop
  | poisoned (broken : store.poisoned = true) :
    MarkStep platform jti ttl now store (.backendError poisonedError) store
  | replay (sound : store.poisoned = false) (live : ExpiryMap.Live store.inner.lookup now jti) :
    MarkStep platform jti ttl now store .replay store
  | unstored (sound : store.poisoned = false) (dead : ¬ExpiryMap.Live store.inner.lookup now jti)
    (spent : ¬0 < ttl) : MarkStep platform jti ttl now store .new store
  | full (sound : store.poisoned = false) (dead : ¬ExpiryMap.Live store.inner.lookup now jti)
    (ahead : 0 < ttl) (gate : store.atCapacity platform jti)
    (crowded : store.cap platform ≤ ExpiryMap.size (store.pruneExpired now).inner) :
    MarkStep platform jti ttl now store (.backendError capacityError) (store.pruneExpired now)
  | recorded (room : InMemoryReplayStore T) (sound : store.poisoned = false)
    (dead : ¬ExpiryMap.Live store.inner.lookup now jti) (ahead : 0 < ttl)
    (made : MakesRoom platform jti now store room) (fits : now+ttl ≤ platform.instantMax) :
    MarkStep platform jti ttl now store .new {room with inner := room.inner.insert jti (now+ttl)}
  | overflowed (room : InMemoryReplayStore T) (sound : store.poisoned = false)
    (dead : ¬ExpiryMap.Live store.inner.lookup now jti) (ahead : 0 < ttl)
    (made : MakesRoom platform jti now store room) (beyond : ¬now+ttl ≤ platform.instantMax) :
    MarkStep platform jti ttl now store .panicked {room with poisoned := true}

theorem record_step (platform : Platform T) (jti : String) (ttl now : T) (store room : InMemoryReplayStore T)
    (sound : store.poisoned = false) (dead : ¬ExpiryMap.Live store.inner.lookup now jti) (ahead : 0 < ttl)
    (made : MakesRoom platform jti now store room) :
    MarkStep platform jti ttl now store (room.record platform jti ttl now).1
      (room.record platform jti ttl now).2 := by
  unfold record
  by_cases fits : now+ttl ≤ platform.instantMax
  · rw [if_pos fits]
    exact .recorded room sound dead ahead made fits
  · rw [if_neg fits]
    exact .overflowed room sound dead ahead made fits

theorem mark_step (platform : Platform T) (jti : String) (ttl now : T) (store : InMemoryReplayStore T) :
    MarkStep platform jti ttl now store (store.mark platform jti ttl now).1
      (store.mark platform jti ttl now).2 := by
  unfold mark
  cases sound : store.poisoned with
  | true => exact .poisoned sound
  | false =>
    rw [if_neg (by simp)]
    by_cases live : ExpiryMap.Live store.inner.lookup now jti
    · rw [if_pos live]
      exact .replay sound live
    · rw [if_neg live]
      by_cases ahead : 0 < ttl
      · rw [if_pos ahead]
        by_cases gate : store.atCapacity platform jti
        · rw [if_pos gate]
          by_cases crowded : store.cap platform ≤ ExpiryMap.size (store.pruneExpired now).inner
          · have swept : (store.pruneExpired now).cap platform ≤
                ExpiryMap.size (store.pruneExpired now).inner := crowded
            simp only [if_pos swept]
            exact .full sound live ahead gate crowded
          · have spare : ¬(store.pruneExpired now).cap platform ≤
                ExpiryMap.size (store.pruneExpired now).inner := crowded
            simp only [if_neg spare]
            exact record_step platform jti ttl now store _ sound live ahead
              (Or.inr ⟨gate,rfl,Nat.lt_of_not_le crowded⟩)
        · rw [if_neg gate]
          exact record_step platform jti ttl now store store sound live ahead (Or.inl ⟨gate,rfl⟩)
      · rw [if_neg ahead]
        exact .unstored sound live ahead

theorem step_keeps_live (platform : Platform T) (op : Operation T) (store : InMemoryReplayStore T)
    (jti : String) (expiry : T) (ahead : op.now < expiry) (held : store.inner.lookup jti = some expiry) :
    (step platform op store).2.inner.lookup jti = some expiry := by
  cases op with
  | contains other now => exact held
  | mark other ttl now =>
    change now < expiry at ahead
    change (store.mark platform other ttl now).2.inner.lookup jti = some expiry
    generalize outcome : store.mark platform other ttl now = result
    have can := mark_step platform other ttl now store
    rw [outcome] at can
    obtain ⟨reply,next⟩ := result
    cases can with
    | poisoned broken => exact held
    | replay sound live => exact held
    | unstored sound dead spent => exact held
    | full sound dead future gate crowded => exact (pruneExpired_lookup now store jti expiry ahead).mpr held
    | recorded room sound dead future made fits =>
      have kept := (made.lookup platform other now store room jti expiry ahead).mpr held
      have differs : jti ≠ other := by
        intro same
        rw [same] at held
        exact dead ⟨expiry,held,ahead⟩
      exact (AList.lookup_insert_ne differs).trans kept
    | overflowed room sound dead future made beyond =>
      exact (made.lookup platform other now store room jti expiry ahead).mpr held

theorem step_keeps_sound (platform : Platform T) (op : Operation T) (store : InMemoryReplayStore T)
    (representable : op.Representable platform) (sound : store.poisoned = false) :
    (step platform op store).2.poisoned = false := by
  cases op with
  | contains other now => exact sound
  | mark other ttl now =>
    change (store.mark platform other ttl now).2.poisoned = false
    generalize outcome : store.mark platform other ttl now = result
    have can := mark_step platform other ttl now store
    rw [outcome] at can
    obtain ⟨reply,next⟩ := result
    cases can with
    | poisoned broken => exact sound
    | replay _ live => exact sound
    | unstored _ dead spent => exact sound
    | full _ dead future gate crowded => exact sound
    | recorded room _ dead future made fits =>
      obtain ⟨_,same⟩ | ⟨_,same,_⟩ := made
      · rw [same]
        exact sound
      · rw [same]
        exact sound
    | overflowed room _ dead future made beyond => exact absurd (representable future) beyond

end InMemoryReplayStore

end SolidOidcVerifier
