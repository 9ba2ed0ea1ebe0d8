import SolidOidcVerifier.Replay

/-! The in-memory store answers like an ideal store that remembers every recorded mark and counts
the live ones. -/
namespace SolidOidcVerifier
open Foundation

/-- Every new mark with a positive TTL and its instant of expiry, newest first. -/
abbrev IdealStore (T : Type) := List (String × T)

namespace IdealStore

variable {T : Type}

def expiry (ideal : IdealStore T) (jti : String) : Option T := List.lookup jti ideal

theorem expiry_cons (ideal : IdealStore T) (jti other : String) (instant : T) :
    expiry ((jti,instant) :: ideal) other = if other = jti then some instant else expiry ideal other := by
  unfold expiry
  rw [List.lookup_cons]
  by_cases same : other = jti
  · rw [if_pos same,beq_iff_eq.mpr same]
  · rw [if_neg same,beq_eq_false_iff_ne.mpr same]

variable [LinearOrder T]

def liveKeys (ideal : IdealStore T) (now : T) : List String :=
  (ideal.map Prod.fst).dedup.filter (fun jti => ExpiryMap.Live ideal.expiry now jti)

theorem mem_liveKeys (ideal : IdealStore T) (now : T) (jti : String) :
    jti ∈ ideal.liveKeys now ↔ ExpiryMap.Live ideal.expiry now jti := by
  unfold liveKeys
  rw [List.mem_filter,decide_eq_true_eq]
  apply and_iff_right_of_imp
  intro live
  obtain ⟨instant,found,_⟩ := live
  obtain ⟨before,after,split,_⟩ := List.lookup_eq_some_iff.mp found
  have member : (jti,instant) ∈ ideal := by
    rw [split]
    simp
  exact List.mem_dedup.mpr (List.mem_map.mpr ⟨_,member,rfl⟩)

variable [Add T] [Zero T]

def mark (cap : Nat) (jti : String) (ttl now : T) (ideal : IdealStore T) : MarkReply × IdealStore T :=
  if ExpiryMap.Live ideal.expiry now jti then (.replay,ideal)
  else if 0 < ttl then
    if cap ≤ (ideal.liveKeys now).length then (.backendError capacityError,ideal)
    else (.new,(jti,now+ttl) :: ideal)
  else (.new,ideal)

def step (cap : Nat) (op : Operation T) (ideal : IdealStore T) : Answer × IdealStore T :=
  match op with
  | .mark jti ttl now =>
    let (reply,next) := mark cap jti ttl now ideal
    (.mark reply,next)
  | .contains jti now => (.contains (.ok (ExpiryMap.Live ideal.expiry now jti)),ideal)

def run (cap : Nat) : List (Operation T) → IdealStore T → List Answer × IdealStore T :=
  Mealy.run (step cap)

end IdealStore

namespace InMemoryReplayStore

variable {T : Type} [LinearOrder T]

/-- The map and the ideal store hold the same live entries, and the map stays within its cap. -/
structure Agrees (platform : Platform T) (cap : Nat) (now : T) (store : InMemoryReplayStore T)
    (ideal : IdealStore T) : Prop where
  sound : store.poisoned = false
  capacity : store.cap platform = cap
  bounded : ExpiryMap.size store.inner ≤ cap
  same : ∀ jti instant, now < instant →
    (store.inner.lookup jti = some instant ↔ ideal.expiry jti = some instant)

section agreement

variable (platform : Platform T) (cap : Nat) (store : InMemoryReplayStore T) (ideal : IdealStore T)

theorem Agrees.later (before now : T) (order : before ≤ now)
    (agrees : Agrees platform cap before store ideal) : Agrees platform cap now store ideal := by
  refine ⟨agrees.sound,agrees.capacity,agrees.bounded,?_⟩
  intro jti instant ahead
  exact agrees.same jti instant (lt_of_le_of_lt order ahead)

theorem Agrees.live (now : T) (agrees : Agrees platform cap now store ideal) (jti : String) :
    ExpiryMap.Live store.inner.lookup now jti ↔ ExpiryMap.Live ideal.expiry now jti := by
  constructor
  · intro live
    obtain ⟨instant,found,ahead⟩ := live
    exact ⟨instant,(agrees.same jti instant ahead).mp found,ahead⟩
  · intro live
    obtain ⟨instant,found,ahead⟩ := live
    exact ⟨instant,(agrees.same jti instant ahead).mpr found,ahead⟩

theorem Agrees.count (now : T) (agrees : Agrees platform cap now store ideal) :
    (ExpiryMap.liveKeys store.inner now).length = (ideal.liveKeys now).length := by
  have distinct : (ideal.liveKeys now).Nodup := (List.nodup_dedup _).filter _
  apply List.Perm.length_eq
  apply (List.perm_ext_iff_of_nodup (ExpiryMap.nodup_liveKeys store.inner now) distinct).mpr
  intro jti
  rw [ExpiryMap.mem_liveKeys,IdealStore.mem_liveKeys]
  exact agrees.live platform cap store ideal now jti

theorem Agrees.prune (now : T) (agrees : Agrees platform cap now store ideal) :
    Agrees platform cap now (store.pruneExpired now) ideal := by
  have width : ExpiryMap.size (store.pruneExpired now).inner =
      (ExpiryMap.liveKeys store.inner now).length := ExpiryMap.size_sweep store.inner now
  have fewer := ExpiryMap.liveKeys_le store.inner now
  refine ⟨agrees.sound,agrees.capacity,?_,?_⟩
  · rw [width]
    exact fewer.trans agrees.bounded
  · intro jti instant ahead
    rw [pruneExpired_lookup now store jti instant ahead]
    exact agrees.same jti instant ahead

theorem MakesRoom.spare (jti : String) (now : T) (room : InMemoryReplayStore T)
    (agrees : Agrees platform cap now store ideal) (dead : ¬ExpiryMap.Live store.inner.lookup now jti)
    (made : MakesRoom platform jti now store room) : (ideal.liveKeys now).length < cap := by
  rw [← agrees.count]
  obtain ⟨inside,_⟩ | ⟨_,swept,spare⟩ := made
  · unfold atCapacity at inside
    by_cases present : jti ∈ store.inner
    · exact lt_of_lt_of_le (ExpiryMap.liveKeys_lt store.inner now jti present dead) agrees.bounded
    · have below : ExpiryMap.size store.inner < store.cap platform := by
        by_contra above
        exact inside ⟨present,Nat.le_of_not_lt above⟩
      rw [agrees.capacity] at below
      exact lt_of_le_of_lt (ExpiryMap.liveKeys_le store.inner now) below
  · have width : ExpiryMap.size room.inner = (ExpiryMap.liveKeys store.inner now).length := by
      rw [swept]
      exact ExpiryMap.size_sweep store.inner now
    have same : room.cap platform = cap := by
      rw [swept]
      exact agrees.capacity
    omega

theorem MakesRoom.agrees (jti : String) (now : T) (room : InMemoryReplayStore T)
    (agrees : Agrees platform cap now store ideal) (made : MakesRoom platform jti now store room) :
    Agrees platform cap now room ideal ∧
      (jti ∉ room.inner → ExpiryMap.size room.inner < cap) := by
  have same : ∀ other instant, now < instant →
      (room.inner.lookup other = some instant ↔ ideal.expiry other = some instant) := by
    intro other instant ahead
    rw [made.lookup platform jti now store room other instant ahead]
    exact agrees.same other instant ahead
  obtain ⟨inside,unchanged⟩ | ⟨gate,swept,spare⟩ := made
  · subst unchanged
    refine ⟨agrees,?_⟩
    intro absent
    rw [← agrees.capacity]
    by_contra above
    exact inside ⟨absent,Nat.le_of_not_lt above⟩
  · have capacity : room.cap platform = cap := by
      rw [swept]
      exact agrees.capacity
    rw [capacity] at spare
    have sound : room.poisoned = false := by
      rw [swept]
      exact agrees.sound
    exact ⟨⟨sound,capacity,spare.le,same⟩,fun _ => spare⟩

variable [Add T]

theorem Agrees.record (jti : String) (ttl now : T) (room : InMemoryReplayStore T)
    (agrees : Agrees platform cap now room ideal)
    (spare : jti ∉ room.inner → ExpiryMap.size room.inner < cap) :
    Agrees platform cap now {room with inner := room.inner.insert jti (now+ttl)}
      ((jti,now+ttl) :: ideal) := by
  refine ⟨agrees.sound,agrees.capacity,?_,?_⟩
  · by_cases present : jti ∈ room.inner
    · rw [ExpiryMap.size_insert_old room.inner jti (now+ttl) present]
      exact agrees.bounded
    · rw [ExpiryMap.size_insert_new room.inner jti (now+ttl) present]
      exact spare present
  · intro other instant ahead
    rw [IdealStore.expiry_cons]
    by_cases same : other = jti
    · rw [if_pos same,same]
      rw [AList.lookup_insert]
    · rw [if_neg same,AList.lookup_insert_ne same]
      exact agrees.same other instant ahead

variable [Zero T]

theorem Agrees.mark (jti : String) (ttl now : T) (agrees : Agrees platform cap now store ideal)
    (representable : 0 < ttl → now+ttl ≤ platform.instantMax) :
    (store.mark platform jti ttl now).1 = (IdealStore.mark cap jti ttl now ideal).1 ∧
      Agrees platform cap now (store.mark platform jti ttl now).2
        (IdealStore.mark cap jti ttl now ideal).2 := by
  have live := agrees.live platform cap store ideal now jti
  have can := mark_step platform jti ttl now store
  generalize store.mark platform jti ttl now = result at can ⊢
  obtain ⟨reply,next⟩ := result
  unfold IdealStore.mark
  cases can with
  | poisoned broken =>
    rw [agrees.sound] at broken
    cases broken
  | replay sound alive =>
    rw [if_pos (live.mp alive)]
    exact ⟨rfl,agrees⟩
  | unstored sound dead spent =>
    rw [if_neg (fun alive => dead (live.mpr alive)),if_neg spent]
    exact ⟨rfl,agrees⟩
  | full sound dead ahead gate crowded =>
    have width := ExpiryMap.size_sweep store.inner now
    have filled : cap ≤ (ideal.liveKeys now).length := by
      rw [← agrees.count,← width,← agrees.capacity]
      exact crowded
    rw [if_neg (fun alive => dead (live.mpr alive)),if_pos ahead,if_pos filled]
    exact ⟨rfl,agrees.prune platform cap store ideal now⟩
  | recorded room sound dead ahead made fits =>
    have fewer := made.spare platform cap store ideal jti now room agrees dead
    obtain ⟨roomAgrees,spare⟩ := made.agrees platform cap store ideal jti now room agrees
    rw [if_neg (fun alive => dead (live.mpr alive)),if_pos ahead,if_neg (Nat.not_le.mpr fewer)]
    exact ⟨rfl,roomAgrees.record platform cap ideal jti ttl now room spare⟩
  | overflowed room sound dead ahead made beyond => exact absurd (representable ahead) beyond

theorem Agrees.step (op : Operation T) (representable : op.Representable platform)
    (agrees : Agrees platform cap op.now store ideal) :
    (InMemoryReplayStore.step platform op store).1 = (IdealStore.step cap op ideal).1 ∧
      Agrees platform cap op.now (InMemoryReplayStore.step platform op store).2
        (IdealStore.step cap op ideal).2 := by
  cases op with
  | mark jti ttl now =>
    obtain ⟨answer,next⟩ := agrees.mark platform cap store ideal jti ttl now representable
    exact ⟨congrArg Answer.mark answer,next⟩
  | contains jti now =>
    have live := agrees.live platform cap store ideal now jti
    refine ⟨?_,agrees⟩
    change Answer.contains (store.contains jti now) = Answer.contains (.ok (decide _))
    unfold InMemoryReplayStore.contains
    rw [agrees.sound]
    simp only [live]
    rfl

end agreement

variable [Add T] [Zero T]

theorem run_agrees (platform : Platform T) (maxEntries : Nat) (ops : List (Operation T))
    (ordered : ops.Pairwise (fun first second => first.now ≤ second.now))
    (representable : ∀ op ∈ ops, op.Representable platform) :
    (run platform ops (withClock maxEntries)).1 =
        (IdealStore.run (min maxEntries platform.usizeMax) ops []).1 ∧
      ∀ now, (∀ op ∈ ops, op.now ≤ now) →
        Agrees platform (min maxEntries platform.usizeMax) now (run platform ops (withClock maxEntries)).2
          (IdealStore.run (min maxEntries platform.usizeMax) ops []).2 := by
  have initial : ∀ now, Agrees platform (min maxEntries platform.usizeMax) now (withClock maxEntries) [] := by
    intro now
    refine ⟨rfl,rfl,Nat.zero_le _,?_⟩
    intro jti instant _
    constructor
    · intro found
      cases found
    · intro found
      cases found
  cases ops with
  | nil => exact ⟨rfl,fun now _ => initial now⟩
  | cons op rest =>
    have fromHere : ∀ other ∈ op :: rest, op.now ≤ other.now := by
      intro other member
      obtain same | inside := List.mem_cons.mp member
      · rw [same]
      · exact (List.pairwise_cons.mp ordered).1 other inside
    obtain ⟨answers,last⟩ := Mealy.run_simulates (step platform) (IdealStore.step _) Operation.now
      (Agrees platform (min maxEntries platform.usizeMax)) (Operation.Representable platform)
      (fun before now s t order agrees => agrees.later platform _ s t before now order)
      (fun other s t fits agrees => agrees.step platform _ s t other fits)
      (op :: rest) op.now (withClock maxEntries) [] fromHere ordered representable (initial op.now)
    refine ⟨answers,?_⟩
    intro now bound
    exact last now (bound op List.mem_cons_self) bound

/-- Over a clock that never goes back, and with representable instants of expiry, the store answers
like the ideal one; it stays within its cap and no operation drops or changes a live entry. -/
theorem refines_ideal (platform : Platform T) (maxEntries : Nat) (ops : List (Operation T))
    (ordered : ops.Pairwise (fun first second => first.now ≤ second.now))
    (representable : ∀ op ∈ ops, op.Representable platform) :
    (run platform ops (withClock maxEntries)).1 =
        (IdealStore.run (min maxEntries platform.usizeMax) ops []).1 ∧
      ∀ before after, ops = before ++ after →
        let reached := (run platform before (withClock maxEntries)).2
        let ideal := (IdealStore.run (min maxEntries platform.usizeMax) before []).2
        ExpiryMap.size reached.inner ≤ min maxEntries platform.usizeMax ∧
          (∀ now, (∀ op ∈ before, op.now ≤ now) → ∀ jti instant, now < instant →
            (reached.inner.lookup jti = some instant ↔ ideal.expiry jti = some instant)) ∧
          ∀ op rest, after = op :: rest → ∀ jti instant, op.now < instant →
            reached.inner.lookup jti = some instant →
              (step platform op reached).2.inner.lookup jti = some instant := by
  refine ⟨(run_agrees platform maxEntries ops ordered representable).1,?_⟩
  intro before after split
  rw [split] at ordered representable
  have first := (List.pairwise_append.mp ordered).1
  have within : ∀ op ∈ before, op.Representable platform := by
    intro op member
    exact representable op (List.mem_append_left after member)
  obtain ⟨_,agrees⟩ := run_agrees platform maxEntries before first within
  refine ⟨?_,?_,?_⟩
  · cases before with
    | nil => exact Nat.zero_le _
    | cons op rest =>
      have inhabited : Nonempty T := ⟨op.now⟩
      obtain ⟨latest,bound⟩ := Finset.exists_le ((op :: rest).map Operation.now).toFinset
      refine (agrees latest ?_).bounded
      intro other member
      exact bound other.now (List.mem_toFinset.mpr (List.mem_map.mpr ⟨other,member,rfl⟩))
  · intro now bound
    exact (agrees now bound).same
  · intro op rest _ jti instant ahead held
    exact step_keeps_live platform op _ jti instant ahead held

/-- Nanoseconds on a 64-bit target whose instants hold `i64` seconds. -/
def platform64 : Platform Nat := ⟨2^64-1,(2^63-1)*10^9+999999999⟩

theorem refines_ideal_reused :
    let ops : List (Operation Nat) := [.mark "a" 10 0,.mark "b" 5 3,.contains "a" 5,.mark "b" 0 6,.mark "b" 10 10]
    (run platform64 ops (withClock 1)).1 = (IdealStore.run 1 ops []).1 :=
  (refines_ideal platform64 1 _ (by decide) (by
    intro op member
    simp only [List.mem_cons,List.not_mem_nil,or_false] at member
    rcases member with rfl | rfl | rfl | rfl | rfl <;> simp [Operation.Representable,platform64])).1

def durationMax : Nat := (2^64-1)*10^9+999999999

/-- Marking with the longest `Duration` panics where the ideal store records it, and the poisoned
mutex fails every later operation. -/
theorem duration_max_panics :
    let ops : List (Operation Nat) := [.mark "j" durationMax 0,.contains "j" 1]
    ops.Pairwise (fun first second => first.now ≤ second.now) ∧
      (run platform64 ops (withClock 100000)).1 = [.mark .panicked,.contains (.error poisonedError)] ∧
      (IdealStore.run 100000 ops []).1 = [.mark .new,.contains (.ok true)] := by
  decide

end InMemoryReplayStore

end SolidOidcVerifier
