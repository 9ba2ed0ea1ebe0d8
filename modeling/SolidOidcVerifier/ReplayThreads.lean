import SolidOidcVerifier.Foundation.Locked
import SolidOidcVerifier.ReplayIdeal
import SolidOidcVerifier.ReplayRetention

/-! Threads on one in-memory replay store. A call of `mark` or of `contains` takes the lock and reads the
clock only under it, so that the calls behave as if each had the store to itself for an instant. -/
namespace SolidOidcVerifier
open Foundation

inductive ReplayRequest (T : Type) where
  | mark (jti : String) (ttl : T)
  | contains (jti : String)
deriving DecidableEq

def ReplayRequest.operation {T : Type} (now : T) : ReplayRequest T → Operation T
  | .mark jti ttl => .mark jti ttl now
  | .contains jti => .contains jti now

namespace InMemoryReplayStore

variable {T : Type}

def operation (entry : Locked.Entry (ReplayRequest T) T) : Operation T := entry.request.operation entry.reading

theorem operation_now (entry : Locked.Entry (ReplayRequest T) T) : (operation entry).now = entry.reading := by
  obtain ⟨call,request,reading⟩ := entry
  cases request with
  | mark jti ttl => rfl
  | contains jti => rfl

theorem entry_operation (log : List (Locked.Entry (ReplayRequest T) T)) (i : Nat)
    (entry : Locked.Entry (ReplayRequest T) T) (entered : log[i]? = some entry) :
    (log.map operation)[i]? = some (operation entry) := by
  rw [List.getElem?_map,entered]
  rfl

variable [LinearOrder T] [Add T] [Zero T]

/-- The body of the call, between its reading of the clock and the end of the lock. -/
def perform (platform : Platform T) : Locked.Perform (ReplayRequest T) Answer (InMemoryReplayStore T) T :=
  fun request now store => step platform (request.operation now) store

def runThreads (platform : Platform T) (maxEntries : Nat) (start : T) (events : List (Locked.Event (ReplayRequest T) T)) :
    Locked.System (ReplayRequest T) Answer (InMemoryReplayStore T) T :=
  Locked.run (perform platform) events (.new start (withClock maxEntries))

theorem run_entries (platform : Platform T) (log : List (Locked.Entry (ReplayRequest T) T)) (store : InMemoryReplayStore T) :
    Mealy.run (perform platform).entry log store = run platform (log.map operation) store :=
  Mealy.run_map (step platform) operation log store

theorem log_ordered (platform : Platform T) (maxEntries : Nat) (start : T)
    (events : List (Locked.Event (ReplayRequest T) T)) :
    ((runThreads platform maxEntries start events).log.map operation).Pairwise
      (fun first second => first.now ≤ second.now) := by
  have serial := Locked.run_serial (perform platform) events start (withClock maxEntries)
  apply List.pairwise_map.mpr
  apply serial.ordered.imp
  intro first second order
  rw [operation_now,operation_now]
  exact order

theorem returned_answer (platform : Platform T) (maxEntries : Nat) (start : T)
    (events : List (Locked.Event (ReplayRequest T) T)) (call : Nat) (request : ReplayRequest T) (reading : T)
    (answer : Answer)
    (returned : (runThreads platform maxEntries start events).stage call = some (.returned request reading answer)) :
    ∃ i : Nat, (runThreads platform maxEntries start events).log[i]? = some ⟨call,request,reading⟩ ∧
      (run platform ((runThreads platform maxEntries start events).log.map operation) (withClock maxEntries)).1[i]? =
        some answer := by
  have serial := Locked.run_serial (perform platform) events start (withClock maxEntries)
  rw [← run_entries]
  exact serial.effective call request reading answer returned

/-- The store under threads is linearizable: whatever the interleaving, there is one order of the calls in
which each answer is the one the store gives when the calls are made one after another, at readings of
the clock that never go back; calls that do not overlap keep their order; and where the instants of expiry
are representable these are the answers of the ideal store. -/
theorem linearizable (platform : Platform T) (maxEntries : Nat) (start : T)
    (events : List (Locked.Event (ReplayRequest T) T)) :
    let system := runThreads platform maxEntries start events
    let ops := system.log.map operation
    (∀ call request reading answer, system.stage call = some (.returned request reading answer) →
      ∃ i : Nat, system.log[i]? = some ⟨call,request,reading⟩ ∧
        (run platform ops (withClock maxEntries)).1[i]? = some answer) ∧
    ops.Pairwise (fun first second => first.now ≤ second.now) ∧
    (∀ before after, events = before ++ after → ∀ first second request other reading instant answer reply,
      (runThreads platform maxEntries start before).stage first = some (.returned request reading answer) →
      (runThreads platform maxEntries start before).stage second = none →
      system.stage second = some (.returned other instant reply) →
      reading ≤ instant ∧ ∃ i j : Nat, i < j ∧ system.log[i]? = some ⟨first,request,reading⟩ ∧
        system.log[j]? = some ⟨second,other,instant⟩) ∧
    ((∀ op ∈ ops, op.Representable platform) → (run platform ops (withClock maxEntries)).1 =
      (IdealStore.run (min maxEntries platform.usizeMax) ops []).1) := by
  intro system ops
  have ordered := log_ordered platform maxEntries start events
  refine ⟨returned_answer platform maxEntries start events,ordered,?_,?_⟩
  · intro before after split first second request other reading instant answer reply returned begins later
    change (runThreads platform maxEntries start events).stage second = _ at later
    change reading ≤ instant ∧ ∃ i j : Nat, i < j ∧
      (runThreads platform maxEntries start events).log[i]? = _ ∧
      (runThreads platform maxEntries start events).log[j]? = _
    rw [split] at later ⊢
    obtain ⟨early,late,placed⟩ := Locked.real_time (perform platform) start (withClock maxEntries) before after first
      second request other reading instant answer reply returned begins later
    exact ⟨early.trans late,placed⟩
  · exact fun representable => (run_agrees platform maxEntries ops ordered representable).1

theorem run_keeps_live (platform : Platform T) (jti : String) (expiry : T) (ops : List (Operation T)) :
    ∀ store : InMemoryReplayStore T, (∀ op ∈ ops, op.now < expiry) → store.inner.lookup jti = some expiry →
      (run platform ops store).2.inner.lookup jti = some expiry := by
  induction ops with
  | nil => intro store _ held; exact held
  | cons op rest ih =>
    intro store ahead held
    apply ih
    · intro other member
      exact ahead other (List.mem_cons_of_mem op member)
    · exact step_keeps_live platform op store jti expiry (ahead op List.mem_cons_self) held

/-- A live `jti` is not new, poisoned mutex or not. -/
theorem mark_live (platform : Platform T) (jti : String) (ttl now expiry : T) (store : InMemoryReplayStore T)
    (held : store.inner.lookup jti = some expiry) (ahead : now < expiry) :
    (store.mark platform jti ttl now).1 ≠ .new := by
  have live : ExpiryMap.Live store.inner.lookup now jti := ⟨expiry,held,ahead⟩
  intro new
  generalize outcome : store.mark platform jti ttl now = result at new
  have can := mark_step platform jti ttl now store
  rw [outcome] at can
  obtain ⟨reply,next⟩ := result
  cases new
  cases can with
  | unstored sound dead spent => exact dead live
  | recorded room sound dead future made fits => exact dead live

/-- In a sequence of operations, a `jti` is new again only when the window of its last new mark is over. -/
theorem new_apart (platform : Platform T) (jti : String) (ttl other now later : T) (store : InMemoryReplayStore T)
    (before middle : List (Operation T)) (ahead : 0 < ttl)
    (first : ((run platform before store).2.mark platform jti ttl now).1 = .new)
    (ordered : ∀ op ∈ middle, op.now ≤ later)
    (second : ((run platform (before ++ .mark jti ttl now :: middle) store).2.mark platform jti other later).1 = .new) :
    now+ttl ≤ later := by
  by_contra early
  have early : later < now+ttl := lt_of_not_ge early
  generalize outcome : (run platform before store).2.mark platform jti ttl now = result at first
  obtain ⟨reply,marked⟩ := result
  cases first
  have held := (mark_new_holds platform jti ttl now _ marked ahead outcome).2
  have kept := run_keeps_live platform jti (now+ttl) middle marked
    (fun op member => lt_of_le_of_lt (ordered op member) early) held
  have reached : (run platform (before ++ .mark jti ttl now :: middle) store).2 = (run platform middle marked).2 := by
    have whole : (run platform (before ++ .mark jti ttl now :: middle) store).2 =
        (run platform middle ((run platform before store).2.mark platform jti ttl now).2).2 := by
      unfold run
      rw [Mealy.run_append]
      rfl
    rw [whole,outcome]
  rw [reached] at second
  exact mark_live platform jti other later (now+ttl) _ kept early second

theorem answers_new (platform : Platform T) (maxEntries : Nat) (ops : List (Operation T)) (jti : String) (ttl now : T)
    (i : Nat) (entered : ops[i]? = some (.mark jti ttl now))
    (new : (run platform ops (withClock maxEntries)).1[i]? = some (.mark .new)) :
    ((run platform (ops.take i) (withClock maxEntries)).2.mark platform jti ttl now).1 = .new := by
  obtain ⟨op,found,answered⟩ := Mealy.answer_at (step platform) ops _ i _ new
  rw [entered] at found
  cases found
  injection answered with replied
  exact replied.symm

theorem newAt_apart (platform : Platform T) (maxEntries : Nat) (ops : List (Operation T)) (jti : String)
    (ttl other now later : T) (i j : Nat) (order : i < j)
    (ordered : ops.Pairwise (fun first second => first.now ≤ second.now))
    (firstOp : ops[i]? = some (.mark jti ttl now)) (secondOp : ops[j]? = some (.mark jti other later))
    (firstNew : (run platform ops (withClock maxEntries)).1[i]? = some (.mark .new))
    (secondNew : (run platform ops (withClock maxEntries)).1[j]? = some (.mark .new)) :
    now ≤ later ∧ (0 < ttl → now+ttl ≤ later) := by
  have first := answers_new platform maxEntries ops jti ttl now i firstOp firstNew
  have second := answers_new platform maxEntries ops jti other later j secondOp secondNew
  have entered : (ops.take j)[i]? = some (.mark jti ttl now) := (List.getElem?_take_of_lt order).trans firstOp
  obtain ⟨bound,same⟩ := List.getElem?_eq_some_iff.mp entered
  have split : ops.take j = ops.take i ++ .mark jti ttl now :: (ops.take j).drop (i+1) := by
    have shorter : (ops.take j).take i = ops.take i := by
      rw [List.take_take,min_eq_left (Nat.le_of_lt order)]
    rw [← same,← List.drop_eq_getElem_cons bound,← shorter,List.take_append_drop]
  rw [split] at second
  have clock : ∀ op ∈ ops.take j, op.now ≤ later := by
    obtain ⟨last,sameLast⟩ := List.getElem?_eq_some_iff.mp secondOp
    intro op member
    have whole := List.take_append_drop j ops
    rw [← whole] at ordered
    have before := (List.pairwise_append.mp ordered).2.2 op member ops[j] (by
      rw [List.drop_eq_getElem_cons last]
      exact List.mem_cons_self)
    rw [sameLast] at before
    exact before
  refine ⟨clock (.mark jti ttl now) (List.mem_of_getElem? entered),?_⟩
  intro ahead
  apply new_apart platform jti ttl other now later (withClock maxEntries) (ops.take i) _ ahead first _ second
  intro op member
  exact clock op (List.mem_of_mem_drop member)

/-- Two calls of `mark` for one `jti` that both answered "new", in whatever threads, are a window apart. A `ttl` of
zero has no window. -/
theorem new_once_per_window (platform : Platform T) (maxEntries : Nat) (start : T)
    (events : List (Locked.Event (ReplayRequest T) T)) (first second : Nat) (jti : String) (ttl other reading instant : T)
    (differs : first ≠ second)
    (one : (runThreads platform maxEntries start events).stage first =
      some (.returned (.mark jti ttl) reading (.mark .new)))
    (two : (runThreads platform maxEntries start events).stage second =
      some (.returned (.mark jti other) instant (.mark .new))) :
    reading ≤ instant ∧ (0 < ttl → reading+ttl ≤ instant) ∨ instant ≤ reading ∧ (0 < other → instant+other ≤ reading) := by
  obtain ⟨i,firstEntry,firstNew⟩ := returned_answer platform maxEntries start events first _ reading _ one
  obtain ⟨j,secondEntry,secondNew⟩ := returned_answer platform maxEntries start events second _ instant _ two
  have ordered := log_ordered platform maxEntries start events
  have firstOp := entry_operation _ i _ firstEntry
  have secondOp := entry_operation _ j _ secondEntry
  rcases lt_trichotomy i j with before | same | after
  · exact Or.inl (newAt_apart platform maxEntries _ jti ttl other reading instant i j before ordered firstOp
      secondOp firstNew secondNew)
  · rw [same,secondEntry] at firstEntry
    cases firstEntry
    exact absurd rfl differs
  · exact Or.inr (newAt_apart platform maxEntries _ jti other ttl instant reading j i after ordered secondOp
      firstOp secondNew firstNew)

/-- Two threads race with one proof: the second has to wait for the lock. -/
def sampleRace : List (Locked.Event (ReplayRequest Nat) Nat) :=
  [.invoke 0 (.mark "a" 10),.invoke 1 (.mark "a" 10),.acquire 0,.acquire 1,.sample 0,.tick 3,.operate 0,.acquire 1,.tick 12,
    .sample 1,.operate 1]

theorem new_once_per_window_sample : 0 ≤ 12 ∧ (0 < 10 → 0+10 ≤ 12) ∨ 12 ≤ 0 ∧ (0 < 10 → 12+10 ≤ 0) :=
  new_once_per_window platform64 5 0 sampleRace 0 1 "a" 10 10 0 12 (by decide) rfl rfl

end InMemoryReplayStore

end SolidOidcVerifier
