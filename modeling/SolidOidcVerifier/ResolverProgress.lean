import SolidOidcVerifier.ResolverReplies

/-! No lookup stands in the way of another: a call of the system resolver returns once its own lookup
ends, however long the others take. -/
namespace SolidOidcVerifier
open Foundation

namespace SystemResolver

variable (job : ResolveJob)

/-- The reply channel of the call has its message or has lost its sender. -/
def Settled (resolver : SystemResolver) : Prop :=
  ∃ channel, channel ≠ .empty ∧ resolver.stage job.reply = some (.waiting job.host channel)

def Returned (resolver : SystemResolver) : Prop :=
  ∃ result, resolver.stage job.reply = some (.returned job.host result)

/-- A queued job moves up with every dispatch, until it is spawned or dropped. -/
theorem queued_advances : Endless.Advances step (fun resolver => resolver.Owned ∧ job ∈ resolver.queue)
    (fun resolver => resolver.Owned ∧ (job ∈ resolver.running ∨ resolver.Settled job))
    (fun resolver => resolver.queue.idxOf job) (fun event _ => event = .dispatch) := by
  intro event resolver waiting
  obtain ⟨owned,queued⟩ := waiting
  have next := step_owned event resolver owned
  by_cases exits : event = .exit
  · left
    have ends : resolver.EndsJob job .dropped event := Or.inr ⟨List.mem_append_left _ queued,exits,rfl⟩
    exact ⟨next,Or.inr ⟨.dropped,ReplyChannel.noConfusion,step_ends event resolver owned job .dropped ends⟩⟩
  by_cases dispatches : event = .dispatch
  · cases dispatches
    cases split : resolver.queue with
    | nil =>
      rw [split] at queued
      exact absurd queued List.not_mem_nil
    | cons first rest =>
      have moved : step .dispatch resolver = {resolver with queue := rest,running := first :: resolver.running} := by
        simp only [step,split]
      rw [moved] at next ⊢
      by_cases same : job = first
      · left
        rw [same]
        exact ⟨next,Or.inl List.mem_cons_self⟩
      · right
        have nearer : rest.idxOf job < resolver.queue.idxOf job := by
          rw [split,List.idxOf_cons_ne rest (Ne.symm same)]
          exact Nat.lt_succ_self _
        rw [split] at queued
        exact ⟨⟨next,List.mem_of_ne_of_mem same queued⟩,Nat.le_of_lt nearer,fun _ => nearer⟩
  · right
    have moved := step_moves event resolver
    generalize step event resolver = after at next moved
    cases moved with
    | dispatched first rest split => exact absurd rfl dispatches
    | exited => exact absurd rfl exits
    | sent call host begins serves =>
      refine ⟨⟨next,List.mem_append_left _ queued⟩,?_,fun same => absurd same dispatches⟩
      exact Nat.le_of_eq (List.idxOf_append_of_mem queued)
    | _ => exact ⟨⟨next,queued⟩,Nat.le_refl _,fun same => absurd same dispatches⟩

/-- A spawned lookup stays until it ends or is dropped. -/
theorem running_advances : Endless.Advances step (fun resolver => resolver.Owned ∧ job ∈ resolver.running)
    (fun resolver => resolver.Owned ∧ resolver.Settled job) (fun _ => 0)
    (fun event _ => (∃ channel, Ends job.reply channel event) ∨ event = .exit) := by
  intro event resolver waiting
  obtain ⟨owned,running⟩ := waiting
  have next := step_owned event resolver owned
  by_cases ending : ∃ channel, resolver.EndsJob job channel event
  · left
    obtain ⟨channel,ends⟩ := ending
    exact ⟨next,channel,endsJob_filled _ _ _ _ ends,step_ends event resolver owned job channel ends⟩
  · right
    refine ⟨⟨next,?_⟩,Nat.le_refl _,?_⟩
    · have moved := step_moves event resolver
      generalize step event resolver = after at moved
      cases moved with
      | dispatched first rest split => exact List.mem_cons_of_mem _ running
      | exited => exact absurd ⟨.dropped,Or.inr ⟨List.mem_append_right _ running,rfl,rfl⟩⟩ ending
      | finished event other channel ends member =>
        have differs : job ≠ other := by
          intro same
          rw [← same] at ends
          exact ending ⟨channel,Or.inl ⟨running,ends⟩⟩
        exact (List.mem_erase_of_ne differs).mpr running
      | _ => exact running
    · intro helps
      obtain ⟨channel,ends⟩ | exits := helps
      · exact absurd ⟨channel,Or.inl ⟨running,ends⟩⟩ ending
      · exact absurd ⟨.dropped,Or.inr ⟨List.mem_append_right _ running,exits,rfl⟩⟩ ending

/-- A message waits for its receiver. -/
theorem settled_advances : Endless.Advances step (fun resolver => resolver.Owned ∧ resolver.Settled job)
    (fun resolver => resolver.Returned job) (fun _ => 0) (fun event _ => event = .receive job.reply) := by
  intro event resolver waiting
  obtain ⟨owned,channel,filled,was⟩ := waiting
  have settled := changes_kept resolver owned event job.reply job.host channel filled _
    (step_changes event resolver owned job.reply) (Or.inl was)
  obtain still | ⟨result,_,returned⟩ := settled
  · right
    refine ⟨⟨step_owned event resolver owned,channel,filled,still⟩,Nat.le_refl _,?_⟩
    intro receives
    rw [receives] at still
    cases channel with
    | empty => exact absurd rfl filled
    | sent answer => simp [step,was,ReplyChannel.result,resolver.advance_stage] at still
    | dropped => simp [step,was,ReplyChannel.result,resolver.advance_stage] at still
  · exact Or.inl ⟨result,returned⟩

/-- What a call needs of an endless run: the dispatch loop and the call itself get their turns, and the
lookup of the call, once spawned, ends, if only with the thread. Nothing is asked of any other lookup. -/
structure FairTo (start : SystemResolver) (events : Nat → ResolveEvent) : Prop where
  dispatches : ∀ n, ∃ m, n ≤ m ∧ events m = .dispatch
  ends : ∀ n, job ∈ (Endless.state step events start n).running →
    ∃ m, n ≤ m ∧ ((∃ channel, Ends job.reply channel (events m)) ∨ events m = .exit)
  receives : ∀ n, ∃ m, n ≤ m ∧ events m = .receive job.reply

theorem state_owned (start : SystemResolver) (owned : start.Owned) (events : Nat → ResolveEvent) (n : Nat) :
    (Endless.state step events start n).Owned := by
  induction n with
  | zero => exact owned
  | succ n ih => exact step_owned (events n) _ ih

theorem settled_returns (start : SystemResolver) (events : Nat → ResolveEvent) (fair : FairTo job start events)
    (n : Nat) (owned : (Endless.state step events start n).Owned)
    (settled : (Endless.state step events start n).Settled job) :
    ∃ m, n ≤ m ∧ (Endless.state step events start m).Returned job :=
  Endless.reaches step events start _ _ _ _ (settled_advances job) (fun n _ => fair.receives n) n ⟨owned,settled⟩

theorem running_returns (start : SystemResolver) (events : Nat → ResolveEvent) (fair : FairTo job start events)
    (n : Nat) (owned : (Endless.state step events start n).Owned)
    (running : job ∈ (Endless.state step events start n).running) :
    ∃ m, n ≤ m ∧ (Endless.state step events start m).Returned job := by
  obtain ⟨m,order,held,settled⟩ := Endless.reaches step events start _ _ _ _ (running_advances job)
    (fun n waiting => fair.ends n waiting.2) n ⟨owned,running⟩
  obtain ⟨last,later,returned⟩ := settled_returns job start events fair m held settled
  exact ⟨last,order.trans later,returned⟩

theorem queued_returns (start : SystemResolver) (events : Nat → ResolveEvent) (fair : FairTo job start events)
    (n : Nat) (owned : (Endless.state step events start n).Owned)
    (queued : job ∈ (Endless.state step events start n).queue) :
    ∃ m, n ≤ m ∧ (Endless.state step events start m).Returned job := by
  obtain ⟨m,order,held,running | settled⟩ := Endless.reaches step events start _ _ _ _ (queued_advances job)
    (fun n _ => fair.dispatches n) n ⟨owned,queued⟩
  · obtain ⟨last,later,returned⟩ := running_returns job start events fair m held running
    exact ⟨last,order.trans later,returned⟩
  · obtain ⟨last,later,returned⟩ := settled_returns job start events fair m held settled
    exact ⟨last,order.trans later,returned⟩

/-- In an endless run that is fair to one call, in whatever state of the resolver the call is made, it
returns: a lookup that never ends holds up its own call only, and a thread that dies leaves no call
waiting. -/
theorem no_head_of_line_blocking (thread : ResolverThread) (start : SystemResolver) (made : new thread = .ok start)
    (events : Nat → ResolveEvent) (call : Nat) (host : String) (fair : FairTo ⟨host,call⟩ start events) (n : Nat)
    (begins : (Endless.state step events start n).stage call = none) (sends : events n = .send call host) :
    ∃ m, n < m ∧ ∃ result, (Endless.state step events start m).stage call = some (.returned host result) := by
  have owned := state_owned start (new_owned start thread made).2 events (n+1)
  have sent : (Endless.state step events start (n+1)).stage call = some (.waiting host .empty) ∨
      (Endless.state step events start (n+1)).stage call = some (.returned host (.error unavailableError)) := by
    change (step (events n) (Endless.state step events start n)).stage call = _ ∨
      (step (events n) (Endless.state step events start n)).stage call = _
    rw [sends]
    cases serves : (Endless.state step events start n).receiving with
    | true =>
      left
      simp only [step,begins,serves,if_true]
      exact advance_stage _ call _
    | false =>
      right
      simp only [step,begins,serves]
      exact advance_stage _ call _
  obtain waits | refused := sent
  · have member := (owned.owner call host).mp waits
    obtain queued | running := List.mem_append.mp member
    · obtain ⟨m,order,returned⟩ := queued_returns ⟨host,call⟩ start events fair (n+1) owned queued
      exact ⟨m,order,returned⟩
    · obtain ⟨m,order,returned⟩ := running_returns ⟨host,call⟩ start events fair (n+1) owned running
      exact ⟨m,order,returned⟩
  · exact ⟨n+1,Nat.lt_succ_self n,_,refused⟩

/-- Call 0 asks for a host whose lookup never ends, and call 1 for another one behind it. -/
def sampleSchedule : Nat → ResolveEvent
  | 0 => .send 0 "slow.example"
  | 1 => .send 1 "fast.example"
  | n+2 =>
    match n % 3 with
    | 0 => .dispatch
    | 1 => .answer 1 (.ok [])
    | _ => .receive 1

theorem sampleSchedule_recurs (n rest : Nat) (small : rest < 3) :
    ∃ m, n ≤ m ∧ sampleSchedule m = sampleSchedule (rest+2) := by
  refine ⟨3*n+rest+2,by omega,?_⟩
  have same : (3*n+rest) % 3 = rest % 3 := by omega
  simp only [sampleSchedule,same]

theorem no_head_of_line_blocking_sample : ∃ m, 1 < m ∧ ∃ result,
    (Endless.state step sampleSchedule sampleResolver m).stage 1 = some (.returned "fast.example" result) := by
  apply no_head_of_line_blocking sampleThread sampleResolver rfl sampleSchedule 1 "fast.example"
  · refine ⟨fun n => sampleSchedule_recurs n 0 (by decide),?_,fun n => sampleSchedule_recurs n 2 (by decide)⟩
    intro n _
    obtain ⟨m,later,same⟩ := sampleSchedule_recurs n 1 (by decide)
    exact ⟨m,later,Or.inl ⟨.sent (.ok []),Or.inl ⟨.ok [],same,rfl⟩⟩⟩
  · rfl
  · rfl

end SystemResolver

end SolidOidcVerifier
