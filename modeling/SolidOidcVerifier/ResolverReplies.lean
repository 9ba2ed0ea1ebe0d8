import SolidOidcVerifier.DnsResolver

/-! Over every interleaving, a call of the system resolver returns what the lookup of its own job came
to, and nothing that another call asked for. -/
namespace SolidOidcVerifier
open Foundation

namespace SystemResolver

theorem advance_stage (resolver : SystemResolver) (call : Nat) (stage : ResolveStage) :
    (resolver.advance call stage).stage call = some stage := Function.update_self call _ _

theorem advance_other (resolver : SystemResolver) (call other : Nat) (stage : ResolveStage)
    (differs : other ≠ call) : (resolver.advance call stage).stage other = resolver.stage other :=
  Function.update_of_ne differs _ _

theorem advance_some (resolver : SystemResolver) (call other : Nat) (stage reached : ResolveStage) :
    (resolver.advance call stage).stage other = some reached ↔
      other = call ∧ stage = reached ∨ other ≠ call ∧ resolver.stage other = some reached := by
  by_cases same : other = call
  · rw [same,resolver.advance_stage,Option.some.injEq]
    simp
  · rw [resolver.advance_other call other stage same]
    simp [same]

theorem settle_other (resolver : SystemResolver) (jobs : List ResolveJob) (channel : ReplyChannel) (call : Nat)
    (apart : call ∉ jobs.map ResolveJob.reply) : (resolver.settle jobs channel).stage call = resolver.stage call :=
  if_neg apart

theorem settle_member (resolver : SystemResolver) (jobs : List ResolveJob) (channel : ReplyChannel) (job : ResolveJob)
    (member : job ∈ jobs) :
    (resolver.settle jobs channel).stage job.reply = (resolver.stage job.reply).map (.settled channel) :=
  if_pos (List.mem_map_of_mem member)

/-- Each call that waits for its reply has exactly one job in the hands of the thread, and each job
belongs to such a call. -/
structure Owned (resolver : SystemResolver) : Prop where
  distinct : (resolver.outstanding.map ResolveJob.reply).Nodup
  owner : ∀ call host, resolver.stage call = some (.waiting host .empty) ↔ ⟨host,call⟩ ∈ resolver.outstanding
  closed : resolver.receiving = false → resolver.outstanding = []

theorem Owned.waits (resolver : SystemResolver) (owned : resolver.Owned) (job : ResolveJob)
    (member : job ∈ resolver.outstanding) : resolver.stage job.reply = some (.waiting job.host .empty) :=
  (owned.owner job.reply job.host).mpr member

theorem Owned.unasked (resolver : SystemResolver) (owned : resolver.Owned) (call : Nat)
    (begins : resolver.stage call = none) : call ∉ resolver.outstanding.map ResolveJob.reply := by
  intro inside
  obtain ⟨job,member,same⟩ := List.mem_map.mp inside
  have waits := owned.waits resolver job member
  rw [same,begins] at waits
  cases waits

/-- Some jobs end, with their calls no longer waiting, and what is left keeps its owners. -/
theorem Owned.shrink (resolver next : SystemResolver) (owned : resolver.Owned) (gone : List ResolveJob)
    (split : resolver.outstanding.Perm (gone ++ next.outstanding))
    (kept : ∀ call host, call ∉ gone.map ResolveJob.reply →
      (next.stage call = some (.waiting host .empty) ↔ resolver.stage call = some (.waiting host .empty)))
    (left : ∀ job ∈ gone, ∀ host, next.stage job.reply ≠ some (.waiting host .empty))
    (closed : next.receiving = false → next.outstanding = []) : next.Owned := by
  have distinct := (split.map ResolveJob.reply).nodup_iff.mp owned.distinct
  rw [List.map_append,List.nodup_append'] at distinct
  obtain ⟨_,others,apart⟩ := distinct
  refine ⟨others,?_,closed⟩
  intro call host
  by_cases ended : call ∈ gone.map ResolveJob.reply
  · apply iff_of_false
    · obtain ⟨job,member,rfl⟩ := List.mem_map.mp ended
      exact left job member host
    · intro member
      exact apart ended (List.mem_map_of_mem (f := ResolveJob.reply) member)
  · rw [kept call host ended,owned.owner call host,split.mem_iff,List.mem_append]
    apply or_iff_right
    intro member
    exact ended (List.mem_map_of_mem (f := ResolveJob.reply) member)

theorem settle_left (resolver : SystemResolver) (owned : resolver.Owned) (jobs : List ResolveJob)
    (inside : ∀ job ∈ jobs, job ∈ resolver.outstanding) (channel : ReplyChannel) (filled : channel ≠ .empty)
    (job : ResolveJob) (member : job ∈ jobs) (host : String) :
    (resolver.settle jobs channel).stage job.reply ≠ some (.waiting host .empty) := by
  rw [resolver.settle_member jobs channel job member,owned.waits resolver job (inside job member),Option.map_some]
  intro same
  cases Option.some.inj same
  exact filled rfl

theorem new_owned (start : SystemResolver) (thread : ResolverThread) (made : new thread = .ok start) :
    start = ⟨true,[],[],fun _ => none⟩ ∧ start.Owned := by
  unfold new at made
  simp only [Except.bind_ok] at made
  obtain ⟨_,_,_,_,_,_,same⟩ := made
  cases same
  refine ⟨rfl,List.nodup_nil,?_,fun _ => rfl⟩
  intro call host
  exact iff_of_false (by simp) List.not_mem_nil

theorem Ends.filled (call : Nat) (channel : ReplyChannel) (event : ResolveEvent) (ends : Ends call channel event) :
    channel ≠ .empty := by
  obtain ⟨answer,_,same⟩ | ⟨_,same⟩ := ends
  · rw [same]
    exact ReplyChannel.noConfusion
  · rw [same]
    exact ReplyChannel.noConfusion

/-- A call that does not wait for its reply takes a step that leaves it so. -/
theorem Owned.advance (resolver : SystemResolver) (owned : resolver.Owned) (call : Nat) (stage : ResolveStage)
    (before : ∀ host, resolver.stage call ≠ some (.waiting host .empty))
    (after : ∀ host, stage ≠ .waiting host .empty) : (resolver.advance call stage).Owned := by
  refine ⟨owned.distinct,?_,owned.closed⟩
  intro other host
  refine Iff.trans ?_ (owned.owner other host)
  rw [resolver.advance_some]
  by_cases same : other = call
  · rw [same]
    simp [before host,after host]
  · simp [same]

theorem step_owned (event : ResolveEvent) (resolver : SystemResolver) (owned : resolver.Owned) :
    (step event resolver).Owned := by
  have moved := step_moves event resolver
  generalize step event resolver = next at moved
  cases moved with
  | none => exact owned
  | sent call host begins serves =>
    have perm : (resolver.queue ++ [ResolveJob.mk host call] ++ resolver.running).Perm
        (ResolveJob.mk host call :: resolver.outstanding) := by
      rw [List.append_assoc]
      exact List.perm_middle
    refine ⟨?_,?_,?_⟩
    · apply (perm.map ResolveJob.reply).nodup_iff.mpr
      rw [List.map_cons]
      exact List.nodup_cons.mpr ⟨owned.unasked resolver call begins,owned.distinct⟩
    · intro other name
      refine (resolver.advance_some call other (.waiting host .empty) (.waiting name .empty)).trans ?_
      refine Iff.trans ?_ perm.mem_iff.symm
      rw [List.mem_cons,← owned.owner other name]
      by_cases same : other = call
      · rw [same,begins]
        simp [eq_comm]
      · simp [same]
    · intro closed
      change resolver.receiving = false at closed
      rw [serves] at closed
      cases closed
  | refused call host begins closed =>
    apply owned.advance resolver call
    · simp [begins]
    · simp
  | dispatched job rest queued =>
    have perm : resolver.outstanding.Perm (rest ++ job :: resolver.running) := by
      unfold outstanding
      rw [queued]
      exact List.perm_middle.symm
    apply owned.shrink resolver _ []
    · exact perm
    · exact fun _ _ _ => Iff.rfl
    · exact fun _ member => absurd member List.not_mem_nil
    · intro closed
      have none := owned.closed closed
      rw [none] at perm
      exact perm.nil_eq.symm
  | finished event job channel ends member =>
    have perm : resolver.outstanding.Perm ([job] ++ (resolver.queue ++ resolver.running.erase job)) := by
      refine ((List.perm_cons_erase member).append_left resolver.queue).trans ?_
      exact List.perm_middle
    have inside : ∀ other ∈ [job], other ∈ resolver.outstanding := by
      intro other found
      rw [List.mem_singleton.mp found]
      exact List.mem_append_right _ member
    apply owned.shrink resolver _ [job]
    · exact perm
    · intro call host apart
      exact Eq.congr_left (resolver.settle_other [job] channel call apart)
    · intro other found
      exact resolver.settle_left owned [job] inside channel (ends.filled _ _ _) other found
    · intro closed
      have none := owned.closed closed
      rw [none] at perm
      exact absurd perm.nil_eq.symm (by simp)
  | exited =>
    apply owned.shrink resolver _ resolver.outstanding
    · change resolver.outstanding.Perm (resolver.outstanding ++ [])
      rw [List.append_nil]
    · intro call host apart
      exact Eq.congr_left (resolver.settle_other resolver.outstanding .dropped call apart)
    · intro job member
      exact resolver.settle_left owned resolver.outstanding (fun _ found => found) .dropped
        ReplyChannel.noConfusion job member
    · exact fun _ => rfl
  | received call host channel result was ready =>
    apply owned.advance resolver call
    · intro name same
      rw [was] at same
      cases Option.some.inj same
      cases ready
    · simp

/-- The event ends the job: its lookup, or the thread that holds it. -/
def EndsJob (resolver : SystemResolver) (job : ResolveJob) (channel : ReplyChannel) (event : ResolveEvent) : Prop :=
  (job ∈ resolver.running ∧ Ends job.reply channel event) ∨
    (job ∈ resolver.outstanding ∧ event = .exit ∧ channel = .dropped)

theorem Owned.same (resolver : SystemResolver) (owned : resolver.Owned) (job other : ResolveJob)
    (first : job ∈ resolver.outstanding) (second : other ∈ resolver.outstanding) (same : other.reply = job.reply) :
    other = job := by
  have waits := owned.waits resolver job first
  have again := owned.waits resolver other second
  rw [same,waits] at again
  injection again with stage
  injection stage with host
  cases job
  cases other
  cases same
  cases host
  rfl

/-- What a step does to one call. -/
inductive Changes (resolver : SystemResolver) (call : Nat) (event : ResolveEvent) : Option ResolveStage → Prop where
  | stays : Changes resolver call event (resolver.stage call)
  | sent (host : String) (begins : resolver.stage call = none) (sends : event = .send call host) :
      Changes resolver call event (some (.waiting host .empty))
  | refused (host : String) (begins : resolver.stage call = none) (sends : event = .send call host)
      (closed : resolver.receiving = false) :
      Changes resolver call event (some (.returned host (.error unavailableError)))
  | ended (host : String) (channel : ReplyChannel) (ends : resolver.EndsJob ⟨host,call⟩ channel event) :
      Changes resolver call event (some (.waiting host channel))
  | received (host : String) (channel : ReplyChannel) (result : ResolveAnswer)
      (was : resolver.stage call = some (.waiting host channel)) (ready : channel.result = some result) :
      Changes resolver call event (some (.returned host result))

theorem advance_changes (resolver : SystemResolver) (call other : Nat) (event : ResolveEvent) (stage : ResolveStage)
    (own : resolver.Changes call event (some stage)) :
    resolver.Changes other event ((resolver.advance call stage).stage other) := by
  by_cases same : other = call
  · rw [same,resolver.advance_stage]
    exact own
  · rw [resolver.advance_other call other stage same]
    exact Changes.stays

theorem settle_changes (resolver : SystemResolver) (owned : resolver.Owned) (jobs : List ResolveJob)
    (channel : ReplyChannel) (event : ResolveEvent) (call : Nat)
    (inside : ∀ job ∈ jobs, job ∈ resolver.outstanding)
    (ends : ∀ job ∈ jobs, resolver.EndsJob job channel event) :
    resolver.Changes call event ((resolver.settle jobs channel).stage call) := by
  by_cases member : call ∈ jobs.map ResolveJob.reply
  · obtain ⟨job,found,rfl⟩ := List.mem_map.mp member
    rw [resolver.settle_member jobs channel job found,owned.waits resolver job (inside job found)]
    exact Changes.ended job.host channel (ends job found)
  · rw [resolver.settle_other jobs channel call member]
    exact Changes.stays

theorem step_changes (event : ResolveEvent) (resolver : SystemResolver) (owned : resolver.Owned) (call : Nat) :
    resolver.Changes call event ((step event resolver).stage call) := by
  have moved := step_moves event resolver
  generalize step event resolver = next at moved
  cases moved with
  | none => exact Changes.stays
  | dispatched job rest queued => exact Changes.stays
  | sent other host begins serves =>
    exact resolver.advance_changes other call _ _ (Changes.sent host begins rfl)
  | refused other host begins closed =>
    exact resolver.advance_changes other call _ _ (Changes.refused host begins rfl closed)
  | received other host channel result was ready =>
    exact resolver.advance_changes other call _ _ (Changes.received host channel result was ready)
  | finished event job channel ends member =>
    apply resolver.settle_changes owned [job] channel event call
    · intro other found
      rw [List.mem_singleton.mp found]
      exact List.mem_append_right _ member
    · intro other found
      rw [List.mem_singleton.mp found]
      exact Or.inl ⟨member,ends⟩
  | exited =>
    apply resolver.settle_changes owned resolver.outstanding .dropped .exit call
    · exact fun _ found => found
    · exact fun _ found => Or.inr ⟨found,rfl,rfl⟩

theorem step_ends (event : ResolveEvent) (resolver : SystemResolver) (owned : resolver.Owned) (job : ResolveJob)
    (channel : ReplyChannel) (ends : resolver.EndsJob job channel event) :
    (step event resolver).stage job.reply = some (.waiting job.host channel) := by
  have settles : ∀ jobs, job ∈ jobs → job ∈ resolver.outstanding →
      (resolver.settle jobs channel).stage job.reply = some (.waiting job.host channel) := by
    intro jobs inside member
    rw [resolver.settle_member jobs channel job inside,owned.waits resolver job member]
    rfl
  obtain ⟨member,how⟩ | ⟨member,rfl,rfl⟩ := ends
  · have held : job ∈ resolver.outstanding := List.mem_append_right _ member
    have whole : step event resolver = resolver.finish job.reply channel := by
      obtain ⟨answer,rfl,rfl⟩ | ⟨rfl,rfl⟩ := how
      · rfl
      · rfl
    rw [whole,finish]
    cases found : resolver.running.find? (fun other => other.reply == job.reply) with
    | none =>
      have absent := List.find?_eq_none.mp found job member
      simp at absent
    | some other =>
      have reply : other.reply = job.reply := by simpa using List.find?_some found
      have second : other ∈ resolver.outstanding := List.mem_append_right _ (List.mem_of_find?_eq_some found)
      rw [owned.same resolver job other held second reply]
      exact settles [job] (List.mem_singleton_self job) held
  · exact settles resolver.outstanding member member

section history

variable (start : SystemResolver) (call : Nat) (host : String)

def Asked : List ResolveEvent → Prop :=
  Happened fun before event => event = .send call host ∧ (run before start).stage call = none

def Refused : List ResolveEvent → Prop :=
  Happened fun before event => event = .send call host ∧ (run before start).stage call = none ∧
    (run before start).receiving = false

/-- The job of the call came to an end that left the channel so. -/
def Ended (channel : ReplyChannel) : List ResolveEvent → Prop :=
  Happened fun before event => (run before start).EndsJob ⟨host,call⟩ channel event

/-- What the stage of a call tells of the events before it. -/
def Tells (events : List ResolveEvent) : ResolveStage → Prop
  | .waiting host channel => Asked start call host events ∧ (channel = .empty ∨ Ended start call host channel events)
  | .returned host result => Asked start call host events ∧
    ((∃ channel, channel.result = some result ∧ Ended start call host channel events) ∨
      (result = .error unavailableError ∧ Refused start call host events))

theorem Tells.append (events later : List ResolveEvent) (stage : ResolveStage)
    (before : Tells start call events stage) : Tells start call (events ++ later) stage := by
  cases stage with
  | waiting host channel =>
    exact before.imp (Happened.append _ _ _) (Or.imp_right (Happened.append _ _ _))
  | returned host result =>
    obtain ⟨asked,⟨channel,ready,ended⟩ | ⟨same,refused⟩⟩ := before
    · exact ⟨Happened.append _ _ _ asked,Or.inl ⟨channel,ready,Happened.append _ _ _ ended⟩⟩
    · exact ⟨Happened.append _ _ _ asked,Or.inr ⟨same,Happened.append _ _ _ refused⟩⟩

end history

structure Traced (start : SystemResolver) (events : List ResolveEvent) (resolver : SystemResolver) : Prop where
  owned : resolver.Owned
  told : ∀ call stage, resolver.stage call = some stage → Tells start call events stage
  kept : ∀ call host channel, Ended start call host channel events →
    resolver.stage call = some (.waiting host channel) ∨
      ∃ result, channel.result = some result ∧ resolver.stage call = some (.returned host result)

theorem changes_told (start resolver : SystemResolver) (events : List ResolveEvent) (event : ResolveEvent)
    (same : run events start = resolver) (traced : Traced start events resolver) (call : Nat)
    (next : Option ResolveStage) (changes : resolver.Changes call event next) (stage : ResolveStage)
    (now : next = some stage) : Tells start call (events ++ [event]) stage := by
  cases changes with
  | stays => exact (traced.told call stage now).append start call events [event] stage
  | sent host begins sends =>
    cases now
    refine ⟨Happened.last _ _ _ ⟨sends,?_⟩,Or.inl rfl⟩
    rw [same]
    exact begins
  | refused host begins sends closed =>
    cases now
    rw [← same] at begins closed
    exact ⟨Happened.last _ _ _ ⟨sends,begins⟩,Or.inr ⟨rfl,Happened.last _ _ _ ⟨sends,begins,closed⟩⟩⟩
  | ended host channel ends =>
    cases now
    have member : ResolveJob.mk host call ∈ resolver.outstanding := by
      obtain ⟨member,_⟩ | ⟨member,_⟩ := ends
      · exact List.mem_append_right _ member
      · exact member
    have asked := (traced.told call _ (traced.owned.waits resolver _ member)).1
    refine ⟨Happened.append _ _ _ asked,Or.inr (Happened.last _ _ _ ?_)⟩
    rw [same]
    exact ends
  | received host channel result was ready =>
    cases now
    obtain ⟨asked,waits | ended⟩ := traced.told call _ was
    · rw [waits] at ready
      cases ready
    · exact ⟨Happened.append _ _ _ asked,Or.inl ⟨channel,ready,Happened.append _ _ _ ended⟩⟩

theorem changes_kept (resolver : SystemResolver) (owned : resolver.Owned) (event : ResolveEvent) (call : Nat)
    (host : String) (channel : ReplyChannel) (filled : channel ≠ .empty) (next : Option ResolveStage)
    (changes : resolver.Changes call event next)
    (before : resolver.stage call = some (.waiting host channel) ∨
      ∃ result, channel.result = some result ∧ resolver.stage call = some (.returned host result)) :
    next = some (.waiting host channel) ∨
      ∃ result, channel.result = some result ∧ next = some (.returned host result) := by
  have begun : resolver.stage call ≠ none := by
    obtain was | ⟨result,_,was⟩ := before
    · simp [was]
    · simp [was]
  cases changes with
  | stays => exact before
  | sent other begins sends => exact absurd begins begun
  | refused other begins sends closed => exact absurd begins begun
  | ended other found ends =>
    have member : ResolveJob.mk other call ∈ resolver.outstanding := by
      obtain ⟨member,_⟩ | ⟨member,_⟩ := ends
      · exact List.mem_append_right _ member
      · exact member
    have waits := owned.waits resolver _ member
    obtain was | ⟨result,_,was⟩ := before
    · rw [was] at waits
      cases waits
      exact absurd rfl filled
    · rw [was] at waits
      cases waits
  | received other found result was ready =>
    obtain held | ⟨answer,_,held⟩ := before
    · rw [was] at held
      cases held
      exact Or.inr ⟨result,ready,rfl⟩
    · rw [was] at held
      cases held

theorem endsJob_filled (resolver : SystemResolver) (job : ResolveJob) (channel : ReplyChannel) (event : ResolveEvent)
    (ends : resolver.EndsJob job channel event) : channel ≠ .empty := by
  obtain ⟨_,ends⟩ | ⟨_,_,same⟩ := ends
  · exact ends.filled _ _ _
  · rw [same]
    exact ReplyChannel.noConfusion

theorem step_traced (start : SystemResolver) (events : List ResolveEvent) (event : ResolveEvent)
    (traced : Traced start events (run events start)) :
    Traced start (events ++ [event]) (step event (run events start)) := by
  refine ⟨step_owned event _ traced.owned,?_,?_⟩
  · intro call stage now
    exact changes_told start _ events event rfl traced call _ (step_changes event _ traced.owned call) stage now
  · intro call host channel ended
    obtain earlier | ends := (Happened.last_iff _ events event).mp ended
    · have filled : channel ≠ .empty := by
        obtain ⟨before,other,_,_,ends⟩ := earlier
        exact endsJob_filled _ _ _ _ ends
      exact changes_kept _ traced.owned event call host channel filled _ (step_changes event _ traced.owned call)
        (traced.kept call host channel earlier)
    · exact Or.inl (step_ends event _ traced.owned _ channel ends)

theorem run_traced (thread : ResolverThread) (start : SystemResolver) (made : new thread = .ok start)
    (events : List ResolveEvent) : Traced start events (run events start) := by
  obtain ⟨fresh,owned⟩ := new_owned start thread made
  apply History.run_keeps step start (Traced start)
  · refine ⟨owned,?_,?_⟩
    · intro call stage was
      rw [fresh] at was
      cases was
    · intro call host channel ended
      obtain ⟨before,event,after,same,_⟩ := ended
      simp at same
  · exact step_traced start

/-- In whatever order the calls, the dispatch loop and the lookups take their steps, a call returns for the
host it asked for, and returns what its own job came to: the answer of the one lookup that was spawned
for this call and this host, the error of a sender that was dropped under it, or the error of a thread
that was gone before the call was made. -/
theorem call_returns_own_lookup (thread : ResolverThread) (start : SystemResolver) (made : new thread = .ok start)
    (events : List ResolveEvent) (call : Nat) (host : String) (result : ResolveAnswer)
    (returned : (run events start).stage call = some (.returned host result)) :
    start.Asked call host events ∧
      ((∃ channel, channel.result = some result ∧ start.Ended call host channel events ∧
        ∀ other found, start.Ended call other found events → other = host ∧ found.result = some result) ∨
      (result = .error unavailableError ∧ start.Refused call host events)) := by
  have traced := run_traced thread start made events
  obtain ⟨asked,⟨channel,ready,ended⟩ | refused⟩ := traced.told call _ returned
  · refine ⟨asked,Or.inl ⟨channel,ready,ended,?_⟩⟩
    intro other found again
    obtain was | ⟨answer,same,was⟩ := traced.kept call other found again
    · rw [returned] at was
      cases was
    · rw [returned] at was
      cases was
      exact ⟨rfl,same⟩
  · exact ⟨asked,Or.inr refused⟩

/-- A call that nothing interrupts gets the answer of its lookup from an idle thread and the error from
one that is gone; the calls and lookups under way stay as they are. -/
theorem uninterrupted (resolver : SystemResolver) (owned : resolver.Owned) (call : Nat) (host : String)
    (answer : ResolveAnswer) (begins : resolver.stage call = none) (idle : resolver.queue = []) :
    run [.send call host,.dispatch,.answer call answer,.receive call] resolver =
      resolver.advance call (.returned host (if resolver.receiving then answer else .error unavailableError)) := by
  cases serves : resolver.receiving with
  | false =>
    obtain ⟨_,none⟩ := List.append_eq_nil_iff.mp (owned.closed serves)
    have refused : step (.send call host) resolver =
        resolver.advance call (.returned host (.error unavailableError)) := by
      simp only [step,begins,serves]
      rfl
    simp only [run,History.run,refused]
    simp [step,finish,advance,idle,none]
  | true =>
    have sent : step (.send call host) resolver =
        {resolver.advance call (.waiting host .empty) with queue := [⟨host,call⟩]} := by
      simp only [step,begins,serves,if_true,idle]
      rfl
    simp only [run,History.run,sent]
    simp only [step,advance,finish,List.find?_cons,beq_self_eq_true,settle,List.map_cons,List.map_nil,
      List.mem_singleton,if_true,Function.update_self,Option.map_some,ResolveStage.settled,
      ReplyChannel.result,List.erase_cons_head,SystemResolver.mk.injEq,idle]
    refine ⟨trivial,trivial,trivial,?_⟩
    funext other
    by_cases same : other = call
    · rw [same,Function.update_self,Function.update_self]
    · rw [Function.update_of_ne same,Function.update_of_ne same,if_neg same,Function.update_of_ne same]

def sampleThread : ResolverThread := ⟨.ok (),true,.ok (),.error "no resolv.conf",.ok ()⟩

def sampleResolver : SystemResolver := ⟨true,[],[],fun _ => none⟩

/-- Two lookups end in the other order than their calls were made. -/
def sampleResolution : List ResolveEvent :=
  [.send 0 "slow.example",.send 1 "fast.example",.dispatch,.dispatch,.answer 1 (.error "DNS lookup failed: refused"),
    .receive 1]

theorem call_returns_own_lookup_sample :
    sampleResolver.Asked 1 "fast.example" sampleResolution ∧
      ((∃ channel, channel.result = some (.error "DNS lookup failed: refused") ∧
        sampleResolver.Ended 1 "fast.example" channel sampleResolution ∧
        ∀ other found, sampleResolver.Ended 1 other found sampleResolution →
          other = "fast.example" ∧ found.result = some (.error "DNS lookup failed: refused")) ∨
      (.error "DNS lookup failed: refused" = (.error unavailableError : ResolveAnswer) ∧
        sampleResolver.Refused 1 "fast.example" sampleResolution)) :=
  call_returns_own_lookup sampleThread sampleResolver rfl sampleResolution 1 "fast.example"
    (.error "DNS lookup failed: refused") rfl

end SystemResolver

end SolidOidcVerifier
