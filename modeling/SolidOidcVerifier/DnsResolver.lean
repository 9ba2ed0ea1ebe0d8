import SolidOidcVerifier.Foundation.Endless
import SolidOidcVerifier.Net

/-! The system resolver. Its callers send jobs to one thread, which spawns each lookup and lets it
reply on the channel of its job; between the steps of a call any other call or lookup may take its own. -/
namespace SolidOidcVerifier
open Foundation

abbrev ResolveAnswer : Type := Except String (List IpAddr)

/-- `reply` is the call that holds the receiver of the reply channel. -/
structure ResolveJob where
  host : String
  reply : Nat
deriving DecidableEq,Repr

/-- A reply channel as its receiver finds it: its sender is lost with no message once it is dropped. -/
inductive ReplyChannel where
  | empty
  | sent (answer : ResolveAnswer)
  | dropped

inductive ResolveStage where
  | waiting (host : String) (channel : ReplyChannel)
  | returned (host : String) (result : ResolveAnswer)

/-- `receiving` is whether the thread still holds the receiver of the job channel, `running` are the
spawned lookups; `stage` is empty for a call that has not begun. -/
structure SystemResolver where
  receiving : Bool
  queue : List ResolveJob
  running : List ResolveJob
  stage : Nat → Option ResolveStage

/-- `answer` and `abort` end the lookup of a call, `abort` by a panic of its task; `exit` is a panic of
the dispatch loop, which ends the thread and its runtime. -/
inductive ResolveEvent where
  | send (call : Nat) (host : String)
  | dispatch
  | answer (call : Nat) (answer : ResolveAnswer)
  | abort (call : Nat)
  | exit
  | receive (call : Nat)

def unavailableError : String := "DNS resolver thread is not available."

def droppedError : String := "DNS resolver thread dropped the request."

/-- What the construction of the thread's runtime and of the two resolvers it tries may come to. A thread that panics
on the way never reports. -/
structure ResolverThread where
  spawn : Except String Unit
  reports : Bool
  runtime : Except String Unit
  systemConf : Except String Unit
  fallback : Except String Unit

/-- What the thread reports before it serves jobs. The system configuration has a fallback. -/
def ResolverThread.init (thread : ResolverThread) : Except String Unit := do
  thread.runtime.mapError ("DNS runtime init failed: " ++ ·)
  match thread.systemConf with
  | .ok _ => .ok ()
  | .error _ => thread.fallback.mapError ("DNS resolver init failed: " ++ ·)

namespace ResolveStage

/-- A message, or the end of the sender, reaches a receiver that still waits. -/
def settled (channel : ReplyChannel) : ResolveStage → ResolveStage
  | .waiting host .empty => .waiting host channel
  | stage => stage

end ResolveStage

def ReplyChannel.result : ReplyChannel → Option ResolveAnswer
  | .empty => none
  | .sent answer => some answer
  | .dropped => some (.error droppedError)

namespace SystemResolver

def new (thread : ResolverThread) : Except String SystemResolver := do
  thread.spawn.mapError ("DNS resolver thread spawn failed: " ++ ·)
  ensure thread.reports "DNS resolver thread exited before initialising."
  thread.init
  return ⟨true,[],[],fun _ => none⟩

def outstanding (resolver : SystemResolver) : List ResolveJob := resolver.queue ++ resolver.running

def advance (resolver : SystemResolver) (call : Nat) (stage : ResolveStage) : SystemResolver :=
  {resolver with stage := Function.update resolver.stage call (some stage)}

/-- The senders of the jobs end, each with a message or without one. -/
def settle (resolver : SystemResolver) (jobs : List ResolveJob) (channel : ReplyChannel) : SystemResolver :=
  {resolver with stage := fun call =>
    if call ∈ jobs.map ResolveJob.reply then (resolver.stage call).map (.settled channel)
    else resolver.stage call}

/-- The spawned task of the call's job ends. -/
def finish (resolver : SystemResolver) (call : Nat) (channel : ReplyChannel) : SystemResolver :=
  match resolver.running.find? (fun job => job.reply == call) with
  | some job => {resolver.settle [job] channel with running := resolver.running.erase job}
  | none => resolver

/-- A step that cannot be taken now changes nothing. -/
def step (event : ResolveEvent) (resolver : SystemResolver) : SystemResolver :=
  match event with
  | .send call host =>
    match resolver.stage call with
    | some _ => resolver
    | none =>
      if resolver.receiving then
        {resolver.advance call (.waiting host .empty) with queue := resolver.queue ++ [⟨host,call⟩]}
      else resolver.advance call (.returned host (.error unavailableError))
  | .dispatch =>
    match resolver.queue with
    | [] => resolver
    | job :: rest => {resolver with queue := rest,running := job :: resolver.running}
  | .answer call answer => resolver.finish call (.sent answer)
  | .abort call => resolver.finish call .dropped
  | .exit => {resolver.settle resolver.outstanding .dropped with receiving := false,queue := [],running := []}
  | .receive call =>
    match resolver.stage call with
    | some (.waiting host channel) =>
      match channel.result with
      | some result => resolver.advance call (.returned host result)
      | none => resolver
    | _ => resolver

def run (events : List ResolveEvent) (start : SystemResolver) : SystemResolver := History.run step events start

/-- How an event ends the lookup of a call. -/
def Ends (call : Nat) (channel : ReplyChannel) (event : ResolveEvent) : Prop :=
  (∃ answer, event = .answer call answer ∧ channel = .sent answer) ∨ (event = .abort call ∧ channel = .dropped)

/-- What a step can do. -/
inductive Moves (resolver : SystemResolver) : ResolveEvent → SystemResolver → Prop where
  | none (event : ResolveEvent) : Moves resolver event resolver
  | sent (call : Nat) (host : String) (begins : resolver.stage call = Option.none)
      (serves : resolver.receiving = true) :
      Moves resolver (.send call host)
        {resolver.advance call (.waiting host .empty) with queue := resolver.queue ++ [⟨host,call⟩]}
  | refused (call : Nat) (host : String) (begins : resolver.stage call = Option.none)
      (closed : resolver.receiving = false) :
      Moves resolver (.send call host) (resolver.advance call (.returned host (.error unavailableError)))
  | dispatched (job : ResolveJob) (rest : List ResolveJob) (queued : resolver.queue = job :: rest) :
      Moves resolver .dispatch {resolver with queue := rest,running := job :: resolver.running}
  | finished (event : ResolveEvent) (job : ResolveJob) (channel : ReplyChannel)
      (ends : Ends job.reply channel event) (member : job ∈ resolver.running) :
      Moves resolver event {resolver.settle [job] channel with running := resolver.running.erase job}
  | exited : Moves resolver .exit
      {resolver.settle resolver.outstanding .dropped with receiving := false,queue := [],running := []}
  | received (call : Nat) (host : String) (channel : ReplyChannel) (result : ResolveAnswer)
      (was : resolver.stage call = some (.waiting host channel)) (ready : channel.result = some result) :
      Moves resolver (.receive call) (resolver.advance call (.returned host result))

theorem finish_moves (resolver : SystemResolver) (event : ResolveEvent) (call : Nat) (channel : ReplyChannel)
    (ends : Ends call channel event) : Moves resolver event (resolver.finish call channel) := by
  unfold finish
  cases found : resolver.running.find? (fun job => job.reply == call) with
  | none => exact Moves.none event
  | some job =>
    have same : job.reply = call := by simpa using List.find?_some found
    rw [← same] at ends
    exact Moves.finished event job channel ends (List.mem_of_find?_eq_some found)

theorem step_moves (event : ResolveEvent) (resolver : SystemResolver) :
    Moves resolver event (step event resolver) := by
  cases event with
  | send call host =>
    cases begins : resolver.stage call with
    | some stage =>
      simp only [step,begins]
      exact Moves.none _
    | none =>
      simp only [step,begins]
      cases serves : resolver.receiving with
      | true => exact Moves.sent call host begins serves
      | false => exact Moves.refused call host begins serves
  | dispatch =>
    cases queued : resolver.queue with
    | nil =>
      simp only [step,queued]
      exact Moves.none _
    | cons job rest =>
      simp only [step,queued]
      exact Moves.dispatched job rest queued
  | answer call answer => exact finish_moves resolver _ call _ (Or.inl ⟨answer,rfl,rfl⟩)
  | abort call => exact finish_moves resolver _ call _ (Or.inr ⟨rfl,rfl⟩)
  | exit => exact Moves.exited
  | receive call =>
    cases was : resolver.stage call with
    | none =>
      simp only [step,was]
      exact Moves.none _
    | some stage =>
      cases stage with
      | returned host result =>
        simp only [step,was]
        exact Moves.none _
      | waiting host channel =>
        simp only [step,was]
        cases ready : channel.result with
        | none => exact Moves.none _
        | some result => exact Moves.received call host channel result was ready

end SystemResolver

end SolidOidcVerifier
