import Mathlib

/-! What happened in a run: an event of its list, together with the events before it, and what the events
after it left as it was. -/
namespace Foundation

variable {O σ : Type}

/-- Some event of the list was such, after the events before it. -/
def Happened (what : List O → O → Prop) (events : List O) : Prop :=
  ∃ before event after, events = before ++ event :: after ∧ what before event

namespace Happened

variable (what : List O → O → Prop)

theorem last (events : List O) (event : O) (such : what events event) : Happened what (events ++ [event]) :=
  ⟨events,event,[],rfl,such⟩

theorem append (events later : List O) (did : Happened what events) : Happened what (events ++ later) := by
  obtain ⟨before,event,after,same,such⟩ := did
  refine ⟨before,event,after ++ later,?_,such⟩
  rw [same,List.append_assoc,List.cons_append]

/-- What happened in two parts of a history did so in one of them. -/
theorem split (events later : List O) (did : Happened what (events ++ later)) :
    Happened what events ∨ ∃ mid event rest, later = mid ++ event :: rest ∧ what (events ++ mid) event := by
  obtain ⟨before,event,after,same,such⟩ := did
  obtain ⟨mid,reached,left⟩ | ⟨mid,reached,left⟩ := List.append_eq_append_iff.mp same
  · right
    rw [reached] at such
    exact ⟨mid,event,after,left,such⟩
  · cases mid with
    | nil =>
      right
      refine ⟨[],event,after,left.symm,?_⟩
      rw [reached,List.append_nil,List.append_nil]
      exact such
    | cons first rest =>
      left
      obtain ⟨same,_⟩ := List.cons.inj left
      exact ⟨before,event,rest,by rw [reached,same],such⟩

theorem last_iff (events : List O) (event : O) :
    Happened what (events ++ [event]) ↔ Happened what events ∨ what events event := by
  constructor
  · intro did
    obtain earlier | ⟨mid,other,rest,same,such⟩ := split what events [event] did
    · exact Or.inl earlier
    · cases mid with
      | nil =>
        cases same
        rw [List.append_nil] at such
        exact Or.inr such
      | cons first rest => simp at same
  · intro did
    obtain earlier | such := did
    · exact append what events [event] earlier
    · exact last what events event such

end Happened

/-- Some event of the list was such, and every event after it kept to what was to be kept. -/
def Since (kept what : List O → O → Prop) (events : List O) : Prop :=
  ∃ before event after, events = before ++ event :: after ∧ what before event ∧
    ∀ mid other rest, after = mid ++ other :: rest → kept (before ++ event :: mid) other

namespace Since

variable (kept what other : List O → O → Prop)

theorem happened (events : List O) (since : Since kept what events) : Happened what events := by
  obtain ⟨before,event,after,same,such,_⟩ := since
  exact ⟨before,event,after,same,such⟩

theorem last_iff (events : List O) (event : O) :
    Since kept what (events ++ [event]) ↔ what events event ∨ Since kept what events ∧ kept events event := by
  constructor
  · intro since
    obtain ⟨before,first,after,same,such,keeps⟩ := since
    induction after using List.reverseRecOn with
    | nil =>
      obtain ⟨reached,last⟩ := List.append_inj' same rfl
      cases last
      rw [reached]
      exact Or.inl such
    | append_singleton after latest _ =>
      have joined : events ++ [event] = (before ++ first :: after) ++ [latest] := by
        rw [same,List.append_assoc,List.cons_append]
      obtain ⟨reached,last⟩ := List.append_inj' joined rfl
      cases last
      right
      refine ⟨⟨before,first,after,reached,such,?_⟩,?_⟩
      · intro mid between rest split
        apply keeps mid between (rest ++ [event])
        rw [split,List.append_assoc,List.cons_append]
      · rw [reached]
        exact keeps after event [] rfl
  · intro since
    obtain such | ⟨⟨before,first,after,same,such,keeps⟩,keep⟩ := since
    · refine ⟨events,event,[],rfl,such,?_⟩
      intro mid between rest split
      simp at split
    · refine ⟨before,first,after ++ [event],?_,such,?_⟩
      · rw [same,List.append_assoc,List.cons_append]
      · intro mid between rest split
        induction rest using List.reverseRecOn with
        | nil =>
          obtain ⟨reached,last⟩ := List.append_inj' split rfl
          cases last
          rw [← reached,← same]
          exact keep
        | append_singleton rest latest _ =>
          have joined : after ++ [event] = (mid ++ between :: rest) ++ [latest] := by
            rw [split,List.append_assoc,List.cons_append]
          exact keeps mid between rest (List.append_inj' joined rfl).1

theorem not_nil : ¬Since kept what [] := by
  intro since
  obtain ⟨before,event,after,same,_⟩ := since
  simp at same

/-- Two such events that both end what was kept are one event. -/
theorem meet (conclusion : Prop) (ends : ∀ before event, what before event → ¬kept before event)
    (others : ∀ before event, other before event → ¬kept before event)
    (same : ∀ before event, what before event → other before event → conclusion) (events : List O) :
    Since kept what events → Since kept other events → conclusion := by
  induction events using List.reverseRecOn with
  | nil =>
    intro since
    exact absurd since (not_nil kept what)
  | append_singleton events event ih =>
    intro since second
    obtain such | ⟨earlier,keep⟩ := (last_iff kept what events event).mp since
    · obtain met | ⟨_,keep⟩ := (last_iff kept other events event).mp second
      · exact same events event such met
      · exact absurd keep (ends events event such)
    · obtain met | ⟨before,_⟩ := (last_iff kept other events event).mp second
      · exact absurd keep (others events event met)
      · exact ih earlier before

end Since

namespace History

def run (step : O → σ → σ) : List O → σ → σ
  | [],state => state
  | event :: rest,state => run step rest (step event state)

theorem run_append (step : O → σ → σ) (before after : List O) :
    ∀ state, run step (before ++ after) state = run step after (run step before state) := by
  induction before with
  | nil => intro state; rfl
  | cons event rest ih =>
    intro state
    exact ih (step event state)

theorem run_last (step : O → σ → σ) (events : List O) (event : O) (state : σ) :
    run step (events ++ [event]) state = step event (run step events state) :=
  run_append step events [event] state

/-- A relation between the events so far and the state they lead to, kept by every event. -/
theorem run_keeps (step : O → σ → σ) (start : σ) (keeps : List O → σ → Prop) (initial : keeps [] start)
    (one : ∀ events event, keeps events (run step events start) →
      keeps (events ++ [event]) (step event (run step events start)))
    (events : List O) : keeps events (run step events start) := by
  induction events using List.reverseRecOn with
  | nil => exact initial
  | append_singleton events event ih =>
    rw [run_last]
    exact one events event ih

/-- What no event changes stays as it is. -/
theorem run_stays (step : O → σ → σ) (stays : σ → Prop) (one : ∀ event state, stays state → stays (step event state))
    (events : List O) : ∀ state, stays state → stays (run step events state) := by
  induction events with
  | nil => intro state holds; exact holds
  | cons event rest ih =>
    intro state holds
    exact ih (step event state) (one event state holds)

section parts

variable {P τ : Type}

/-- The events of one part of a machine along a run of the whole. -/
def projection (step : O → σ → σ) (project : O → σ → List P) : List O → σ → List P
  | [],_ => []
  | event :: rest,state => project event state ++ projection step project rest (step event state)

theorem projection_append (step : O → σ → σ) (project : O → σ → List P) (before after : List O) :
    ∀ state, projection step project (before ++ after) state =
      projection step project before state ++ projection step project after (run step before state) := by
  induction before with
  | nil => intro state; rfl
  | cons first rest ih =>
    intro state
    rw [List.cons_append,projection,ih,projection,List.append_assoc]
    rfl

theorem projection_last (step : O → σ → σ) (project : O → σ → List P) (events : List O) (event : O) (state : σ) :
    projection step project (events ++ [event]) state =
      projection step project events state ++ project event (run step events state) := by
  rw [projection_append,projection,projection,List.append_nil]

/-- Where each event of the whole moves a part by events of its own, so does a run. -/
theorem run_projects (step : O → σ → σ) (part : P → τ → τ) (view : σ → τ) (project : O → σ → List P)
    (one : ∀ event state, view (step event state) = run part (project event state) (view state)) (events : List O) :
    ∀ state, view (run step events state) = run part (projection step project events state) (view state) := by
  induction events with
  | nil => intro state; rfl
  | cons event rest ih =>
    intro state
    rw [projection,run_append,← one]
    exact ih (step event state)

end parts

end History

end Foundation
