import Mathlib

/-! Runs of deterministic machines that answer every operation, and the simulation of one machine
by another along a clock that never goes back. -/
namespace Foundation.Mealy

variable {O A σ τ T : Type}

def run (step : O → σ → A × σ) : List O → σ → List A × σ
  | [],state => ([],state)
  | op :: rest,state =>
    let (answer,next) := step op state
    let (answers,last) := run step rest next
    (answer :: answers,last)

theorem run_cons (step : O → σ → A × σ) (op : O) (rest : List O) (state : σ) :
    run step (op :: rest) state =
      ((step op state).1 :: (run step rest (step op state).2).1,(run step rest (step op state).2).2) := rfl

theorem run_append (step : O → σ → A × σ) (first second : List O) :
    ∀ state : σ, run step (first ++ second) state =
      ((run step first state).1 ++ (run step second (run step first state).2).1,
        (run step second (run step first state).2).2) := by
  induction first with
  | nil => intro state; rfl
  | cons op rest ih =>
    intro state
    rw [List.cons_append,run_cons,ih,run_cons]
    rfl

theorem run_last (step : O → σ → A × σ) (ops : List O) (op : O) (state : σ) :
    run step (ops ++ [op]) state =
      ((run step ops state).1 ++ [(step op (run step ops state).2).1],(step op (run step ops state).2).2) :=
  run_append step ops [op] state

theorem run_length (step : O → σ → A × σ) (ops : List O) :
    ∀ state : σ, (run step ops state).1.length = ops.length := by
  induction ops with
  | nil => intro state; rfl
  | cons first rest ih =>
    intro state
    rw [run_cons,List.length_cons,List.length_cons,ih]

theorem run_map {P : Type} (step : O → σ → A × σ) (read : P → O) (ops : List P) :
    ∀ state : σ, run (fun op => step (read op)) ops state = run step (ops.map read) state := by
  induction ops with
  | nil => intro state; rfl
  | cons op rest ih =>
    intro state
    rw [List.map_cons,run_cons,run_cons,ih]

/-- An answer of a run is the one its operation gets after the operations before it. -/
theorem answer_at (step : O → σ → A × σ) (ops : List O) (answer : A) :
    ∀ (i : Nat) (state : σ), (run step ops state).1[i]? = some answer →
      ∃ op, ops[i]? = some op ∧ answer = (step op (run step (ops.take i) state).2).1 := by
  induction ops with
  | nil => intro i state found; simp [run] at found
  | cons op rest ih =>
    intro i state found
    rw [run_cons] at found
    cases i with
    | zero => exact ⟨op,rfl,(Option.some.inj found).symm⟩
    | succ i =>
      obtain ⟨other,entered,answered⟩ := ih i (step op state).2 found
      exact ⟨other,entered,answered⟩

/-- What every allowed operation keeps holds at the end of a run of allowed operations. -/
theorem run_keeps (step : O → σ → A × σ) (keeps : σ → Prop) (allowed : O → Prop)
    (one : ∀ op state, allowed op → keeps state → keeps (step op state).2) (ops : List O) :
    ∀ state : σ, (∀ op ∈ ops, allowed op) → keeps state → keeps (run step ops state).2 := by
  induction ops with
  | nil => intro state _ start; exact start
  | cons op rest ih =>
    intro state each start
    rw [run_cons]
    apply ih
    · intro other member
      exact each other (List.mem_cons_of_mem op member)
    · exact one op state (each op List.mem_cons_self) start

variable [Preorder T]

/-- Two machines whose states stay related as the clock advances, and that answer alike in related
states, answer alike in a run whose clock never goes back. -/
theorem run_simulates (left : O → σ → A × σ) (right : O → τ → A × τ) (clock : O → T)
    (related : T → σ → τ → Prop) (allowed : O → Prop)
    (later : ∀ before now s t, before ≤ now → related before s t → related now s t)
    (one : ∀ op s t, allowed op → related (clock op) s t →
      (left op s).1 = (right op t).1 ∧ related (clock op) (left op s).2 (right op t).2)
    (ops : List O) :
    ∀ (start : T) (s : σ) (t : τ), (∀ op ∈ ops, start ≤ clock op) →
      ops.Pairwise (fun first second => clock first ≤ clock second) → (∀ op ∈ ops, allowed op) →
      related start s t → (run left ops s).1 = (run right ops t).1 ∧
        ∀ finish, start ≤ finish → (∀ op ∈ ops, clock op ≤ finish) →
          related finish (run left ops s).2 (run right ops t).2 := by
  induction ops with
  | nil =>
    intro start s t _ _ _ initial
    refine ⟨rfl,?_⟩
    intro finish order _
    exact later start finish s t order initial
  | cons op rest ih =>
    intro start s t ahead ordered each initial
    have reached := later start (clock op) s t (ahead op List.mem_cons_self) initial
    obtain ⟨answer,next⟩ := one op s t (each op List.mem_cons_self) reached
    obtain ⟨fromHere,tail⟩ := List.pairwise_cons.mp ordered
    have remaining : ∀ other ∈ rest, allowed other := by
      intro other member
      exact each other (List.mem_cons_of_mem op member)
    obtain ⟨answers,last⟩ := ih (clock op) _ _ fromHere tail remaining next
    rw [run_cons,run_cons]
    refine ⟨by rw [answer,answers],?_⟩
    intro finish _ bound
    apply last finish (bound op List.mem_cons_self)
    intro other member
    exact bound other (List.mem_cons_of_mem op member)

end Foundation.Mealy
