import Mathlib

/-! Sequential programs over a state. A program ends with a value, rejects with an error or
panics; in all three cases the changes it made to the state stay. -/
namespace Foundation

inductive Stop (ε : Type) where
  | rejected (error : ε)
  | panicked
deriving DecidableEq,Repr

def Stop.map {ε δ : Type} (change : ε → δ) : Stop ε → Stop δ
  | .rejected error => .rejected (change error)
  | .panicked => .panicked

def Exec (σ ε α : Type) : Type := σ → Except (Stop ε) α × σ

/-- Reject with the error unless the condition holds. -/
def ensure {ε : Type} (condition : Prop) [Decidable condition] (error : ε) : Except ε Unit :=
  if condition then .ok () else .error error

/-- The value of an optional result, or the error. -/
def orError {ε α : Type} (value : Option α) (error : ε) : Except ε α :=
  match value with
  | some value => .ok value
  | none => .error error

namespace Except

variable {ε α β : Type}

theorem bind_ok (first : Except ε α) (next : α → Except ε β) (result : β) :
    (first >>= next) = .ok result ↔ ∃ value, first = .ok value ∧ next value = .ok result := by
  cases first with
  | error error => simp [bind,Except.bind]
  | ok value => simp [bind,Except.bind]

theorem bind_error (first : Except ε α) (next : α → Except ε β) (error : ε) :
    (first >>= next) = .error error ↔
      first = .error error ∨ ∃ value, first = .ok value ∧ next value = .error error := by
  cases first with
  | error error => simp [bind,Except.bind]
  | ok value => simp [bind,Except.bind]

theorem ensure_ok (condition : Prop) [Decidable condition] (error : ε) (value : Unit) :
    ensure condition error = .ok value ↔ condition := by
  unfold ensure
  split <;> simp_all

theorem ensure_error (condition : Prop) [Decidable condition] (error found : ε) :
    ensure condition error = .error found ↔ ¬condition ∧ error = found := by
  unfold ensure
  split <;> simp_all

theorem orError_ok (value : Option α) (error : ε) (result : α) :
    orError value error = .ok result ↔ value = some result := by
  cases value <;> simp [orError]

theorem orError_error (value : Option α) (error found : ε) :
    orError value error = .error found ↔ value = none ∧ error = found := by
  cases value <;> simp [orError]

theorem mapError_ok {δ : Type} (change : ε → δ) (result : Except ε α) (value : α) :
    result.mapError change = .ok value ↔ result = .ok value := by
  cases result <;> simp [Except.mapError]

end Except

namespace Exec

variable {σ ε α β : Type}

instance : Monad (Exec σ ε) where
  pure value := fun state => (.ok value,state)
  bind first next := fun state =>
    match first state with
    | (.ok value,after) => next value after
    | (.error stop,after) => (.error stop,after)

/-- A computation that may reject or panic and leaves the state alone. -/
def checked (result : Except (Stop ε) α) : Exec σ ε α := fun state => (result,state)

/-- A computation that may reject and leaves the state alone. -/
def lift (result : Except ε α) : Exec σ ε α := checked (result.mapError .rejected)

def mapReject {δ : Type} (change : ε → δ) (run : Exec σ ε α) : Exec σ δ α := fun state =>
  ((run state).1.mapError (Stop.map change),(run state).2)

/-- A handler of the rejections: the program's value, or the error that it rejected with. -/
def attempt {δ : Type} (run : Exec σ ε α) : Exec σ δ (Except ε α) := fun state =>
  match run state with
  | (.ok value,after) => (.ok (.ok value),after)
  | (.error (.rejected error),after) => (.ok (.error error),after)
  | (.error .panicked,after) => (.error .panicked,after)

theorem pure_run (value : α) (state : σ) : (pure value : Exec σ ε α) state = (.ok value,state) := rfl

theorem bind_of_ok (first : Exec σ ε α) (next : α → Exec σ ε β) (state middle : σ) (value : α)
    (run : first state = (.ok value,middle)) : (first >>= next) state = next value middle := by
  change (match first state with
    | (.ok value,after) => next value after
    | (.error stop,after) => (.error stop,after)) = _
  rw [run]

theorem bind_of_error (first : Exec σ ε α) (next : α → Exec σ ε β) (state middle : σ) (stop : Stop ε)
    (run : first state = (.error stop,middle)) : (first >>= next) state = (.error stop,middle) := by
  change (match first state with
    | (.ok value,after) => next value after
    | (.error stop,after) => (.error stop,after)) = _
  rw [run]

theorem bind_ok (first : Exec σ ε α) (next : α → Exec σ ε β) (state after : σ) (result : β) :
    (first >>= next) state = (.ok result,after) ↔
      ∃ value middle, first state = (.ok value,middle) ∧ next value middle = (.ok result,after) := by
  change (match first state with
    | (.ok value,after) => next value after
    | (.error stop,after) => (.error stop,after)) = _ ↔ _
  rcases first state with ⟨stop | value,middle⟩ <;> simp

theorem bind_error (first : Exec σ ε α) (next : α → Exec σ ε β) (state after : σ) (stop : Stop ε) :
    (first >>= next) state = (.error stop,after) ↔
      first state = (.error stop,after) ∨
        ∃ value middle, first state = (.ok value,middle) ∧ next value middle = (.error stop,after) := by
  change (match first state with
    | (.ok value,after) => next value after
    | (.error stop,after) => (.error stop,after)) = _ ↔ _
  rcases first state with ⟨stop | value,middle⟩ <;> simp

theorem mapReject_ok {δ : Type} (change : ε → δ) (run : Exec σ ε α) (state : σ) (value : α) :
    (mapReject change run state).1 = .ok value ↔ (run state).1 = .ok value :=
  Except.mapError_ok _ _ _

theorem bind_value (first : Exec σ ε α) (next : α → Exec σ ε β) (state : σ) (result : β) :
    ((first >>= next) state).1 = .ok result ↔
      ∃ value, (first state).1 = .ok value ∧ (next value (first state).2).1 = .ok result := by
  change (match first state with
    | (.ok value,after) => next value after
    | (.error stop,after) => (.error stop,after)).1 = _ ↔ _
  rcases first state with ⟨stop | value,middle⟩ <;> simp

theorem lift_value (result : Except ε α) (state : σ) (value : α) :
    (lift result state).1 = .ok value ↔ result = .ok value := Except.mapError_ok _ _ _

theorem attempt_value {δ : Type} (run : Exec σ ε α) (state : σ) (result : Except ε α) :
    (attempt run state : Except (Stop δ) (Except ε α) × σ).1 = .ok result ↔
      (run state).1 = result.mapError .rejected := by
  unfold attempt
  rcases run state with ⟨(error | _) | value,after⟩ <;> cases result <;> simp [Except.mapError]

theorem checked_ok (result : Except (Stop ε) α) (state after : σ) (value : α) :
    checked result state = (.ok value,after) ↔ result = .ok value ∧ after = state := by
  simp [checked,eq_comm]

theorem checked_error (result : Except (Stop ε) α) (state after : σ) (stop : Stop ε) :
    checked result state = (.error stop,after) ↔ result = .error stop ∧ after = state := by
  simp [checked,eq_comm]

theorem lift_ok (result : Except ε α) (state after : σ) (value : α) :
    lift result state = (.ok value,after) ↔ result = .ok value ∧ after = state := by
  cases result <;> simp [lift,checked,Except.mapError,eq_comm]

theorem lift_error (result : Except ε α) (state after : σ) (stop : Stop ε) :
    lift result state = (.error stop,after) ↔
      (∃ error, result = .error error ∧ stop = .rejected error) ∧ after = state := by
  cases result <;> simp [lift,checked,Except.mapError,eq_comm]

theorem bind_congr (first second : Exec σ ε α) (next : α → Exec σ ε β) (state : σ) (same : first state = second state) :
    (first >>= next) state = (second >>= next) state := by
  change (match first state with
    | (.ok value,after) => next value after
    | (.error stop,after) => (.error stop,after)) = _
  rw [same]
  rfl

theorem lift_bind_congr (result : Except ε α) (next other : α → Exec σ ε β) (state : σ)
    (same : ∀ value, result = .ok value → next value state = other value state) :
    (lift result >>= next) state = (lift result >>= other) state := by
  cases result with
  | error error => rfl
  | ok value => exact same value rfl

/-- Whatever the outcome, the state changes only along the relation. -/
def Within (relation : σ → σ → Prop) (run : Exec σ ε α) : Prop := ∀ state, relation state (run state).2

variable (relation : σ → σ → Prop)

theorem checked_within (stays : ∀ state, relation state state) (result : Except (Stop ε) α) :
    Within relation (checked result : Exec σ ε α) := stays

theorem lift_within (stays : ∀ state, relation state state) (result : Except ε α) :
    Within relation (lift result : Exec σ ε α) := stays

theorem pure_within (stays : ∀ state, relation state state) (value : α) :
    Within relation (pure value : Exec σ ε α) := stays

theorem bind_within (chains : ∀ first second third, relation first second → relation second third →
      relation first third)
    (first : Exec σ ε α) (next : α → Exec σ ε β) (firstWithin : Within relation first)
    (nextWithin : ∀ value, Within relation (next value)) : Within relation (first >>= next) := by
  intro state
  have reached := firstWithin state
  generalize outcome : first state = result at reached
  obtain ⟨found,middle⟩ := result
  cases found with
  | error stop =>
    rw [bind_of_error first next state middle stop outcome]
    exact reached
  | ok value =>
    rw [bind_of_ok first next state middle value outcome]
    exact chains state middle _ reached (nextWithin value middle)

end Exec

end Foundation
