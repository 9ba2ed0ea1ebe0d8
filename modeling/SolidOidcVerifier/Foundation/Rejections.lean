import SolidOidcVerifier.Foundation.Exec

/-! Which errors a program may end with. -/
namespace Foundation

namespace Except

variable {ε α β : Type}

/-- Every error of the result is allowed. -/
def Rejects (allowed : ε → Prop) (result : Except ε α) : Prop := ∀ error, result = .error error → allowed error

variable (allowed : ε → Prop)

theorem rejects_ok (value : α) : Rejects allowed (.ok value) := by
  intro error found
  cases found

theorem rejects_error (error : ε) (fine : allowed error) : Rejects allowed (.error error : Except ε α) := by
  intro other found
  cases found
  exact fine

theorem rejects_bind (first : Except ε α) (next : α → Except ε β) (starts : Rejects allowed first)
    (continues : ∀ value, Rejects allowed (next value)) : Rejects allowed (first >>= next) := by
  intro error found
  rcases (bind_error first next error).mp found with failed | ⟨value,_,failed⟩
  · exact starts error failed
  · exact continues value error failed

theorem rejects_ensure (condition : Prop) [Decidable condition] (error : ε) (fine : allowed error) :
    Rejects allowed (ensure condition error) := by
  intro other found
  rw [← ((ensure_error condition error other).mp found).2]
  exact fine

theorem rejects_orError (value : Option α) (error : ε) (fine : allowed error) :
    Rejects allowed (orError value error) := by
  intro other found
  rw [← ((orError_error value error other).mp found).2]
  exact fine

theorem rejects_mapError {δ : Type} (result : Except δ α) (change : δ → ε) (fine : ∀ error, allowed (change error)) :
    Rejects allowed (result.mapError change) := by
  intro error found
  cases result with
  | ok value => cases found
  | error inner =>
    cases found
    exact fine inner

end Except

namespace Exec

variable {σ ε α β : Type} (allowed : Stop ε → Prop)

/-- Wherever the program starts, it ends with an allowed error, if with one. -/
def Rejects (run : Exec σ ε α) : Prop := ∀ state, Except.Rejects allowed (run state).1

theorem rejects_checked (result : Except (Stop ε) α) (fine : Except.Rejects allowed result) :
    Rejects allowed (checked result : Exec σ ε α) := fun _ => fine

theorem rejects_lift (result : Except ε α) (fine : Except.Rejects (fun error => allowed (.rejected error)) result) :
    Rejects allowed (lift result : Exec σ ε α) := by
  intro state error found
  cases same : result with
  | ok value =>
    rw [same] at found
    cases found
  | error inner =>
    rw [same] at found
    cases found
    exact fine inner same

theorem rejects_pure (value : α) : Rejects allowed (pure value : Exec σ ε α) :=
  fun _ => Except.rejects_ok allowed value

theorem rejects_bind (first : Exec σ ε α) (next : α → Exec σ ε β) (starts : Rejects allowed first)
    (continues : ∀ value, Rejects allowed (next value)) : Rejects allowed (first >>= next) := by
  intro state error found
  generalize outcome : (first >>= next) state = result at found
  obtain ⟨answer,after⟩ := result
  change answer = .error error at found
  rw [found] at outcome
  rcases (bind_error first next state after error).mp outcome with failed | ⟨value,middle,_,failed⟩
  · exact starts state error (by rw [failed])
  · exact continues value middle error (by rw [failed])

theorem rejects_mapReject {δ : Type} (change : ε → δ) (fine : Stop δ → Prop) (run : Exec σ ε α)
    (starts : Rejects allowed run) (carries : ∀ stop, allowed stop → fine (stop.map change)) :
    Rejects fine (mapReject change run) := by
  intro state error found
  unfold mapReject at found
  cases outcome : (run state).1 with
  | ok value =>
    rw [outcome] at found
    cases found
  | error stop =>
    rw [outcome] at found
    cases found
    exact carries stop (starts state stop outcome)

end Exec

end Foundation
