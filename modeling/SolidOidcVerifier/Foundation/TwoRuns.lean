import SolidOidcVerifier.Foundation.Exec

/-! Two programs side by side, from related states. -/
namespace Foundation.Exec

variable {σ τ ε α β : Type}

/-- Where the first program ends with a value, the second ends with the same one. -/
def Follows (before : σ → τ → Prop) (after : α → σ → τ → Prop) (first : Exec σ ε α) (second : Exec τ ε α) :
    Prop :=
  ∀ left right, before left right → ∀ value reached, first left = (.ok value,reached) →
    ∃ other, second right = (.ok value,other) ∧ after value reached other

/-- Both programs end with the same value, the same rejection or a panic. -/
def Alike (before : σ → τ → Prop) (after : α → σ → τ → Prop) (first : Exec σ ε α) (second : Exec τ ε α) :
    Prop :=
  ∀ left right, before left right → (first left).1 = (second right).1 ∧
    ∀ value, (first left).1 = .ok value → after value (first left).2 (second right).2

section follows

variable (before : σ → τ → Prop)

theorem follows_checked (first second : Except (Stop ε) α)
    (implied : ∀ value, first = .ok value → second = .ok value) :
    Follows before (fun _ => before) (checked first) (checked second) := by
  intro left right related value reached run
  obtain ⟨found,stays⟩ := (checked_ok _ _ _ _).mp run
  rw [stays]
  exact ⟨right,(checked_ok _ _ _ _).mpr ⟨implied value found,rfl⟩,related⟩

theorem follows_lift (first second : Except ε α) (implied : ∀ value, first = .ok value → second = .ok value) :
    Follows before (fun _ => before) (lift first) (lift second) := by
  apply follows_checked
  intro value found
  rw [Except.mapError_ok] at found ⊢
  exact implied value found

theorem follows_pure (value : α) :
    Follows before (fun _ => before) (pure value : Exec σ ε α) (pure value : Exec τ ε α) :=
  follows_checked before (.ok value) (.ok value) (fun _ found => found)

theorem follows_bind (middle : α → σ → τ → Prop) (after : β → σ → τ → Prop)
    (first : Exec σ ε α) (second : Exec τ ε α) (next : α → Exec σ ε β) (other : α → Exec τ ε β)
    (starts : Follows before middle first second)
    (continues : ∀ value, Follows (middle value) after (next value) (other value)) :
    Follows before after (first >>= next) (second >>= other) := by
  intro left right related result reached run
  obtain ⟨value,between,begun,ended⟩ := (bind_ok _ _ _ _ _).mp run
  obtain ⟨station,follows,still⟩ := starts left right related value between begun
  obtain ⟨last,done,kept⟩ := continues value between station still result reached ended
  exact ⟨last,(bind_ok _ _ _ _ _).mpr ⟨value,station,follows,done⟩,kept⟩

/-- The rule for a sequence whose parts all keep one relation. -/
theorem follows_keeps {first : Exec σ ε α} {second : Exec τ ε α} {next : α → Exec σ ε β} {other : α → Exec τ ε β}
    (starts : Follows before (fun _ => before) first second)
    (continues : ∀ value, Follows before (fun _ => before) (next value) (other value)) :
    Follows before (fun _ => before) (first >>= next) (second >>= other) :=
  follows_bind before (fun _ => before) (fun _ => before) first second next other starts continues

end follows

section alike

variable (before : σ → τ → Prop)

theorem alike_checked (first second : Except (Stop ε) α) (same : first = second) :
    Alike before (fun _ => before) (checked first) (checked second) := by
  intro left right related
  exact ⟨same,fun _ _ => related⟩

theorem alike_lift (first second : Except ε α) (same : first = second) :
    Alike before (fun _ => before) (lift first) (lift second) :=
  alike_checked before _ _ (by rw [same])

theorem alike_pure (value : α) :
    Alike before (fun _ => before) (pure value : Exec σ ε α) (pure value : Exec τ ε α) :=
  alike_checked before (.ok value) (.ok value) rfl

theorem alike_bind (middle : α → σ → τ → Prop) (after : β → σ → τ → Prop)
    (first : Exec σ ε α) (second : Exec τ ε α) (next : α → Exec σ ε β) (other : α → Exec τ ε β)
    (starts : Alike before middle first second)
    (continues : ∀ value, Alike (middle value) after (next value) (other value)) :
    Alike before after (first >>= next) (second >>= other) := by
  intro left right related
  obtain ⟨same,still⟩ := starts left right related
  generalize begun : first left = run at same still
  generalize station : second right = otherRun at same still
  obtain ⟨outcome,reached⟩ := run
  obtain ⟨answer,between⟩ := otherRun
  change outcome = answer at same
  subst same
  cases outcome with
  | error stop =>
    rw [bind_of_error first next left reached stop begun,bind_of_error second other right between stop station]
    refine ⟨rfl,?_⟩
    intro value found
    cases found
  | ok value =>
    rw [bind_of_ok first next left reached value begun,bind_of_ok second other right between value station]
    exact continues value reached between (still value rfl)

theorem alike_keeps {first : Exec σ ε α} {second : Exec τ ε α} {next : α → Exec σ ε β} {other : α → Exec τ ε β}
    (starts : Alike before (fun _ => before) first second)
    (continues : ∀ value, Alike before (fun _ => before) (next value) (other value)) :
    Alike before (fun _ => before) (first >>= next) (second >>= other) :=
  alike_bind before (fun _ => before) (fun _ => before) first second next other starts continues

end alike

end Foundation.Exec
