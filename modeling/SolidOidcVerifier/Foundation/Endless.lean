import SolidOidcVerifier.Foundation.History

/-! Runs that never end. A state that every event keeps or leads to the goal, and from which a recurring
event takes one off a rank, reaches the goal. -/
namespace Foundation.Endless

variable {O σ : Type}

/-- The state after the first `n` events. -/
def state (step : O → σ → σ) (events : Nat → O) (start : σ) : Nat → σ
  | 0 => start
  | n+1 => step (events n) (state step events start n)

section rank

variable (step : O → σ → σ) (events : Nat → O) (start : σ) (waits goal : σ → Prop) (rank : σ → Nat)
  (helps : O → σ → Prop)

/-- What one event does to a state that waits. -/
def Advances : Prop := ∀ event s, waits s → goal (step event s) ∨
  waits (step event s) ∧ rank (step event s) ≤ rank s ∧ (helps event s → rank (step event s) < rank s)

theorem waits_on (advances : Advances step waits goal rank helps) (n : Nat)
    (waiting : waits (state step events start n)) (k : Nat) :
    (∃ m, n ≤ m ∧ goal (state step events start m)) ∨
      (waits (state step events start (n+k)) ∧
        rank (state step events start (n+k)) ≤ rank (state step events start n)) := by
  induction k with
  | zero => exact Or.inr ⟨waiting,Nat.le_refl _⟩
  | succ k ih =>
    obtain reached | ⟨still,bound⟩ := ih
    · exact Or.inl reached
    · obtain reached | ⟨next,less,_⟩ := advances (events (n+k)) _ still
      · exact Or.inl ⟨n+k+1,by omega,reached⟩
      · exact Or.inr ⟨next,less.trans bound⟩

theorem reaches (advances : Advances step waits goal rank helps)
    (recurs : ∀ n, waits (state step events start n) →
      ∃ m, n ≤ m ∧ helps (events m) (state step events start m)) (n : Nat)
    (waiting : waits (state step events start n)) : ∃ m, n ≤ m ∧ goal (state step events start m) := by
  induction size : rank (state step events start n) using Nat.strong_induction_on generalizing n with
  | _ size' ih =>
    obtain ⟨m,later,helpful⟩ := recurs n waiting
    obtain ⟨k,rfl⟩ := Nat.exists_eq_add_of_le later
    obtain reached | ⟨still,bound⟩ := waits_on step events start waits goal rank helps advances n waiting k
    · exact reached
    · obtain reached | ⟨next,_,less⟩ := advances (events (n+k)) _ still
      · exact ⟨n+k+1,by omega,reached⟩
      · have smaller : rank (state step events start (n+k+1)) < size' := by
          rw [← size]
          exact Nat.lt_of_lt_of_le (less helpful) bound
        obtain ⟨m,order,reached⟩ := ih _ smaller (n+k+1) next rfl
        exact ⟨m,by omega,reached⟩

end rank

end Foundation.Endless
