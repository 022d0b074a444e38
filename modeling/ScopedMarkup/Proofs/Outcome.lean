/-! # Outcomes

When a step on an outcome succeeds, that outcomes can be compared, the outcome of a
run with or without a fault, and outcomes that differ in errors of one kind only.
-/

namespace ScopedMarkup

variable {ε ε' α β : Type}

instance decidableEqOutcome [DecidableEq ε] [DecidableEq α] : DecidableEq (Except ε α)
  | .ok left, .ok right => decidable_of_iff (left = right) (by simp)
  | .error left, .error right => decidable_of_iff (left = right) (by simp)
  | .ok _, .error _ | .error _, .ok _ => isFalse (by simp)

theorem map_eq_ok_iff {outcome : Except ε α} {change : α → β} {value : β} :
    outcome.map change = .ok value ↔ ∃ found, outcome = .ok found ∧ change found = value := by
  cases outcome <;> simp [Except.map]

theorem map_eq_error_iff {outcome : Except ε α} {change : α → β} {error : ε} :
    outcome.map change = .error error ↔ outcome = .error error := by
  cases outcome <;> simp [Except.map]

/-- What a run gives that stops at the first fault. -/
def stopAt (fault? : Option ε) (made : α) : Except ε α := fault?.elim (.ok made) .error

theorem map_stopAt (fault? : Option ε) (made : α) (change : α → β) :
    (stopAt fault? made).map change = stopAt fault? (change made) := by
  cases fault? <;> rfl

/-- One run after the other stops at the first fault of both. -/
theorem stopAt_bind {fault? later? : Option ε} {made : α} {next : α → Except ε β} {result : β}
    (after : next made = stopAt later? result) :
    (stopAt fault? made >>= next) = stopAt (fault?.or later?) result := by
  cases fault? with
  | none => exact after
  | some error => rfl

theorem stopAt_eq_ok_iff {fault? : Option ε} {made result : α} :
    stopAt fault? made = .ok result ↔ fault? = none ∧ result = made := by
  cases fault? <;> simp [stopAt, eq_comm]

/-- The left outcome is the right one, or an error of a kind that only the left side
may have. -/
def AgreeUpTo (own : ε → Prop) (left right : Except ε α) : Prop :=
  left = right ∨ ∃ error, left = .error error ∧ own error

namespace AgreeUpTo

variable {own : ε → Prop} {left right : Except ε α}

theorem refl (own : ε → Prop) (outcome : Except ε α) : AgreeUpTo own outcome outcome := .inl rfl

theorem ofError {error : ε} (isOwn : own error) : AgreeUpTo own (.error error) right :=
  .inr ⟨error, rfl, isOwn⟩

theorem map (change : α → β) (agree : AgreeUpTo own left right) :
    AgreeUpTo own (left.map change) (right.map change) := by
  rcases agree with rfl | ⟨error, rfl, isOwn⟩
  · exact refl own _
  · exact ofError isOwn

/-- What succeeds on the left gives the same on the right. -/
theorem ok_of_ok {value : α} (agree : AgreeUpTo own left right) (succeeds : left = .ok value) :
    right = .ok value := by
  rcases agree with rfl | ⟨error, rfl, -⟩
  · exact succeeds
  · cases succeeds

end AgreeUpTo

end ScopedMarkup
