import ScopedMarkup.Css.Selector.Evaluation
import ScopedMarkup.Proofs.Outcome

/-! # Runs on a stack

Scoping stops at the first fault or gives what it makes. A run on a stack does the same, as
long as the stack holds all calls that are open at once. Where it does not, the run may still
come to a fault first, but never to another result.
-/

namespace ScopedMarkup.Css

variable {α β : Type}

/-! ## Runs that end -/

/-- A run ends if it does not run out of stack. -/
def Ends (outcome : Except Halt α) : Prop := outcome ≠ .error .outOfStack

namespace Ends

theorem ok (value : α) : Ends (.ok value) := nofun

theorem refused (error : ScopeError) : Ends (.error (.refused error) : Except Halt α) := nofun

theorem bind {outcome : Except Halt α} {next : α → Except Halt β} (ends : Ends outcome)
    (after : ∀ value, Ends (next value)) : Ends (outcome >>= next) := by
  cases outcome with
  | ok value => exact after value
  | error halt =>
      cases halt with
      | refused error => exact refused error
      | outOfStack => exact absurd rfl ends

theorem mapM {next : α → Except Halt β} (ends : ∀ value, Ends (next value)) :
    ∀ values : List α, Ends (values.mapM next)
  | [] => ok []
  | value :: rest => by
      rw [List.mapM_cons]
      exact (ends value).bind fun _ => (mapM ends rest).bind fun _ => ok _

theorem foldlM {next : β → α → Except Halt β} (ends : ∀ made value, Ends (next made value)) :
    ∀ (values : List α) (made : β), Ends (values.foldlM next made)
  | [], made => ok made
  | value :: rest, made => by
      rw [List.foldlM_cons]
      exact (ends made value).bind (foldlM ends rest)

end Ends

/-! ## Runs with a known outcome -/

/-- The outcome of a run with this much room, where so many calls are open at once if there
is no fault. -/
structure Runs (room calls : Nat) (fault? : Option ScopeError) (made : α)
    (outcome : Except Halt α) : Prop where
  agrees : outcome = stopAt (fault?.map .refused) made ∨ outcome = .error .outOfStack
  complete : calls ≤ room → outcome = stopAt (fault?.map .refused) made
  fits : ∀ value, outcome = .ok value → calls ≤ room

namespace Runs

variable {room calls further : Nat} {fault? nextFault? : Option ScopeError}
  {made : α} {outcome : Except Halt α}

theorem done (room : Nat) (made : α) : Runs room 0 none made (.ok made) :=
  ⟨.inl rfl, fun _ => rfl, fun _ _ => Nat.zero_le room⟩

theorem refused (room calls : Nat) (error : ScopeError) (made : α) :
    Runs room calls (some error) made (.error (.refused error)) :=
  ⟨.inl rfl, fun _ => rfl, nofun⟩

/-- Without room no call can be made. -/
theorem outOfStack (positive : 0 < calls) : Runs 0 calls fault? made (.error .outOfStack) :=
  ⟨.inr rfl, fun le => absurd (Nat.le_zero.mp le) (Nat.ne_of_gt positive), nofun⟩

/-- A call takes one place while it lasts. -/
theorem call (runs : Runs room calls fault? made outcome) :
    Runs (room + 1) (calls + 1) fault? made outcome where
  agrees := runs.agrees
  complete le := runs.complete (Nat.le_of_succ_le_succ le)
  fits value succeeds := Nat.succ_le_succ (runs.fits value succeeds)

/-! ## What an outcome says -/

theorem eq_of_ok {value : α} (runs : Runs room calls fault? made outcome)
    (succeeds : outcome = .ok value) : fault? = none ∧ value = made := by
  cases runs.agrees with
  | inl same =>
      have stops := stopAt_eq_ok_iff.mp (same.symm.trans succeeds)
      exact ⟨Option.map_eq_none_iff.mp stops.1, stops.2⟩
  | inr ends =>
      rw [ends] at succeeds
      cases succeeds

/-- A run succeeds just when there is no fault and the calls have room. -/
theorem eq_ok_iff {value : α} (runs : Runs room calls fault? made outcome) :
    outcome = .ok value ↔ fault? = none ∧ calls ≤ room ∧ value = made := by
  constructor
  · intro succeeds
    have stops := runs.eq_of_ok succeeds
    exact ⟨stops.1, runs.fits value succeeds, stops.2⟩
  · rintro ⟨rfl, le, rfl⟩
    exact runs.complete le

theorem eq_of_refused {error : ScopeError} (runs : Runs room calls fault? made outcome)
    (stops : outcome = .error (.refused error)) : fault? = some error := by
  cases runs.agrees with
  | inl same =>
      rw [stops] at same
      cases fault? with
      | none => cases same
      | some found =>
          cases same
          rfl
  | inr ends =>
      rw [ends] at stops
      cases stops

theorem ends (runs : Runs room calls fault? made outcome) (le : calls ≤ room) : Ends outcome := by
  rw [runs.complete le]
  cases fault? with
  | none => exact .ok made
  | some error => exact .refused error

/-- A run that ends succeeds just when there is no fault. -/
theorem exists_ok_iff (runs : Runs room calls fault? made outcome) (ends : Ends outcome) :
    (∃ value, outcome = .ok value) ↔ fault? = none := by
  rw [runs.agrees.resolve_right ends]
  cases fault? with
  | none => exact iff_of_true ⟨made, rfl⟩ rfl
  | some error => exact iff_of_false nofun nofun

/-- A run that ends is refused just when there is a fault. -/
theorem exists_refused_iff (runs : Runs room calls fault? made outcome) (ends : Ends outcome) :
    (∃ error, outcome = .error (.refused error)) ↔ fault? ≠ none := by
  rw [runs.agrees.resolve_right ends]
  cases fault? with
  | none => exact iff_of_false nofun (absurd rfl)
  | some error => exact iff_of_true ⟨error, rfl⟩ nofun

/-- A run without a fault that has too little room runs out. -/
theorem eq_outOfStack (runs : Runs room calls none made outcome) (less : room < calls) :
    outcome = .error .outOfStack := by
  cases runs.agrees with
  | inl succeeds => exact absurd (runs.fits made succeeds) (Nat.not_le.mpr less)
  | inr ends => exact ends

/-! ## Runs one after the other -/

/-- One run after the other: the first fault counts, and as many calls are open at once as
in the run that needs more. -/
theorem bind {result : β} (next : α → Except Halt β)
    (first : Runs room calls fault? made outcome)
    (second : Runs room further nextFault? result (next made)) :
    Runs room (max calls further) (fault?.or nextFault?) result (outcome >>= next) := by
  have joined : (stopAt (fault?.map .refused) made >>= next) = stopAt ((fault?.or nextFault?).map
      .refused) result ∨ (stopAt (fault?.map .refused) made >>= next) = .error .outOfStack := by
    cases fault? with
    | some error => exact .inl rfl
    | none => exact second.agrees
  refine ⟨?_, fun le => ?_, fun value succeeds => ?_⟩
  · rcases first.agrees with same | ends
    · rw [same]
      exact joined
    · rw [ends]
      exact .inr rfl
  · rw [first.complete (Nat.le_trans (Nat.le_max_left ..) le)]
    cases fault? with
    | some error => rfl
    | none => exact second.complete (Nat.le_trans (Nat.le_max_right ..) le)
  · cases found : outcome with
    | error halt =>
        rw [found] at succeeds
        cases succeeds
    | ok value =>
        have same := (first.eq_of_ok found).2
        rw [found, same] at succeeds
        exact Nat.max_le.mpr ⟨first.fits value found, second.fits _ succeeds⟩

theorem map (change : α → β) (runs : Runs room calls fault? made outcome) :
    Runs room calls fault? (change made) (outcome >>= fun value => .ok (change value)) := by
  have bound : Runs room (max calls 0) (fault?.or none) (change made)
      (outcome >>= fun value => .ok (change value)) := runs.bind _ (done room (change made))
  rwa [Nat.max_zero, Option.or_none] at bound

end Runs

end ScopedMarkup.Css
