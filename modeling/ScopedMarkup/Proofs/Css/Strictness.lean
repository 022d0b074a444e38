import ScopedMarkup.Css.Sheet.Reader
import ScopedMarkup.Proofs.Outcome

/-! # Limits on the nesting of style sheets

A lower limit on nesting changes what reading a selector or a sheet gives in one
way only: the lower limit is reported as exceeded.
-/

namespace ScopedMarkup

/-- Everything that the tight settings accept, the loose ones allow as well. -/
structure Config.Stricter (tight loose : Config) : Prop where
  strict : loose.strict = true → tight.strict = true
  maxDepth : tight.maxDepth ≤ loose.maxDepth

namespace Css

/-- The reasons that only the lower one of two limits gives. -/
def Reason.OwnTo (tight loose : Config) (reason : Reason) : Prop :=
  tight.maxDepth < loose.maxDepth ∧
    (reason = .tooDeep .blocks (tight.maxDepth + 1) ∨ reason = .tooDeep .selector tight.maxDepth)

namespace Brackets

theorem overflow?_eq_none_of_le {brackets : Brackets} {low high : Nat} (le : low ≤ high)
    (region : Region) (depth : Int) (text : Text)
    (fits : brackets.overflow? low region depth text = none) :
    brackets.overflow? high region depth text = none := by
  fun_induction overflow? brackets low region depth text <;> grind [overflow?]

/-- Checked against a lower limit, a text gives the same or exceeds that limit. -/
theorem agree_check (brackets : Brackets) (nested : Nested) {low high : Nat} (le : low ≤ high)
    (text : Text) :
    AgreeUpTo (fun fault => low < high ∧ fault.reason = .tooDeep nested low)
      (brackets.check nested low text) (brackets.check nested high text) := by
  rcases Nat.eq_or_lt_of_le le with rfl | lower
  · exact .refl ..
  · cases fits : brackets.overflow? low .plain 0 text with
    | none =>
        have further := overflow?_eq_none_of_le le .plain 0 text fits
        rw [check, check, fits, further]
        exact .refl ..
    | some rest =>
        rw [check, fits]
        exact .ofError ⟨lower, rfl⟩

end Brackets

variable {tight loose : Config}

theorem Selector.agree_read (stricter : tight.Stricter loose) (text : Text) :
    AgreeUpTo (fun error => error.reason.OwnTo tight loose) (Selector.read tight text)
      (Selector.read loose text) := by
  unfold Selector.read ofClean
  rcases Brackets.round.agree_check .selector stricter.maxDepth (clean text) with
    equal | ⟨fault, exceeded, lower, reason⟩
  · rw [equal]
    exact .refl ..
  · rw [exceeded]
    exact .ofError ⟨lower, .inr reason⟩

namespace Rule

variable {ε σ τ : Type} {own : ε → Prop} {change change' : σ → Except ε τ}

mutual
theorem agree_traverse (agree : ∀ prelude, AgreeUpTo own (change prelude) (change' prelude)) :
    ∀ rule : Rule σ, AgreeUpTo own (traverse change rule) (traverse change' rule)
  | .conditional _ _ rules => (agree_traverseAll agree rules).map _
  | .style prelude _ => (agree prelude).map _
  | .charset _ | .nameSpace _ | .fontFace _ | .page .. | .keyframes .. | .foreign _ => .refl ..

/-- Changes that agree for each prelude agree for rules. -/
theorem agree_traverseAll (agree : ∀ prelude, AgreeUpTo own (change prelude) (change' prelude)) :
    ∀ rules : List (Rule σ), AgreeUpTo own (traverseAll change rules) (traverseAll change' rules)
  | [] => .refl ..
  | rule :: rest => by
      rw [traverseAll, traverseAll]
      rcases agree_traverse agree rule with equal | ⟨error, failed, isOwn⟩
      · rw [equal]
        cases traverse change' rule with
        | error error => exact .refl ..
        | ok changed => exact (agree_traverseAll agree rest).map _
      · rw [failed]
        exact .ofError isOwn
end

end Rule

namespace Sheet

theorem agree_preludeSelector (stricter : tight.Stricter loose) (source : Text)
    (prelude : Lexeme) :
    AgreeUpTo (fun error => error.reason.OwnTo tight loose)
      (preludeSelector tight source prelude) (preludeSelector loose source prelude) := by
  unfold preludeSelector
  rcases Selector.agree_read stricter prelude.text with equal | ⟨error, failed, isOwn⟩
  · rw [equal]
    exact .refl ..
  · rw [failed]
    exact .ofError isOwn

/-- Under a lower limit a sheet is read as the same, or fails with a reason of that
limit. -/
theorem agree_read (stricter : tight.Stricter loose) (source : Text) :
    AgreeUpTo (fun error => error.reason.OwnTo tight loose) (Sheet.read tight source)
      (Sheet.read loose source) := by
  unfold Sheet.read
  rcases Brackets.curly.agree_check .blocks (Nat.succ_le_succ stricter.maxDepth) source with
    equal | ⟨fault, exceeded, lower, reason⟩
  · rw [equal]
    cases Brackets.curly.check .blocks (loose.maxDepth + 1) source with
    | error fault => exact .refl ..
    | ok =>
        cases rawRules source with
        | error fault => exact .refl ..
        | ok rules =>
            exact (Rule.agree_traverseAll (agree_preludeSelector stricter source) rules).map _
  · rw [exceeded]
    exact .ofError ⟨Nat.lt_of_succ_lt_succ lower, .inl reason⟩

end Sheet

end Css

end ScopedMarkup
