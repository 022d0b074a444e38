import ScopedMarkup.Proofs.Css.Selector.Acceptance
import ScopedMarkup.Proofs.Css.Sheet.Depth
import ScopedMarkup.Proofs.Outcome

/-! # Which sheets scoping accepts

Scoping is all or nothing. It accepts a sheet, also one that was built by hand, just when
there is a scope, the conditional rules nest no deeper than the limit and each style rule
has a selector that scoping accepts.
-/

namespace ScopedMarkup.Css

variable {σ τ : Type} {scope : Text} {config : Config}

/-- The text that a selector is scoped to. -/
def Selector.spelling (scope : Text) (config : Config) (selector : Selector) : Text :=
  (selector.mark (config.marker scope)).render

theorem Rule.length_mapAll (change : σ → τ) (rules : List (Rule σ)) :
    (mapAll change rules).length = rules.length := by
  induction rules with
  | nil => rfl
  | cons rule rules induction => rw [mapAll, List.length_cons, induction, List.length_cons]

namespace Sheet

theorem length_rules_map (change : σ → τ) (sheet : Sheet σ) :
    (sheet.map change).rules.length = sheet.rules.length :=
  Rule.length_mapAll change sheet.rules

theorem scope_eq_stopAt (nonempty : scope ≠ []) (sheet : Sheet Selector) :
    sheet.scope scope config = stopAt (Rule.faultIn? config.maxDepth 0 sheet.rules)
      (sheet.map (Selector.spelling scope config)) := by
  rw [Sheet.scope, if_neg nonempty]
  cases Rule.faultIn? config.maxDepth 0 sheet.rules <;> rfl

/-- No foreign value stands in place of a rule, at any depth. -/
def RulesOnly {σ : Type} (sheet : Sheet σ) : Prop :=
  Rule.unprintableIn? (fun _ => none) sheet.rules = none

theorem scope_eq_ok_iff {sheet : Sheet Selector} {result : Sheet Text} :
    sheet.scope scope config = .ok result ↔
      scope ≠ [] ∧ Rule.faultIn? config.maxDepth 0 sheet.rules = none ∧
        result = sheet.map fun selector => (selector.mark (config.marker scope)).render := by
  by_cases empty : scope = []
  · rw [Sheet.scope, if_pos empty]
    exact iff_of_false nofun fun accepts => accepts.1 empty
  · rw [scope_eq_stopAt empty, stopAt_eq_ok_iff, and_iff_right empty]
    exact Iff.rfl

/-- A sheet that scoping accepts under a limit. The limit holds for the conditional rules
around a rule and, anew for each style rule, for the levels in its selector. -/
structure Scopable (limit : Nat) (sheet : Sheet Selector) : Prop where
  rulesOnly : sheet.RulesOnly
  shallow : Rule.nestingIn sheet.rules ≤ limit
  selectors : ∀ selector ∈ Rule.preludesIn sheet.rules, selector.Scopable limit

theorem faultIn?_eq_none_iff_scopable {limit : Nat} {sheet : Sheet Selector} :
    Rule.faultIn? limit 0 sheet.rules = none ↔ sheet.Scopable limit := by
  have selectors :
      (∀ selector ∈ Rule.preludesIn sheet.rules, selector.fault? limit 0 = none) ↔
        ∀ selector ∈ Rule.preludesIn sheet.rules, selector.Scopable limit :=
    forall₂_congr fun _ _ => Selector.fault?_eq_none_iff_scopable
  rw [Rule.faultIn?_eq_none_iff sheet.rules (Nat.zero_le limit), selectors, Nat.zero_add]
  constructor
  · rintro ⟨rulesOnly, each, shallow⟩
    exact ⟨rulesOnly, shallow, each⟩
  · rintro ⟨rulesOnly, shallow, each⟩
    exact ⟨rulesOnly, each, shallow⟩

end Sheet

end ScopedMarkup.Css
