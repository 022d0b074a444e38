import ScopedMarkup.Css.Sheet.Scoping
import ScopedMarkup.Proofs.Css.Selector.Depth
import ScopedMarkup.Proofs.Css.Sheet.Native

/-! # How deep rules nest

Scoping refuses a sheet that was read only for its depth: that of its conditional
rules, or that of a selector.
-/

namespace ScopedMarkup.Css

namespace Rule

variable {σ : Type} {limit : Nat}

/-! ## Conditional rules -/

mutual
/-- How deep conditional rules go. One without rules in its body counts as well. -/
def nesting : Rule σ → Nat
  | .conditional _ _ rules => nestingIn rules + 1
  | .charset _ | .nameSpace _ | .fontFace _ | .page .. | .keyframes .. | .style ..
  | .foreign _ => 0

def nestingIn : List (Rule σ) → Nat
  | [] => 0
  | rule :: rest => max (nesting rule) (nestingIn rest)
end

mutual
theorem fault?_eq_none_iff : ∀ {depth : Nat} (rule : Rule Selector), depth ≤ limit →
    (fault? limit depth rule = none ↔ unprintable? (fun _ => none) rule = none ∧
      (∀ selector ∈ preludes rule, selector.fault? limit 0 = none) ∧
        depth + nesting rule ≤ limit)
  | depth, .conditional _ _ rules, shallow => by
      rw [fault?, unprintable?, preludes, nesting]
      -- The depth is checked before the body is looked at, so an empty body counts.
      by_cases deep : depth + 1 > limit
      · rw [if_pos deep]
        constructor
        · intro absurdity
          cases absurdity
        · rintro ⟨-, -, fits⟩
          omega
      · rw [if_neg deep, faultIn?_eq_none_iff rules (by omega), Nat.add_right_comm, Nat.add_assoc]
  | depth, .style selector _, shallow => by
      simp [fault?, unprintable?, preludes, nesting, shallow]
  | depth, .foreign _, _ => by simp [fault?, unprintable?]
  | depth, .charset _, shallow | depth, .nameSpace _, shallow | depth, .fontFace _, shallow
  | depth, .page .., shallow | depth, .keyframes .., shallow => by
      simp [fault?, unprintable?, preludes, nesting, shallow]

/-- Scoping accepts rules that are not foreign, with selectors that it accepts, if
conditional rules go no deeper than the limit. -/
theorem faultIn?_eq_none_iff : ∀ {depth : Nat} (rules : List (Rule Selector)), depth ≤ limit →
    (faultIn? limit depth rules = none ↔ unprintableIn? (fun _ => none) rules = none ∧
      (∀ selector ∈ preludesIn rules, selector.fault? limit 0 = none) ∧
        depth + nestingIn rules ≤ limit)
  | depth, [], shallow => by simp [faultIn?, unprintableIn?, preludesIn, nestingIn, shallow]
  | depth, rule :: rest, shallow => by
      rw [faultIn?, Option.or_eq_none_iff, fault?_eq_none_iff rule shallow,
        faultIn?_eq_none_iff rest shallow, unprintableIn?, Option.or_eq_none_iff, preludesIn,
        List.forall_mem_append, nestingIn, ← Nat.add_max_add_left, Nat.max_le]
      exact and_and_and_comm.trans (and_congr Iff.rfl and_and_and_comm)
end

mutual
theorem cases_of_fault? {error : ScopeError} : ∀ {depth : Nat} (rule : Rule Selector),
    fault? limit depth rule = some error → error = .rulesTooDeep limit ∨
      unprintable? (fun _ => none) rule ≠ none ∨
        ∃ selector ∈ preludes rule, selector.fault? limit 0 = some error
  | depth, .conditional _ _ rules, found => by
      rw [fault?] at found
      split at found
      · exact .inl (Option.some.inj found).symm
      · exact cases_of_faultIn? rules found
  | _, .style selector _, found => .inr (.inr ⟨selector, List.mem_singleton_self selector, found⟩)
  | _, .foreign _, _ => .inr (.inl (Option.some_ne_none _))

/-- Why scoping refuses rules. -/
theorem cases_of_faultIn? {error : ScopeError} : ∀ {depth : Nat} (rules : List (Rule Selector)),
    faultIn? limit depth rules = some error → error = .rulesTooDeep limit ∨
      unprintableIn? (fun _ => none) rules ≠ none ∨
        ∃ selector ∈ preludesIn rules, selector.fault? limit 0 = some error
  | depth, rule :: rest, found => by
      rw [unprintableIn?, Ne, Option.or_eq_none_iff, preludesIn]
      rcases Option.or_eq_some_iff.mp found with here | ⟨-, later⟩
      · rcases cases_of_fault? rule here with tooDeep | foreign | ⟨selector, member, refused⟩
        · exact .inl tooDeep
        · exact .inr (.inl fun both => foreign both.1)
        · exact .inr (.inr ⟨selector, List.mem_append_left _ member, refused⟩)
      · rcases cases_of_faultIn? rest later with tooDeep | foreign | ⟨selector, member, refused⟩
        · exact .inl tooDeep
        · exact .inr (.inl fun both => foreign both.2)
        · exact .inr (.inr ⟨selector, List.mem_append_right _ member, refused⟩)
end

end Rule

namespace Sheet

/-- Conditional rules go deeper than the limit, or some selector nests deeper. -/
def NestsDeeper (limit : Nat) (sheet : Sheet Selector) : Prop :=
  limit < Rule.nestingIn sheet.rules ∨
    ∃ selector ∈ Rule.preludesIn sheet.rules, Selector.NestsDeeper limit selector

variable {sheet : Sheet Selector} {limit : Nat}

/-- Scoping accepts the rules of a sheet that was read just when they nest no deeper than
the limit. -/
theorem Native.faultIn?_eq_none_iff (native : sheet.Native) :
    Rule.faultIn? limit 0 sheet.rules = none ↔ ¬ sheet.NestsDeeper limit := by
  have selectors : (∀ selector ∈ Rule.preludesIn sheet.rules, selector.fault? limit 0 = none) ↔
      ∀ selector ∈ Rule.preludesIn sheet.rules, ¬ selector.NestsDeeper limit :=
    forall₂_congr fun selector member => (native.selectors selector member).fault?_eq_none_iff
  have rules : 0 + Rule.nestingIn sheet.rules ≤ limit ↔ ¬ limit < Rule.nestingIn sheet.rules := by
    omega
  rw [Rule.faultIn?_eq_none_iff sheet.rules (Nat.zero_le limit), selectors, rules,
    and_iff_right native.rules, NestsDeeper, not_or, and_comm]
  simp only [not_exists, not_and]

theorem Native.tooDeep_of_faultIn? (native : sheet.Native) {error : ScopeError}
    (found : Rule.faultIn? limit 0 sheet.rules = some error) :
    error = .selectorTooDeep limit ∨ error = .rulesTooDeep limit := by
  rcases Rule.cases_of_faultIn? sheet.rules found with
    tooDeep | foreign | ⟨selector, member, refused⟩
  · exact .inr tooDeep
  · exact absurd native.rules foreign
  · exact .inl ((native.selectors selector member).eq_of_fault? refused)

end Sheet

end ScopedMarkup.Css
