import ScopedMarkup.Proofs.Css.Selector.Depth

/-! # Which selectors scoping accepts

Scoping asks the same of a selector that was built by hand as of one that was read: it is
composed as a selector should be, and no part of it lies under more levels than the limit.
A tree built by hand may hold a chain on the right of a combinator, and that is a level too.
-/

namespace ScopedMarkup.Css.Selector

/-! ## The levels that count -/

/-- A part of a selector with the number of levels above it that scoping counts: one for
each negation, one for each group and one for each chain on the right of a combinator that
it stands in. Going down the left of a chain is no level. -/
inductive CountedUnder (part : Selector) : Nat → Selector → Prop
  | here : CountedUnder part 0 part
  | negation {levels : Nat} {argument : Selector} (inside : CountedUnder part levels argument) :
      CountedUnder part (levels + 1) (.negation argument)
  | left {levels : Nat} {combinator : Combinator} {left right : Selector}
      (inside : CountedUnder part levels left) :
      CountedUnder part levels (.combine combinator left right)
  | right {levels : Nat} {combinator : Combinator} {left right : Selector}
      (alone : right.isChain = false) (inside : CountedUnder part levels right) :
      CountedUnder part levels (.combine combinator left right)
  | chain {levels : Nat} {combinator : Combinator} {left right : Selector}
      (chained : right.isChain = true) (inside : CountedUnder part levels right) :
      CountedUnder part (levels + 1) (.combine combinator left right)
  | group {levels : Nat} {member : Selector} {members : List Selector}
      (isMember : member ∈ members) (inside : CountedUnder part levels member) :
      CountedUnder part (levels + 1) (.group members)
  | compound {levels : Nat} {member : Selector} {members : List Selector}
      (isMember : member ∈ members) (inside : CountedUnder part levels member) :
      CountedUnder part levels (.compound members)

/-- No part lies under more levels than there are. -/
theorem CountedUnder.le_levels {part selector : Selector} {count : Nat}
    (counted : CountedUnder part count selector) : count ≤ levels selector := by
  induction counted with
  | here => exact Nat.zero_le _
  | negation _ induction => exact Nat.succ_le_succ induction
  | left _ induction => exact Nat.le_trans induction (Nat.le_max_left ..)
  | right alone _ induction =>
      rw [levels, alone, if_neg Bool.false_ne_true]
      exact Nat.le_trans induction (Nat.le_max_right ..)
  | chain chained _ induction =>
      rw [levels, if_pos chained]
      exact Nat.le_trans (Nat.succ_le_succ induction) (Nat.le_max_right ..)
  | group isMember _ induction =>
      exact Nat.succ_le_succ (Nat.le_trans induction (levels_le_levelsIn isMember))
  | compound isMember _ induction =>
      exact Nat.le_trans induction (levels_le_levelsIn isMember)

/-- The side of a chain that goes deeper holds a part under all levels of the chain. -/
theorem exists_countedUnder_combine {combinator : Combinator} {left right : Selector}
    (inLeft : ∃ part, CountedUnder part (levels left) left)
    (inRight : ∃ part, CountedUnder part (levels right) right) :
    ∃ part, CountedUnder part (levels (.combine combinator left right))
      (.combine combinator left right) := by
  obtain ⟨leftPart, leftCounted⟩ := inLeft
  obtain ⟨rightPart, rightCounted⟩ := inRight
  have onRight : CountedUnder rightPart (if right.isChain then levels right + 1 else levels right)
      (.combine combinator left right) := by
    cases chained : right.isChain with
    | true => exact .chain chained rightCounted
    | false => exact .right chained rightCounted
  rw [levels]
  cases Nat.le_total (levels left) (if right.isChain then levels right + 1 else levels right) with
  | inl le =>
      rw [Nat.max_eq_right le]
      exact ⟨rightPart, onRight⟩
  | inr le =>
      rw [Nat.max_eq_left le]
      exact ⟨leftPart, .left leftCounted⟩

mutual
/-- In a composed selector some part lies under all its levels, for no group is empty. -/
theorem exists_countedUnder_levels : ∀ selector : Selector, Composed selector →
    ∃ part, CountedUnder part (levels selector) selector
  | .simple part, _ => ⟨.simple part, .here⟩
  | .negation argument, composed => by
      obtain ⟨part, counted⟩ := exists_countedUnder_levels argument composed
      exact ⟨part, .negation counted⟩
  | .combine _ left right, composed =>
      exists_countedUnder_combine (exists_countedUnder_levels left composed.1)
        (exists_countedUnder_levels right composed.2)
  | .group members, composed => by
      obtain ⟨member, isMember, deepest⟩ := exists_levels_eq_levelsIn composed.1
      obtain ⟨part, counted⟩ := countedUnder_levels_of_mem members composed.2 member isMember
      rw [levels, ← deepest]
      exact ⟨part, .group isMember counted⟩
  | .compound members, composed => by
      obtain ⟨member, isMember, deepest⟩ := exists_levels_eq_levelsIn composed.1
      obtain ⟨part, counted⟩ := countedUnder_levels_of_mem members composed.2.2 member isMember
      rw [levels, ← deepest]
      exact ⟨part, .compound isMember counted⟩

theorem countedUnder_levels_of_mem : ∀ members : List Selector, ComposedAll members →
    ∀ member ∈ members, ∃ part, CountedUnder part (levels member) member
  | first :: rest, composed, _, isMember => by
      cases isMember with
      | head => exact exists_countedUnder_levels first composed.1
      | tail _ isMember => exact countedUnder_levels_of_mem rest composed.2 _ isMember
end

theorem Composed.levels_le_iff {selector : Selector} (composed : Composed selector)
    {limit : Nat} :
    levels selector ≤ limit ↔ ∀ part count, CountedUnder part count selector → count ≤ limit := by
  constructor
  · intro shallow part count counted
    exact Nat.le_trans counted.le_levels shallow
  · intro all
    obtain ⟨part, counted⟩ := exists_countedUnder_levels selector composed
    exact all part (levels selector) counted

/-! ## What is accepted -/

mutual
/-- A selector without a fault is composed, whatever the depth that it is checked at. -/
theorem composed_of_fault?_eq_none {limit : Nat} : ∀ {depth : Nat} (selector : Selector),
    fault? limit depth selector = none → Composed selector
  | depth, selector, faultless => by
      rw [fault?.eq_def] at faultless
      split at faultless
      · cases faultless
      · cases selector with
        | simple part => trivial
        | negation argument => exact composed_of_fault?_eq_none argument faultless
        | combine combinator left right =>
            have sides := Option.or_eq_none_iff.mp faultless
            exact ⟨composed_of_fault?_eq_none left sides.1,
              composed_of_fault?_eq_none right sides.2⟩
        | group members =>
            cases members with
            | nil => cases faultless
            | cons member rest =>
                exact ⟨List.cons_ne_nil member rest, composedAll_of_faultIn? _ faultless⟩
        | compound members =>
            cases members with
            | nil => cases faultless
            | cons member rest =>
                exact ⟨List.cons_ne_nil member rest, composedAll_of_memberFault? _ faultless⟩
        | foreign value => cases faultless

theorem composedAll_of_faultIn? {limit : Nat} : ∀ {depth : Nat} (members : List Selector),
    faultIn? limit depth members = none → ComposedAll members
  | _, [], _ => trivial
  | _, member :: rest, faultless => by
      have each := Option.or_eq_none_iff.mp faultless
      exact ⟨composed_of_fault?_eq_none member each.1, composedAll_of_faultIn? rest each.2⟩

theorem composedAll_of_memberFault? {limit : Nat} : ∀ {depth : Nat} (members : List Selector),
    memberFault? limit depth members = none →
      (∀ member ∈ members, member.isMember = true) ∧ ComposedAll members
  | _, [], _ => ⟨List.forall_mem_nil _, trivial⟩
  | _, .simple _ :: rest, faultless => by
      have others := composedAll_of_memberFault? rest faultless
      exact ⟨List.forall_mem_cons.mpr ⟨rfl, others.1⟩, trivial, others.2⟩
  | _, .negation argument :: rest, faultless => by
      have each := Option.or_eq_none_iff.mp faultless
      have others := composedAll_of_memberFault? rest each.2
      exact ⟨List.forall_mem_cons.mpr ⟨rfl, others.1⟩,
        composed_of_fault?_eq_none argument each.1, others.2⟩
end

/-- A selector that scoping accepts under a limit. -/
structure Scopable (limit : Nat) (selector : Selector) : Prop where
  composed : Composed selector
  shallow : ∀ part count, CountedUnder part count selector → count ≤ limit

theorem fault?_eq_none_iff_scopable {limit : Nat} {selector : Selector} :
    selector.fault? limit 0 = none ↔ selector.Scopable limit := by
  have shallow (composed : Composed selector) :
      selector.fault? limit 0 = none ↔ levels selector ≤ limit := by
    rw [fault?_of_composed limit 0 selector composed, Nat.zero_add, depthFault?]
    simp
  constructor
  · intro faultless
    have composed := composed_of_fault?_eq_none selector faultless
    exact ⟨composed, composed.levels_le_iff.mp ((shallow composed).mp faultless)⟩
  · intro scopable
    exact (shallow scopable.composed).mpr (scopable.composed.levels_le_iff.mpr scopable.shallow)

theorem scope_eq_ok_iff {selector : Selector} {scope out : Text} {config : Config} :
    selector.scope scope config = .ok out ↔
      scope ≠ [] ∧ selector.fault? config.maxDepth 0 = none ∧
        out = (selector.mark (config.marker scope)).render := by
  rw [Selector.scope]
  by_cases empty : scope = []
  · rw [if_pos empty]
    simp [empty]
  · rw [if_neg empty, and_iff_right empty]
    cases selector.fault? config.maxDepth 0 <;> simp [eq_comm]

/-! ## Accepted selectors can be printed -/

mutual
theorem foreign?_of_composed : ∀ selector : Selector, Composed selector →
    selector.foreign? = none
  | .simple _, _ => rfl
  | .negation argument, composed => foreign?_of_composed argument composed
  | .combine _ left right, composed => by
      rw [foreign?, foreign?_of_composed left composed.1, foreign?_of_composed right composed.2]
      rfl
  | .group members, composed => foreignIn?_of_composedAll members composed.2
  | .compound members, composed => foreignIn?_of_composedAll members composed.2.2

theorem foreignIn?_of_composedAll : ∀ members : List Selector, ComposedAll members →
    foreignIn? members = none
  | [], _ => rfl
  | member :: rest, composed => by
      rw [foreignIn?, foreign?_of_composed member composed.1,
        foreignIn?_of_composedAll rest composed.2]
      rfl
end

end ScopedMarkup.Css.Selector
