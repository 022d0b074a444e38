import ScopedMarkup.Css.Selector.Scoping
import ScopedMarkup.Proofs.Css.Selector.Form

/-! # How deep selectors nest

A selector that was read is put together as scoping wants it. The only thing that
scoping may find wrong with it is that a part of it lies under too many negations
and groups.
-/

namespace ScopedMarkup.Css.Selector

/-! ## Parts and levels -/

/-- A part of a selector with the number of levels above it: one for each negation and
one for each group that it stands in. -/
inductive LiesUnder (part : Selector) : Nat → Selector → Prop
  | here : LiesUnder part 0 part
  | negation {levels : Nat} {argument : Selector} (inside : LiesUnder part levels argument) :
      LiesUnder part (levels + 1) (.negation argument)
  | left {levels : Nat} {combinator : Combinator} {left right : Selector}
      (inside : LiesUnder part levels left) :
      LiesUnder part levels (.combine combinator left right)
  | right {levels : Nat} {combinator : Combinator} {left right : Selector}
      (inside : LiesUnder part levels right) :
      LiesUnder part levels (.combine combinator left right)
  | group {levels : Nat} {member : Selector} {members : List Selector}
      (isMember : member ∈ members) (inside : LiesUnder part levels member) :
      LiesUnder part (levels + 1) (.group members)
  | compound {levels : Nat} {member : Selector} {members : List Selector}
      (isMember : member ∈ members) (inside : LiesUnder part levels member) :
      LiesUnder part levels (.compound members)

mutual
/-- The most levels above a part, as scoping counts them: for a chain on the right of a
combinator it counts one more. -/
def levels : Selector → Nat
  | .simple _ | .foreign _ => 0
  | .negation argument => levels argument + 1
  | .combine _ left right =>
      max (levels left) (if right.isChain then levels right + 1 else levels right)
  | .group members => levelsIn members + 1
  | .compound members => levelsIn members

def levelsIn : List Selector → Nat
  | [] => 0
  | member :: rest => max (levels member) (levelsIn rest)
end

theorem levels_le_levelsIn {member : Selector} {members : List Selector}
    (isMember : member ∈ members) : levels member ≤ levelsIn members := by
  induction members with
  | nil => cases isMember
  | cons first rest induction =>
      rw [levelsIn]
      rcases List.mem_cons.mp isMember with rfl | isMember
      · exact Nat.le_max_left ..
      · exact Nat.le_trans (induction isMember) (Nat.le_max_right ..)

theorem exists_levels_eq_levelsIn {members : List Selector} (nonempty : members ≠ []) :
    ∃ member ∈ members, levels member = levelsIn members := by
  induction members with
  | nil => exact absurd rfl nonempty
  | cons first rest induction =>
      rw [levelsIn]
      rcases Nat.le_total (levelsIn rest) (levels first) with le | le
      · exact ⟨first, List.mem_cons_self, (Nat.max_eq_left le).symm⟩
      · rw [Nat.max_eq_right le]
        cases rest with
        | nil => exact ⟨first, List.mem_cons_self, Nat.eq_zero_of_le_zero le⟩
        | cons second rest =>
            rcases induction (List.cons_ne_nil _ _) with ⟨member, isMember, equal⟩
            exact ⟨member, List.mem_cons_of_mem _ isMember, equal⟩

/-- No part of a selector lies under more levels than scoping counts. -/
theorem LiesUnder.le_levels {part selector : Selector} {count : Nat}
    (lies : LiesUnder part count selector) : count ≤ levels selector := by
  induction lies with
  | here => exact Nat.zero_le _
  | negation _ induction => exact Nat.succ_le_succ induction
  | left _ induction => exact Nat.le_trans induction (Nat.le_max_left ..)
  | right _ induction =>
      refine Nat.le_trans ?_ (Nat.le_max_right ..)
      split <;> omega
  | group isMember _ induction =>
      exact Nat.succ_le_succ (Nat.le_trans induction (levels_le_levelsIn isMember))
  | compound isMember _ induction =>
      exact Nat.le_trans induction (levels_le_levelsIn isMember)

theorem Formed.isChain_eq_false {selector : Selector} (formed : Formed .compound selector) :
    selector.isChain = false := by
  cases formed with
  | lone form => cases form <;> rfl
  | compound => rfl

theorem ne_nil_of_several {members : List Selector} (several : 2 ≤ members.length) :
    members ≠ [] := by
  rintro rfl
  simp at several

/-- In a selector that was read, some part lies under all the levels that scoping
counts, for no chain stands on the right of a combinator. -/
theorem Formed.exists_liesUnder_levels {rank : Rank} {selector : Selector}
    (formed : Formed rank selector) : ∃ part, LiesUnder part (levels selector) selector := by
  induction formed with
  | simple _ => exact ⟨_, .here⟩
  | negation _ argument =>
      rcases argument with ⟨part, inside⟩
      exact ⟨part, .negation inside⟩
  | lone _ member => exact member
  | @compound members several _ _ each =>
      rcases exists_levels_eq_levelsIn (ne_nil_of_several several) with ⟨member, isMember, equal⟩
      rcases each member isMember with ⟨part, inside⟩
      rw [levels, ← equal]
      exact ⟨part, .compound isMember inside⟩
  | head _ compound => exact compound
  | @combine _ left right _ rightForm leftInside rightInside =>
      rcases leftInside with ⟨leftPart, leftInside⟩
      rcases rightInside with ⟨rightPart, rightInside⟩
      -- A formed chain grows on the left, so the right side counts no level of its own.
      rw [levels, if_neg (by simp [rightForm.isChain_eq_false])]
      rcases Nat.le_total (levels right) (levels left) with le | le
      · rw [Nat.max_eq_left le]
        exact ⟨leftPart, .left leftInside⟩
      · rw [Nat.max_eq_right le]
        exact ⟨rightPart, .right rightInside⟩
  | single _ chain => exact chain
  | @group members several _ each =>
      rcases exists_levels_eq_levelsIn (ne_nil_of_several several) with ⟨member, isMember, equal⟩
      rcases each member isMember with ⟨part, inside⟩
      rw [levels, ← equal]
      exact ⟨part, .group isMember inside⟩

/-- Some part of the selector lies under more levels than the limit. -/
def NestsDeeper (limit : Nat) (selector : Selector) : Prop :=
  ∃ part count, LiesUnder part count selector ∧ limit < count

theorem Formed.nestsDeeper_iff {rank : Rank} {selector : Selector} (formed : Formed rank selector)
    {limit : Nat} : selector.NestsDeeper limit ↔ limit < levels selector := by
  constructor
  · rintro ⟨part, count, lies, deep⟩
    exact Nat.lt_of_lt_of_le deep lies.le_levels
  · intro deep
    rcases formed.exists_liesUnder_levels with ⟨part, lies⟩
    exact ⟨part, levels selector, lies, deep⟩

/-! ## What scoping accepts but for depth -/

/-- What may stand in a compound. -/
def isMember : Selector → Bool
  | .simple _ | .negation _ => true
  | _ => false

mutual
/-- No group and no compound is empty, a compound has only members of its own, and
nothing is foreign. -/
def Composed : Selector → Prop
  | .simple _ => True
  | .negation argument => Composed argument
  | .combine _ left right => Composed left ∧ Composed right
  | .group members => members ≠ [] ∧ ComposedAll members
  | .compound members =>
      members ≠ [] ∧ (∀ member ∈ members, member.isMember = true) ∧ ComposedAll members
  | .foreign _ => False

def ComposedAll : List Selector → Prop
  | [] => True
  | member :: rest => Composed member ∧ ComposedAll rest
end

theorem composedAll_iff {members : List Selector} :
    ComposedAll members ↔ ∀ member ∈ members, Composed member := by
  induction members with
  | nil => simp [ComposedAll]
  | cons member rest induction => rw [ComposedAll, induction, List.forall_mem_cons]

theorem Formed.composed {rank : Rank} {selector : Selector} (formed : Formed rank selector) :
    Composed selector := by
  induction formed with
  | simple _ => trivial
  | negation _ argument => exact argument
  | lone _ member => exact member
  | @compound members several forms _ each =>
      refine ⟨ne_nil_of_several several, ?_, composedAll_iff.mpr each⟩
      intro member inside
      cases forms member inside <;> rfl
  | head _ compound => exact compound
  | combine _ _ left right => exact ⟨left, right⟩
  | single _ chain => exact chain
  | group several _ each =>
      exact ⟨ne_nil_of_several several, composedAll_iff.mpr each⟩

/-! ## The fault of a composed selector -/

/-- The fault of a part at this depth. -/
def depthFault? (limit depth : Nat) : Option ScopeError :=
  if depth > limit then some (.selectorTooDeep limit) else none

theorem depthFault?_or (limit left right : Nat) :
    (depthFault? limit left).or (depthFault? limit right) =
      depthFault? limit (max left right) := by
  unfold depthFault?
  grind

/-- A part that is too deep makes what lies deeper too deep. -/
theorem depthFault?_of_le {limit depth deepest : Nat} (le : depth ≤ deepest) :
    (if depth > limit then some (.selectorTooDeep limit) else depthFault? limit deepest) =
      depthFault? limit deepest := by
  unfold depthFault?
  grind

mutual
/-- Scoping refuses a composed selector only for its depth. -/
theorem fault?_of_composed (limit : Nat) : ∀ (depth : Nat) (selector : Selector),
    Composed selector → fault? limit depth selector = depthFault? limit (depth + levels selector)
  | depth, .simple _, _ => by
      rw [fault?, levels, Nat.add_zero, depthFault?]
  | depth, .negation argument, composed => by
      rw [fault?, fault?_of_composed limit (depth + 1) argument composed, levels]
      rw [depthFault?_of_le (by omega), Nat.add_right_comm, Nat.add_assoc]
  | depth, .combine _ left right, composed => by
      -- The level of a chain on the right is in the depth there and in the count here.
      have deeper : (if right.isChain then depth + 1 else depth) + levels right =
          depth + if right.isChain then levels right + 1 else levels right := by
        split <;> omega
      rw [fault?, fault?_of_composed limit depth left composed.1,
        fault?_of_composed limit _ right composed.2, deeper, depthFault?_or, Nat.add_max_add_left,
        levels]
      exact depthFault?_of_le (Nat.le_add_right ..)
  | depth, .group (member :: rest), composed => by
      rw [fault?, faultIn?_of_composed limit (depth + 1) _ composed.1 composed.2, levels]
      rw [depthFault?_of_le (by omega), Nat.add_right_comm, Nat.add_assoc]
  | depth, .compound (member :: rest), composed => by
      rw [fault?, levels]
      -- Without a negation in it, a compound is checked at its own depth only.
      split
      · rename_i deep
        rw [depthFault?, if_pos (by omega)]
      · rename_i shallow
        exact memberFault?_of_composed limit (member :: rest) (Nat.le_of_not_lt shallow)
          composed.2.1 composed.2.2

theorem faultIn?_of_composed (limit : Nat) : ∀ (depth : Nat) (members : List Selector),
    members ≠ [] → ComposedAll members →
      faultIn? limit depth members = depthFault? limit (depth + levelsIn members)
  | depth, member :: rest, _, composed => by
      rw [faultIn?, fault?_of_composed limit depth member composed.1, levelsIn]
      by_cases ends : rest = []
      · rw [ends, faultIn?, levelsIn, Nat.max_zero, Option.or_none]
      · rw [faultIn?_of_composed limit depth rest ends composed.2, depthFault?_or,
          Nat.add_max_add_left]

theorem memberFault?_of_composed (limit : Nat) : ∀ {depth : Nat} (members : List Selector),
    depth ≤ limit → (∀ member ∈ members, member.isMember = true) → ComposedAll members →
      memberFault? limit (depth + 1) members = depthFault? limit (depth + levelsIn members)
  | _, [], shallow, _, _ => (if_neg (Nat.not_lt_of_le shallow)).symm
  | _, .simple _ :: rest, shallow, are, composed => by
      rw [memberFault?, memberFault?_of_composed limit rest shallow
        (List.forall_mem_cons.mp are).2 composed.2, levelsIn, levels, Nat.zero_max]
  | depth, .negation argument :: rest, shallow, are, composed => by
      rw [memberFault?, fault?_of_composed limit (depth + 1) argument composed.1,
        memberFault?_of_composed limit rest shallow (List.forall_mem_cons.mp are).2 composed.2,
        depthFault?_or, levelsIn, levels, ← Nat.add_max_add_left, Nat.add_right_comm, Nat.add_assoc]
  | _, .combine .. :: _, _, are, _ | _, .group _ :: _, _, are, _
  | _, .compound _ :: _, _, are, _ | _, .foreign _ :: _, _, are, _ =>
      absurd (are _ List.mem_cons_self) Bool.false_ne_true
end

/-! ## The fault of a selector that was read -/

section Formed

variable {rank : Rank} {selector : Selector} {limit : Nat}

theorem Formed.fault?_eq (formed : Formed rank selector) :
    selector.fault? limit 0 = depthFault? limit (levels selector) := by
  rw [fault?_of_composed limit 0 selector formed.composed, Nat.zero_add]

theorem Formed.fault?_eq_none_iff (formed : Formed rank selector) :
    selector.fault? limit 0 = none ↔ ¬ selector.NestsDeeper limit := by
  rw [formed.fault?_eq, formed.nestsDeeper_iff]
  simp [depthFault?]

theorem Formed.eq_of_fault? (formed : Formed rank selector) {error : ScopeError}
    (found : selector.fault? limit 0 = some error) : error = .selectorTooDeep limit := by
  rw [formed.fault?_eq, depthFault?] at found
  split at found
  · exact (Option.some.inj found).symm
  · cases found

end Formed

end ScopedMarkup.Css.Selector
