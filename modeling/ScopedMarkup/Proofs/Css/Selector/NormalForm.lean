import ScopedMarkup.Proofs.Css.Selector.Depth
import ScopedMarkup.Proofs.Css.Selector.Reading

/-! # The normal form of selectors that were read

The reader puts selectors together in one way only: chains grow on the left, compounds and
groups have several members, groups stand at the top or in a negation, and what opens with
`:not(` is a negation and no functional pseudo.
-/

namespace ScopedMarkup.Css.Selector

/-! ## Parts of selectors -/

/-- The selector itself, or what stands in it at any depth. -/
def IsPart (part selector : Selector) : Prop := ∃ levels, LiesUnder part levels selector

/-- What stands in a selector with nothing in between. -/
inductive StandsIn (part : Selector) : Selector → Prop
  | argument : StandsIn part (.negation part)
  | left {combinator : Combinator} {right : Selector} :
      StandsIn part (.combine combinator part right)
  | right {combinator : Combinator} {left : Selector} :
      StandsIn part (.combine combinator left part)
  | groupMember {members : List Selector} (isMember : part ∈ members) :
      StandsIn part (.group members)
  | compoundMember {members : List Selector} (isMember : part ∈ members) :
      StandsIn part (.compound members)

def isGroup : Selector → Bool
  | .group _ => true
  | _ => false

/-- What may stand on the right of a combinator: a compound, or what may be a member of one. -/
def isOperand : Selector → Bool
  | .compound _ => true
  | selector => selector.isMember

/-- The normal form of a selector, in all its parts. -/
structure Normal (selector : Selector) : Prop where
  compounds : ∀ members, IsPart (.compound members) selector →
    2 ≤ members.length ∧ ∀ member ∈ members, member.isMember = true
  groups : ∀ members, IsPart (.group members) selector →
    2 ≤ members.length ∧ ∀ member ∈ members, member.isGroup = false
  groupsInNegations : ∀ members outer, IsPart outer selector →
    StandsIn (.group members) outer → outer = .negation (.group members)
  chains : ∀ combinator left right, IsPart (.combine combinator left right) selector →
    left.isGroup = false ∧ right.isOperand = true
  negations : ∀ name argument, IsPart (.simple (.function [':'] name argument)) selector →
    name.map Char.toLower ≠ "not"
  native : ∀ value, ¬ IsPart (.foreign value) selector

/-! ## What stands in a formed selector -/

/-- What the grammar wants of what stands in a selector. -/
def WellMade : Selector → Prop
  | .simple part => part.Written
  | .negation argument => Formed .whole argument
  | .combine _ left right => Formed .chain left ∧ Formed .compound right
  | .group members => 2 ≤ members.length ∧ ∀ member ∈ members, Formed .chain member
  | .compound members => 2 ≤ members.length ∧ ∀ member ∈ members, Formed .member member
  | .foreign _ => False

theorem Formed.wellMade {rank : Rank} {selector : Selector} (formed : Formed rank selector) :
    selector.WellMade := by
  induction formed with
  | simple written => exact written
  | negation form _ => exact form
  | lone _ member => exact member
  | compound several forms _ _ => exact ⟨several, forms⟩
  | head _ compound => exact compound
  | combine leftForm rightForm _ _ => exact ⟨leftForm, rightForm⟩
  | single _ chain => exact chain
  | group several forms _ => exact ⟨several, forms⟩

/-- Each part of a formed selector is formed, at its own rank. -/
theorem LiesUnder.exists_formed {part selector : Selector} {count : Nat}
    (lies : LiesUnder part count selector) {rank : Rank} (formed : Formed rank selector) :
    ∃ partRank, Formed partRank part := by
  induction lies generalizing rank with
  | here => exact ⟨rank, formed⟩
  | negation _ induction => exact induction formed.wellMade
  | left _ induction => exact induction formed.wellMade.1
  | right _ induction => exact induction formed.wellMade.2
  | group isMember _ induction => exact induction (formed.wellMade.2 _ isMember)
  | compound isMember _ induction => exact induction (formed.wellMade.2 _ isMember)

theorem Formed.isMember_eq_true {member : Selector} (formed : Formed .member member) :
    member.isMember = true := by
  cases formed with
  | simple => rfl
  | negation => rfl

theorem Formed.isOperand_eq_true {operand : Selector} (formed : Formed .compound operand) :
    operand.isOperand = true := by
  cases formed with
  | lone form => cases form <;> rfl
  | compound => rfl

theorem Formed.isGroup_eq_false {chain : Selector} (formed : Formed .chain chain) :
    chain.isGroup = false := by
  cases formed with
  | head form =>
      cases form with
      | lone form => cases form <;> rfl
      | compound => rfl
  | combine => rfl

/-- A group stands in no other formed selector than a negation. -/
theorem eq_negation_of_standsIn {members : List Selector} {outer : Selector}
    (wellMade : outer.WellMade) (stands : StandsIn (.group members) outer) :
    outer = .negation (.group members) := by
  cases stands with
  | argument => rfl
  | left => exact absurd wellMade.1.isGroup_eq_false (by simp [isGroup])
  | right => exact absurd (wellMade.2.head).isGroup_eq_false (by simp [isGroup])
  | groupMember isMember =>
      exact absurd (wellMade.2 _ isMember).isGroup_eq_false (by simp [isGroup])
  | compoundMember isMember =>
      exact absurd (wellMade.2 _ isMember).isMember_eq_true (by simp [Selector.isMember])

theorem Formed.normal {rank : Rank} {selector : Selector} (formed : Formed rank selector) :
    selector.Normal := by
  have wellMade {part : Selector} (isPart : IsPart part selector) : part.WellMade := by
    obtain ⟨count, lies⟩ := isPart
    obtain ⟨partRank, partFormed⟩ := lies.exists_formed formed
    exact partFormed.wellMade
  constructor
  · intro members isPart
    have made := wellMade isPart
    exact ⟨made.1, fun member isMember => (made.2 member isMember).isMember_eq_true⟩
  · intro members isPart
    have made := wellMade isPart
    exact ⟨made.1, fun member isMember => (made.2 member isMember).isGroup_eq_false⟩
  · intro members outer isPart stands
    exact eq_negation_of_standsIn (wellMade isPart) stands
  · intro combinator left right isPart
    have made := wellMade isPart
    exact ⟨made.1.isGroup_eq_false, made.2.isOperand_eq_true⟩
  · intro name argument isPart isNot
    cases wellMade isPart with
    | function _ _ noNegation => exact noNegation ⟨rfl, isNot⟩
  · intro value isPart
    exact wellMade isPart

/-- Whatever the text, the selector that is read from it is in normal form. -/
theorem normal_of_read {config : Config} {text : Text} {selector : Selector}
    (read : Selector.read config text = .ok selector) : selector.Normal :=
  (formed_of_ofClean read).1.normal

/-- A negation in capitals is one too, but two colons make no negation. -/
theorem normal_of_read_two_colons :
    ∃ selector, Selector.read .standard "a>b:nOt(c d,*)::not(e)" = .ok selector ∧
      selector = .combine .child (.simple (.type "a")) (.compound [.simple (.type "b"),
        .negation (.group [.combine .descendant (.simple (.type "c")) (.simple (.type "d")),
          .simple .any]), .simple (.function "::" "not" "e")]) ∧ selector.Normal := by
  have read : Selector.read .standard "a>b:nOt(c d,*)::not(e)" =
      .ok (.combine .child (.simple (.type "a")) (.compound [.simple (.type "b"),
        .negation (.group [.combine .descendant (.simple (.type "c")) (.simple (.type "d")),
          .simple .any]), .simple (.function "::" "not" "e")])) := by
    decide +kernel
  exact ⟨_, read, rfl, normal_of_read read⟩

end ScopedMarkup.Css.Selector
