import ScopedMarkup.Proofs.Css.Selector.Marking

/-! # What selectors match

The elements that a selector matches in a finite forest, for any meaning of its
simple selectors. A marked selector matches only elements that carry the marker,
and where all elements carry it, it matches what the selector matched before.
-/

namespace ScopedMarkup.Css

/-- A finite forest with ordered children. Its elements are numbered in an order
in which parents come before their children and siblings from first to last. -/
structure Forest where
  size : Nat
  parent? : Fin size → Option (Fin size)
  parent_lt : ∀ child parent, parent? child = some parent → parent < child

namespace Forest

variable (forest : Forest)

abbrev Element : Type := Fin forest.size

/-- The elements above an element, its parent first. -/
inductive Above : forest.Element → forest.Element → Prop
  | parent {upper lower : forest.Element} (parent : forest.parent? lower = some upper) :
      Above upper lower
  | further {upper middle lower : forest.Element} (above : Above upper middle)
      (parent : forest.parent? lower = some middle) : Above upper lower

/-- An earlier child of the same parent, or an earlier root. -/
def Before (earlier later : forest.Element) : Prop :=
  forest.parent? earlier = forest.parent? later ∧ earlier < later

/-- How the element that the left side of a combinator matches lies to the one
that the right side matches. -/
def Related : Combinator → forest.Element → forest.Element → Prop
  | .descendant, left, right => forest.Above left right
  | .child, left, right => forest.parent? right = some left
  | .sibling, left, right => forest.Before left right
  | .adjacent, left, right =>
      forest.Before left right ∧
        ∀ between, forest.Before left between → ¬ forest.Before between right

end Forest

namespace Selector

section Matching

variable {forest : Forest} (holds : Simple → forest.Element → Prop)

mutual
/-- Whether a selector matches an element, where `holds` says which elements each
type, class, id, attribute and pseudo selects. -/
def Matches : Selector → forest.Element → Prop
  | .simple .any, _ => True
  | .simple part, element => holds part element
  | .negation argument, element => ¬ Matches argument element
  | .combine combinator left right, element =>
      Matches right element ∧
        ∃ other, forest.Related combinator other element ∧ Matches left other
  | .group members, element => MatchesAny members element
  | .compound members, element => MatchesAll members element
  | .foreign _, _ => False

def MatchesAny : List Selector → forest.Element → Prop
  | [], _ => False
  | member :: rest, element => Matches member element ∨ MatchesAny rest element

def MatchesAll : List Selector → forest.Element → Prop
  | [], _ => True
  | member :: rest, element => Matches member element ∧ MatchesAll rest element
end

variable {holds} {marker : Text}

theorem matches_marked (element : forest.Element) :
    Matches holds (marked marker) element ↔ holds (.attribute marker none none) element := Iff.rfl

theorem matches_negation (argument : Selector) (element : forest.Element) :
    Matches holds (.negation argument) element ↔ ¬ Matches holds argument element := Iff.rfl

theorem matches_pair (first second : Selector) (element : forest.Element) :
    Matches holds (.compound [first, second]) element ↔
      Matches holds first element ∧ Matches holds second element := by
  change _ ∧ _ ∧ True ↔ _
  rw [and_true]

/-- The marker is one more condition of a compound, wherever it stands. -/
theorem matchesAll_insertMarker (members : List Selector) (element : forest.Element) :
    MatchesAll holds (insertMarker marker members) element ↔
      Matches holds (marked marker) element ∧ MatchesAll holds members element := by
  induction members with
  | nil => rfl
  | cons member rest induction =>
      rw [insertMarker]
      split
      · rfl
      · rw [MatchesAll, induction, MatchesAll]
        exact and_left_comm

theorem matches_mark_simple {part : Simple} (proper : part ≠ .any) (element : forest.Element) :
    Matches holds (mark marker (.simple part)) element ↔
      Matches holds (marked marker) element ∧ Matches holds (.simple part) element := by
  rw [mark_simple proper]
  split
  · exact matches_pair _ _ element
  · rw [matches_pair]
    exact and_comm

/-! ## Only marked elements are matched -/

mutual
theorem carries_of_matches_mark : ∀ (selector : Selector) (element : forest.Element),
    Matches holds (mark marker selector) element → holds (.attribute marker none none) element
  | .simple part, element, found => by
      by_cases proper : part = .any
      · subst proper
        exact found
      · exact ((matches_mark_simple proper element).mp found).1
  | .negation argument, element, found => found.1
  | .combine combinator left right, element, found =>
      carries_of_matches_mark right element found.1
  | .group members, element, found => carries_of_matchesAny_markAll members element found
  | .compound members, element, found =>
      ((matchesAll_insertMarker (markArguments marker members) element).mp found).1
  | .foreign _, _, found => found.elim

theorem carries_of_matchesAny_markAll : ∀ (members : List Selector) (element : forest.Element),
    MatchesAny holds (markAll marker members) element →
      holds (.attribute marker none none) element
  | [], _, found => found.elim
  | member :: rest, element, found =>
      found.elim (carries_of_matches_mark member element)
        (carries_of_matchesAny_markAll rest element)
end

/-! ## Where all elements are marked -/

mutual
theorem matches_mark_iff (all : ∀ element, holds (.attribute marker none none) element) :
    ∀ (selector : Selector) (element : forest.Element),
      Matches holds (mark marker selector) element ↔ Matches holds selector element
  | .simple part, element => by
      by_cases proper : part = .any
      · subst proper
        exact ⟨fun _ => trivial, fun _ => all element⟩
      · rw [matches_mark_simple proper, matches_marked]
        exact and_iff_right (all element)
  | .negation argument, element => by
      rw [mark, matches_pair, matches_marked, matches_negation, matches_negation,
        matches_mark_iff all argument element]
      exact and_iff_right (all element)
  | .combine combinator left right, element => by
      have leftSame (other : forest.Element) := matches_mark_iff all left other
      rw [mark, Matches, Matches, matches_mark_iff all right element]
      simp only [leftSame]
  | .group members, element => by
      rw [mark, Matches, Matches, matchesAny_markAll_iff all members element]
  | .compound members, element => by
      rw [mark, Matches, Matches, matchesAll_insertMarker, matches_marked,
        matchesAll_markArguments_iff all members element]
      exact and_iff_right (all element)
  | .foreign _, _ => Iff.rfl

theorem matchesAny_markAll_iff (all : ∀ element, holds (.attribute marker none none) element) :
    ∀ (members : List Selector) (element : forest.Element),
      MatchesAny holds (markAll marker members) element ↔ MatchesAny holds members element
  | [], _ => Iff.rfl
  | member :: rest, element => by
      rw [markAll, MatchesAny, MatchesAny, matches_mark_iff all member element,
        matchesAny_markAll_iff all rest element]

theorem matches_markArgument_iff (all : ∀ element, holds (.attribute marker none none) element) :
    ∀ (member : Selector) (element : forest.Element),
      Matches holds (withArgument (mark marker) member) element ↔ Matches holds member element
  | .negation argument, element => by
      rw [withArgument, matches_negation, matches_negation, matches_mark_iff all argument element]
  | .simple _, _ | .combine _ _ _, _ | .group _, _ | .compound _, _ | .foreign _, _ => Iff.rfl

theorem matchesAll_markArguments_iff
    (all : ∀ element, holds (.attribute marker none none) element) :
    ∀ (members : List Selector) (element : forest.Element),
      MatchesAll holds (markArguments marker members) element ↔ MatchesAll holds members element
  | [], _ => Iff.rfl
  | member :: rest, element => by
      rw [markArguments_cons, MatchesAll, MatchesAll, matches_markArgument_iff all member element,
        matchesAll_markArguments_iff all rest element]
end

end Matching

end Selector

end ScopedMarkup.Css
