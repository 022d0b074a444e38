import ScopedMarkup.Foreign

namespace ScopedMarkup.Css

/-! Selectors: simple selectors, negations, compounds that describe one element,
chains of combinators, and comma groups. -/

inductive Simple where
  | any
  | type (name : Text)
  | className (name : Text)
  | id (name : Text)
  /-- The value keeps its quotes. -/
  | attribute (name : Text) (operator value : Option Text)
  /-- Such as `:hover` or `::before`, with its colons apart. -/
  | pseudo (separator name : Text)
  /-- Such as `:nth-child(2n+1)`, with the argument word for word. -/
  | function (separator name argument : Text)
deriving DecidableEq, Repr

inductive Combinator where
  | descendant
  | child
  | adjacent
  | sibling
deriving DecidableEq, Repr

inductive Selector where
  | simple (part : Simple)
  | negation (argument : Selector)
  /-- A chain grows on the left: `a > b c` has `a > b` on the left of `c`. -/
  | combine (combinator : Combinator) (left right : Selector)
  | group (members : List Selector)
  | compound (members : List Selector)
  | foreign (value : Foreign)
deriving Repr

namespace Simple

def isPseudo : Simple → Bool
  | .pseudo .. | .function .. => true
  | _ => false

/-- The name that messages use. -/
def kind : Simple → Text
  | .any => "AllSelector"
  | .type _ => "ElementSelector"
  | .className _ => "ClassSelector"
  | .id _ => "IdSelector"
  | .attribute .. => "AttributeSelector"
  | .pseudo .. => "PseudoElementSelector"
  | .function .. => "PseudoParamElementSelector"

end Simple

def Combinator.kind : Combinator → Text
  | .descendant => "DescendantSelector"
  | .child => "ChildSelector"
  | .adjacent => "AdjacentSelector"
  | .sibling => "SiblingSelector"

namespace Selector

/-- The name that messages use. -/
def kind : Selector → Text
  | .simple part => part.kind
  | .negation _ => "NotSelector"
  | .combine combinator _ _ => combinator.kind
  | .group _ => "GroupSelector"
  | .compound _ => "ComboSelector"
  | .foreign value => value.kind

def isChain : Selector → Bool
  | .combine .. => true
  | _ => false

/-- Pseudos and negations, before which the marker of a compound stands. -/
def isPseudo : Selector → Bool
  | .simple part => part.isPseudo
  | .negation _ => true
  | _ => false

/-! Equality of selectors is decided by walking both trees. -/

mutual
def same : Selector → Selector → Bool
  | .simple left, .simple right => left = right
  | .negation left, .negation right => same left right
  | .combine combinator left right, .combine combinator' left' right' =>
      combinator = combinator' && same left left' && same right right'
  | .group left, .group right => sameAll left right
  | .compound left, .compound right => sameAll left right
  | .foreign left, .foreign right => left = right
  | _, _ => false

def sameAll : List Selector → List Selector → Bool
  | [], [] => true
  | left :: leftRest, right :: rightRest => same left right && sameAll leftRest rightRest
  | _, _ => false
end

mutual
theorem same_iff : ∀ left right : Selector, same left right = true ↔ left = right
  | .simple _, right => by cases right <;> simp [same]
  | .negation left, right => by cases right <;> simp [same, same_iff left]
  | .combine _ left right, other => by
      cases other <;> simp [same, same_iff left, same_iff right, and_assoc]
  | .group members, right => by cases right <;> simp [same, sameAll_iff members]
  | .compound members, right => by cases right <;> simp [same, sameAll_iff members]
  | .foreign _, right => by cases right <;> simp [same]

theorem sameAll_iff : ∀ left right : List Selector, sameAll left right = true ↔ left = right
  | [], right => by cases right <;> simp [sameAll]
  | left :: leftRest, right => by
      cases right <;> simp [sameAll, same_iff left, sameAll_iff leftRest]
end

instance : DecidableEq Selector :=
  fun left right => decidable_of_iff (same left right = true) (same_iff left right)

end Selector

end ScopedMarkup.Css
