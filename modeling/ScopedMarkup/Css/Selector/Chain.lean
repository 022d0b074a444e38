import ScopedMarkup.Css.Selector.Basic

namespace ScopedMarkup.Css.Selector

/-! A chain of combinators taken apart: the leftmost selector, and for each
combinator from left to right the selector on its right. -/

/-- One step of a chain. -/
structure Link where
  combinator : Combinator
  right : Selector
deriving DecidableEq, Repr

/-- Down the left of a chain to the selector that it begins with. The links are
passed from the last one to the first, behind those that were passed before. -/
def descendLeft (passed : List Link) : Selector → Selector × List Link
  | .combine combinator left right => descendLeft (passed ++ [⟨combinator, right⟩]) left
  | selector => (selector, passed)

def unchain (selector : Selector) : Selector × List Link :=
  let (head, passed) := descendLeft [] selector
  (head, passed.reverse)

/-- The chain that begins with a selector and goes on with these links. -/
def ofChain (head : Selector) (links : List Link) : Selector :=
  links.foldl (fun left link => combine link.combinator left link.right) head

/-- What holds of all selectors that are no chains, and of a chain if it holds of
its left side, holds of every selector. -/
@[elab_as_elim]
theorem chainInduction {motive : Selector → Prop}
    (head : ∀ selector, selector.isChain = false → motive selector)
    (link : ∀ combinator left right, motive left → motive (.combine combinator left right)) :
    ∀ selector, motive selector
  | .combine combinator left right =>
      link combinator left right (chainInduction head link left)
  | .simple _ | .negation _ | .group _ | .compound _ | .foreign _ => head _ rfl

theorem descendLeft_of_not_isChain {selector : Selector} (alone : selector.isChain = false)
    (passed : List Link) : descendLeft passed selector = (selector, passed) := by
  cases selector with
  | combine => cases alone
  | _ => rfl

/-- What was passed before stays in front of what is passed later. -/
theorem descendLeft_eq (passed : List Link) (selector : Selector) :
    descendLeft passed selector =
      ((descendLeft [] selector).1, passed ++ (descendLeft [] selector).2) := by
  induction selector using chainInduction generalizing passed with
  | head selector alone => simp [descendLeft_of_not_isChain alone]
  | link combinator left right induction =>
      rw [descendLeft, induction, descendLeft, List.nil_append, induction [⟨combinator, right⟩],
        List.append_assoc]

theorem unchain_of_not_isChain {selector : Selector} (alone : selector.isChain = false) :
    unchain selector = (selector, []) := by
  rw [unchain, descendLeft_of_not_isChain alone]
  rfl

/-- The last combinator of a chain gives the last link. -/
theorem unchain_combine (combinator : Combinator) (left right : Selector) :
    unchain (.combine combinator left right) =
      ((unchain left).1, (unchain left).2 ++ [⟨combinator, right⟩]) := by
  rw [unchain, descendLeft, descendLeft_eq]
  simp [unchain]

/-- Taking a chain apart loses nothing. -/
theorem ofChain_unchain (selector : Selector) :
    ofChain (unchain selector).1 (unchain selector).2 = selector := by
  induction selector using chainInduction with
  | head selector alone =>
      rw [unchain_of_not_isChain alone]
      rfl
  | link combinator left right induction =>
      rw [unchain_combine, ofChain, List.foldl_append]
      exact congrArg (combine combinator · right) induction

end ScopedMarkup.Css.Selector
