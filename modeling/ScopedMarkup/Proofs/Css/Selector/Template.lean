import ScopedMarkup.Proofs.Css.Selector.Acceptance
import ScopedMarkup.Proofs.Css.Selector.Marking
import ScopedMarkup.Proofs.Text.Template

/-! # Where the markers stand in a scoped text

Scoping writes a text with a marker for each element that a selector speaks of. All else in
that text is decided by the selector alone: `Selector.template` is the text with gaps, and
the text under any scope is the template with its gaps filled.
-/

namespace ScopedMarkup.Css.Selector

open Template (ofText gap)

/-! ## The template of a selector -/

mutual
/-- The text of a scoped selector with a gap in place of each marker. -/
def template : Selector → Template
  | .simple .any => gap
  | .simple part =>
      if part.isPseudo then gap ++ ofText part.render else ofText part.render ++ gap
  | .negation argument => gap ++ ofText ":not(" ++ template argument ++ ofText [')']
  | .combine combinator left right =>
      template left ++ ofText combinator.join ++ template right
  | .group members => templateApart members
  | .compound members => templateBefore members
  | .foreign _ => []

/-- The members of a group, with commas between them. -/
def templateApart : List Selector → Template
  | [] => []
  | [member] => template member
  | member :: next :: rest => template member ++ ofText ", " ++ templateApart (next :: rest)

/-- A member of a compound. Only the argument of a negation has gaps of its own. -/
def templateInside : Selector → Template
  | .negation argument => ofText ":not(" ++ template argument ++ ofText [')']
  | member => ofText member.render

/-- The members of a compound whose gap is still to come. -/
def templateBefore : List Selector → Template
  | [] => gap
  | member :: rest =>
      if member.isPseudo then gap ++ templateInside member ++ templateBehind rest
      else templateInside member ++ templateBefore rest

/-- The members of a compound behind its gap. -/
def templateBehind : List Selector → Template
  | [] => []
  | member :: rest => templateInside member ++ templateBehind rest
end

theorem template_simple {part : Simple} (proper : part ≠ .any) :
    template (.simple part) =
      if part.isPseudo then gap ++ ofText part.render else ofText part.render ++ gap := by
  cases part with
  | any => exact absurd rfl proper
  | _ => rfl

/-! ## Filled with a marker -/

section Filled

variable {marker : Text}

mutual
/-- With its gaps filled the template is the text of the marked selector. -/
theorem fill_template : ∀ selector : Selector,
    (template selector).fill (marked marker).render = (mark marker selector).render
  | .simple part => by
      by_cases proper : part = .any
      · rw [proper, template, Template.fill_gap, mark]
      · rw [template_simple proper, mark_simple proper]
        cases part.isPseudo with
        | true => simp [render, renderAll]
        | false => simp [render, renderAll]
  | .negation argument => by
      have inside := fill_template argument
      simp [template, mark, render_negation, render_compound, renderAll, inside]
  | .combine combinator left right => by
      rw [template, mark, render_combine]
      simp only [Template.fill_append, Template.fill_ofText, fill_template left,
        fill_template right]
  | .group members => by
      rw [template, mark, render_group, fill_templateApart members]
  | .compound members => by
      rw [template, mark, render_compound, markArguments_eq_map, fill_templateBefore members]
  | .foreign _ => rfl

theorem fill_templateApart : ∀ members : List Selector,
    (templateApart members).fill (marked marker).render =
      Text.join ", " (renderAll (markAll marker members))
  | [] => rfl
  | [member] => by
      rw [templateApart, fill_template member]
      rfl
  | member :: next :: rest => by
      rw [templateApart, Template.fill_append, Template.fill_append, Template.fill_ofText,
        fill_template member, fill_templateApart (next :: rest)]
      rfl

theorem fill_templateInside : ∀ member : Selector,
    (templateInside member).fill (marked marker).render =
      (withArgument (mark marker) member).render
  | .negation argument => by
      rw [templateInside, withArgument, render_negation]
      simp only [Template.fill_append, Template.fill_ofText, fill_template argument]
  | .simple _ | .combine .. | .group _ | .compound _ | .foreign _ => Template.fill_ofText _

theorem fill_templateBefore : ∀ members : List Selector,
    (templateBefore members).fill (marked marker).render =
      (renderAll (insertMarker marker (members.map (withArgument (mark marker))))).flatten
  | [] => rfl
  | member :: rest => by
      rw [templateBefore, List.map_cons, insertMarker, isPseudo_withArgument]
      cases member.isPseudo with
      | true =>
          simp only [if_true, Template.fill_append, Template.fill_gap, fill_templateInside member,
            fill_templateBehind rest, renderAll_cons, List.flatten_cons, List.append_assoc]
      | false =>
          simp only [Bool.false_eq_true, if_false, Template.fill_append,
            fill_templateInside member, fill_templateBefore rest, renderAll_cons,
            List.flatten_cons]

theorem fill_templateBehind : ∀ members : List Selector,
    (templateBehind members).fill (marked marker).render =
      (renderAll (members.map (withArgument (mark marker)))).flatten
  | [] => rfl
  | member :: rest => by
      rw [templateBehind, Template.fill_append, fill_templateInside member,
        fill_templateBehind rest, List.map_cons, renderAll_cons, List.flatten_cons]
end

end Filled

/-! ## How many gaps there are -/

mutual
/-- How many elements a selector speaks of. -/
def positions : Selector → Nat
  | .simple _ => 1
  | .negation argument => 1 + positions argument
  | .combine _ left right => positions left + positions right
  | .group members => positionsIn members
  | .compound members => 1 + argumentPositions members
  | .foreign _ => 0

def positionsIn : List Selector → Nat
  | [] => 0
  | member :: rest => positions member + positionsIn rest

/-- How many elements the negations in a compound speak of. -/
def argumentPositions : List Selector → Nat
  | [] => 0
  | .negation argument :: rest => positions argument + argumentPositions rest
  | _ :: rest => argumentPositions rest
end

mutual
theorem gaps_template : ∀ selector : Selector, (template selector).gaps = positions selector
  | .simple part => by
      by_cases proper : part = .any
      · rw [proper]
        rfl
      · rw [template_simple proper, positions]
        cases part.isPseudo <;> simp
  | .negation argument => by
      simp [template, positions, gaps_template argument]
  | .combine combinator left right => by
      simp [template, positions, gaps_template left, gaps_template right]
  | .group members => by rw [template, positions, gaps_templateApart members]
  | .compound members => by rw [template, positions, gaps_templateBefore members]
  | .foreign _ => rfl

theorem gaps_templateApart : ∀ members : List Selector,
    (templateApart members).gaps = positionsIn members
  | [] => rfl
  | [member] => by rw [templateApart, gaps_template member, positionsIn, positionsIn, Nat.add_zero]
  | member :: next :: rest => by
      rw [templateApart, Template.gaps_append, Template.gaps_append, Template.gaps_ofText,
        gaps_template member, gaps_templateApart (next :: rest), Nat.add_zero]
      rfl

theorem gaps_templateInside : ∀ (member : Selector) (rest : List Selector),
    (templateInside member).gaps + argumentPositions rest = argumentPositions (member :: rest)
  | .negation argument, rest => by simp [templateInside, argumentPositions, gaps_template argument]
  | .simple _, rest | .combine .., rest | .group _, rest | .compound _, rest | .foreign _, rest => by
      simp [templateInside, argumentPositions]

theorem gaps_templateBefore : ∀ members : List Selector,
    (templateBefore members).gaps = 1 + argumentPositions members
  | [] => rfl
  | member :: rest => by
      rw [templateBefore, ← gaps_templateInside member rest]
      cases member.isPseudo with
      | true =>
          rw [if_pos rfl, Template.gaps_append, Template.gaps_append, Template.gaps_gap,
            gaps_templateBehind rest, Nat.add_assoc]
      | false =>
          rw [if_neg Bool.false_ne_true, Template.gaps_append, gaps_templateBefore rest,
            Nat.add_left_comm]

theorem gaps_templateBehind : ∀ members : List Selector,
    (templateBehind members).gaps = argumentPositions members
  | [] => rfl
  | member :: rest => by
      rw [templateBehind, Template.gaps_append, gaps_templateBehind rest,
        gaps_templateInside member rest]
end

/-! ## With the gaps closed -/

/-- A selector that is written as nothing. -/
def unwritten : Selector := .simple (.type [])

mutual
/-- The selector with nothing in place of each `*`, unless it is a member of a compound. -/
def withoutAny : Selector → Selector
  | .simple .any => unwritten
  | .simple part => .simple part
  | .negation argument => .negation (withoutAny argument)
  | .combine combinator left right => .combine combinator (withoutAny left) (withoutAny right)
  | .group members => .group (withoutAnyAll members)
  | .compound members => .compound (withoutAnyInside members)
  | .foreign value => .foreign value

def withoutAnyAll : List Selector → List Selector
  | [] => []
  | member :: rest => withoutAny member :: withoutAnyAll rest

/-- The members of a compound, of which only the arguments of negations change. -/
def withoutAnyInside : List Selector → List Selector
  | [] => []
  | .negation argument :: rest => .negation (withoutAny argument) :: withoutAnyInside rest
  | member :: rest => member :: withoutAnyInside rest
end

theorem withoutAnyInside_cons (member : Selector) (rest : List Selector) :
    withoutAnyInside (member :: rest) =
      withArgument withoutAny member :: withoutAnyInside rest := by
  cases member <;> simp [withoutAnyInside, withArgument]

theorem withoutAny_simple {part : Simple} (proper : part ≠ .any) :
    withoutAny (.simple part) = .simple part := by
  cases part with
  | any => exact absurd rfl proper
  | _ => rfl

mutual
/-- With its gaps closed the template is the text of the selector, but for the places where
a marker stands in for `*`. -/
theorem close_template : ∀ selector : Selector,
    (template selector).fill [] = (withoutAny selector).render
  | .simple part => by
      by_cases proper : part = .any
      · rw [proper]
        rfl
      · rw [template_simple proper, withoutAny_simple proper, render]
        cases part.isPseudo <;> simp
  | .negation argument => by
      simp [template, withoutAny, render_negation, close_template argument]
  | .combine combinator left right => by
      simp [template, withoutAny, render_combine, close_template left, close_template right]
  | .group members => by rw [template, withoutAny, render_group, close_templateApart members]
  | .compound members => by
      rw [template, withoutAny, render_compound, close_templateBefore members]
  | .foreign _ => rfl

theorem close_templateApart : ∀ members : List Selector,
    (templateApart members).fill [] = Text.join ", " (renderAll (withoutAnyAll members))
  | [] => rfl
  | [member] => by
      rw [templateApart, close_template member]
      rfl
  | member :: next :: rest => by
      rw [templateApart, Template.fill_append, Template.fill_append, Template.fill_ofText,
        close_template member, close_templateApart (next :: rest)]
      rfl

theorem close_templateInside : ∀ member : Selector,
    (templateInside member).fill [] = (withArgument withoutAny member).render
  | .negation argument => by
      simp [templateInside, withArgument, render_negation, close_template argument]
  | .simple _ | .combine .. | .group _ | .compound _ | .foreign _ => Template.fill_ofText _

theorem close_templateBefore : ∀ members : List Selector,
    (templateBefore members).fill [] = (renderAll (withoutAnyInside members)).flatten
  | [] => rfl
  | member :: rest => by
      rw [templateBefore, withoutAnyInside_cons, renderAll_cons, List.flatten_cons]
      cases member.isPseudo with
      | true => simp [close_templateInside member, close_templateBehind rest]
      | false => simp [close_templateInside member, close_templateBefore rest]

theorem close_templateBehind : ∀ members : List Selector,
    (templateBehind members).fill [] = (renderAll (withoutAnyInside members)).flatten
  | [] => rfl
  | member :: rest => by
      rw [templateBehind, Template.fill_append, close_templateInside member,
        close_templateBehind rest, withoutAnyInside_cons, renderAll_cons, List.flatten_cons]
end

mutual
theorem foreign?_withoutAny : ∀ selector : Selector,
    (withoutAny selector).foreign? = selector.foreign?
  | .simple part => by cases part <;> rfl
  | .negation argument => foreign?_withoutAny argument
  | .combine _ left right => by
      rw [withoutAny, foreign?, foreign?_withoutAny left, foreign?_withoutAny right, foreign?]
  | .group members => foreignIn?_withoutAnyAll members
  | .compound members => foreignIn?_withoutAnyInside members
  | .foreign _ => rfl

theorem foreignIn?_withoutAnyAll : ∀ members : List Selector,
    foreignIn? (withoutAnyAll members) = foreignIn? members
  | [] => rfl
  | member :: rest => by
      rw [withoutAnyAll, foreignIn?, foreign?_withoutAny member, foreignIn?_withoutAnyAll rest,
        foreignIn?]

theorem foreignIn?_withoutAnyInside : ∀ members : List Selector,
    foreignIn? (withoutAnyInside members) = foreignIn? members
  | [] => rfl
  | .negation argument :: rest => by
      rw [withoutAnyInside, foreignIn?, foreign?, foreign?_withoutAny argument,
        foreignIn?_withoutAnyInside rest, foreignIn?, foreign?]
  | .simple _ :: rest | .combine .. :: rest | .group _ :: rest | .compound _ :: rest
  | .foreign _ :: rest => by
      simp only [withoutAnyInside, foreignIn?, foreignIn?_withoutAnyInside rest]
end

/-! ## The text under any scope -/

/-- A scoped text is the same fragments under every scope, with one marker between each two
of them. The marker of a `*` takes its place; the fragments alone make up all else of the
text of the selector. -/
theorem scope_eq_join {selector : Selector} {config : Config} {scope out : Text}
    (succeeded : selector.scope scope config = .ok out) :
    ∃ fragments : List Text, fragments.length = selector.positions + 1 ∧
      (∀ (other : Config) (otherScope : Text), other.maxDepth = config.maxDepth →
        otherScope ≠ [] → selector.scope otherScope other =
          .ok (Text.join ('[' :: (other.markerStem ++ otherScope) ++ [']']) fragments)) ∧
      selector.withoutAny.write = .ok fragments.flatten := by
  obtain ⟨-, faultless, -⟩ := scope_eq_ok_iff.mp succeeded
  refine ⟨selector.template.fragments, ?_, ?_, ?_⟩
  · rw [Template.length_fragments, gaps_template]
  · intro other otherScope sameLimit nonempty
    apply scope_eq_ok_iff.mpr
    refine ⟨nonempty, sameLimit ▸ faultless, ?_⟩
    rw [Template.join_fragments]
    exact fill_template selector
  · have native : selector.withoutAny.foreign? = none := by
      rw [foreign?_withoutAny]
      exact foreign?_of_composed selector (composed_of_fault?_eq_none selector faultless)
    rw [write, native, ← Template.join_nil, Template.join_fragments, close_template]

/-- The first `*` is a member of a compound and stays, the second one gives way. -/
theorem scope_eq_join_any_in_compound :
    ∃ fragments : List Text, fragments.length = 4 ∧
      (∀ (other : Config) (otherScope : Text), other.maxDepth = greatestDepth →
        otherScope ≠ [] →
        Selector.scope (.compound [.simple .any,
            .negation (.combine .descendant (.simple (.id "a")) (.simple .any))]) otherScope other =
          .ok (Text.join ('[' :: (other.markerStem ++ otherScope) ++ [']']) fragments)) ∧
      Selector.write (.compound [.simple .any,
          .negation (.combine .descendant (.simple (.id "a")) (.simple (.type "")))]) =
        .ok fragments.flatten := by
  have succeeded : Selector.scope (.compound [.simple .any,
      .negation (.combine .descendant (.simple (.id "a")) (.simple .any))]) "x" .standard =
        .ok "*[data-pc-x]:not(#a[data-pc-x] [data-pc-x])" := by decide +kernel
  exact scope_eq_join succeeded

end ScopedMarkup.Css.Selector
