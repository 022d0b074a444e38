import ScopedMarkup.Proofs.Css.Selector.Marking
import ScopedMarkup.Proofs.Css.Sheet.Acceptance
import ScopedMarkup.Proofs.Css.Sheet.RoundTrip

/-! # Reading scoped sheets

The text of a scoped sheet is read as the sheet with each of its selectors marked
and everything else as it was.
-/

namespace ScopedMarkup.Css.Sheet

theorem scope_eq_ok {config : Config} {scope : Text} {sheet : Sheet Selector}
    {evaluated : Sheet Text} (succeeded : sheet.scope scope config = .ok evaluated) :
    evaluated = sheet.map fun selector => (selector.mark (config.marker scope)).render :=
  (scope_eq_ok_iff.mp succeeded).2.2

/-- To mark the selectors of a sheet and then print it is to print each one marked. -/
theorem renderScoped_map (sheet : Sheet Selector) (change : Selector → Text) :
    (sheet.map change).renderScoped = sheet.renderWith change :=
  Rule.renderAll_mapAll id change [] sheet.rules

/-- The marked selector of a prelude stands before a block as well. -/
theorem OfPrelude.isPrelude_render_mark {config : Config} {selector : Selector} {marker : Text}
    (named : Selector.IsMarkerName marker) (read : OfPrelude config selector) :
    IsPrelude (selector.mark marker).render :=
  (read.formed.mark named).isPrelude_render
    ((rawSpan_whole_iff (Selector.skeleton_render_mark named selector)).mpr read.whole)

/-- A scoped sheet can be written. -/
theorem writeScoped_map {config : Config} {sheet : Sheet Selector} (change : Selector → Text)
    (formed : Rule.AllFormed (OfPrelude config) (config.maxDepth + 1) sheet.rules) :
    (sheet.map change).writeScoped = .ok (sheet.renderWith change) := by
  have printable : (sheet.map change).unprintable? (fun _ => none) = none := by
    rw [Sheet.unprintable?, Sheet.map, Rule.unprintableIn?_mapAll]
    exact Rule.unprintableIn?_eq_none (fun _ _ => rfl) formed
  rw [Sheet.writeScoped, printable, ← renderScoped_map]

/-- What a scoped sheet is written as is read as the sheet that was scoped with only
its selectors changed, each to its marked tree, unless it opens a comment. -/
theorem read_writeScoped {config : Config} {source scope : Text} {sheet : Sheet Selector}
    {evaluated : Sheet Text} (uncommented : Uncommented source)
    (read : Sheet.read config source = .ok sheet)
    (named : Selector.IsMarkerName (config.marker scope))
    (succeeded : sheet.scope scope config = .ok evaluated) :
    ∃ printed, evaluated.writeScoped = .ok printed ∧
      (Uncommented printed →
        Sheet.read config printed = .ok (sheet.map (Selector.mark (config.marker scope)))) ∧
      ∀ selector ∈ Rule.preludesIn sheet.rules,
        Selector.MarkedAs (config.marker scope) selector
          (selector.mark (config.marker scope)) := by
  have formed := allFormed_of_read uncommented read
  rw [scope_eq_ok succeeded]
  refine ⟨_, writeScoped_map _ formed, fun printable => ?_, fun selector member => ?_⟩
  · refine read_renderWith (fun _ read => read.isPrelude_render_mark named) ?_ formed printable
    intro selector read alone
    have further := alone.of_infix (List.prefix_append _ [' ']).isInfix
    exact (read.formed.mark named).read_prelude alone
      (read.checked further (Selector.skeleton_render_mark named selector))
  · exact (Rule.good_of_mem_preludesIn formed selector member).formed.markedAs_mark

theorem read_writeScoped_nested_blocks :
    ∃ printed, Sheet.writeScoped ⟨[.conditional .media "print"
        [.style "ul[data-pc-x] > li[data-pc-x]:not(b[data-pc-x], [data-pc-x])" [⟨"c", "d"⟩]],
        .page [] []]⟩ = .ok printed ∧
      (Uncommented printed →
        Sheet.read .standard printed = .ok (Sheet.map
          (Selector.mark (Config.standard.marker "x"))
          ⟨[.conditional .media "print" [.style (.combine .child (.simple (.type "ul"))
            (.compound [.simple (.type "li"),
              .negation (.group [.simple (.type "b"), .simple .any])])) [⟨"c", "d"⟩]],
            .page [] []]⟩)) ∧
      ∀ selector ∈ Rule.preludesIn [.conditional .media "print" [.style (.combine .child
          (.simple (.type "ul")) (.compound [.simple (.type "li"),
            .negation (.group [.simple (.type "b"), .simple .any])])) [⟨"c", "d"⟩]],
          .page [] []],
        Selector.MarkedAs (Config.standard.marker "x") selector
          (selector.mark (Config.standard.marker "x")) :=
  @read_writeScoped .standard
    "@media  print\x7bul>li:NOT( b,* )\x7bc : d;\x7d\x7d@page\x7b\x7d" "x" _ _
    (by decide +kernel) (by decide +kernel) (by decide +kernel) (by decide +kernel)

end ScopedMarkup.Css.Sheet
