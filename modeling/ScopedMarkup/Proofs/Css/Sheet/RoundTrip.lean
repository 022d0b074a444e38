import ScopedMarkup.Proofs.Css.Selector.RoundTrip
import ScopedMarkup.Proofs.Css.Sheet.Printing
import ScopedMarkup.Proofs.Css.Sheet.Reading

/-! # Reading and writing sheets

A sheet that was read, written and read again is the same sheet, unless what was
written opens a comment.
-/

namespace ScopedMarkup.Css

/-! ## Selectors as preludes -/

namespace Selector

/-- The text of a selector stands before a block like any prelude. -/
theorem Formed.isPrelude_render {selector : Selector} (formed : Formed .whole selector)
    (whole : rawSpan.Whole selector.render) : IsPrelude selector.render := by
  have fits := formed.fits
  have spelled := spelled_renderTokens fits.sound
  rw [renderTokens_toTokens] at spelled
  refine ⟨?_, trimmed_of_spelled fits spelled, whole⟩
  rcases beginsWithPart_of_spelled fits spelled with ⟨first, rest, equal, begins⟩
  refine ⟨first, rest, equal, isBlank_eq_false_of_beginsPart begins, fun member => ?_⟩
  have none : (['{', '}', ';', '@'].all fun sign => !beginsPart sign) = true := by decide
  have refused := List.all_eq_true.mp none first member
  rw [begins] at refused
  simp at refused

/-- The blank behind a prelude does not count for its selector. -/
theorem Formed.read_prelude {config : Config} {selector : Selector}
    (formed : Formed .whole selector) (uncommented : Uncommented (selector.render ++ [' ']))
    (checked : Brackets.round.check .selector config.maxDepth selector.render = .ok ()) :
    Selector.read config (selector.render ++ [' ']) = .ok selector := by
  have spelled := spelled_renderTokens formed.fits.sound
  rw [renderTokens_toTokens] at spelled
  exact read_of_spelled formed spelled Text.blank_nil Sheet.space_blank.blank uncommented checked

end Selector

namespace Sheet

/-- Printed with these preludes, a formed sheet is read with the selectors that
they are read as. -/
theorem read_renderWith {σ : Type} {config : Config} {good : σ → Prop} {prelude : σ → Text}
    {result : σ → Selector} {sheet : Sheet σ}
    (form : ∀ style, good style → IsPrelude (prelude style))
    (reads : ∀ style, good style → Uncommented (prelude style ++ [' ']) →
      Selector.read config (prelude style ++ [' ']) = .ok (result style))
    (formed : Rule.AllFormed good (config.maxDepth + 1) sheet.rules)
    (uncommented : Uncommented (sheet.renderWith prelude)) :
    Sheet.read config (sheet.renderWith prelude) = .ok (sheet.map result) := by
  have checked : Brackets.curly.check .blocks (config.maxDepth + 1) (sheet.renderWith prelude) =
      .ok () := by
    have passes : Passes (config.maxDepth + 1) 0 (sheet.renderWith prelude) :=
      passes_renderAll form formed rfl (by omega)
    exact (Brackets.check_eq_ok_iff uncommented).mpr (passes ▸ rfl)
  have changes : ∀ style, good style → Uncommented (prelude style ++ [' ']) → ∀ index,
      preludeSelector config (sheet.renderWith prelude) ⟨prelude style ++ [' '], index⟩ =
        .ok (result style) := by
    intro style isGood alone index
    exact preludeSelector_eq_ok_iff.mpr (reads style isGood alone)
  rcases exists_reads_renderAll (sheet.renderWith prelude) form changes [] .empty [] formed
    uncommented rfl rfl with ⟨raws, changed, reads⟩
  have raw : rawRules (sheet.renderWith prelude) = .ok raws := by
    have whole : Reads (sheet.renderWith prelude) .rule [] .empty
        (sheet.renderWith prelude ++ []) raws := reads raws reads_nil
    rw [List.append_nil] at whole
    exact whole uncommented _
  exact read_eq_ok_iff.mpr ⟨checked, raws, raw, changed⟩

/-! ## Sheets that were read -/

/-- A selector that was read from a prelude. -/
def OfPrelude (config : Config) (selector : Selector) : Prop :=
  ∃ text, Uncommented text ∧ rawSpan.Whole text ∧ Selector.read config text = .ok selector

theorem allFormed_of_read {config : Config} {source : Text} {sheet : Sheet Selector}
    (uncommented : Uncommented source) (read : Sheet.read config source = .ok sheet) :
    Rule.AllFormed (OfPrelude config) (config.maxDepth + 1) sheet.rules := by
  rcases read_eq_ok_iff.mp read with ⟨checked, raws, raw, changed⟩
  refine Rule.allFormed_of_traverseAll ?_ (allFormed_of_rawRules uncommented checked raw) changed
  intro prelude selector kept selected
  exact ⟨prelude.text, kept.1, kept.2, preludeSelector_eq_ok_iff.mp selected⟩

theorem OfPrelude.whole {config : Config} {selector : Selector} (read : OfPrelude config selector) :
    rawSpan.Whole selector.render := by
  rcases read with ⟨text, uncommented, whole, read⟩
  exact (rawSpan_whole_iff (Selector.formed_of_read uncommented read).2.1).mpr whole

theorem OfPrelude.formed {config : Config} {selector : Selector}
    (read : OfPrelude config selector) : Selector.Formed .whole selector := by
  rcases read with ⟨text, uncommented, -, read⟩
  exact (Selector.formed_of_read uncommented read).1

theorem OfPrelude.checked {config : Config} {selector : Selector} {text : Text}
    (read : OfPrelude config selector) (uncommented : Uncommented text)
    (same : skeleton text = skeleton selector.render) :
    Brackets.round.check .selector config.maxDepth text = .ok () := by
  rcases read with ⟨original, originalUncommented, -, read⟩
  exact (Selector.formed_of_read originalUncommented read).2.2 text uncommented same

theorem OfPrelude.unprintable?_eq_none {config : Config} {selector : Selector}
    (read : OfPrelude config selector) : selector.unprintable? = none := by
  rw [Selector.unprintable?, read.formed.foreign?_eq_none]
  rfl

/-- The text of a sheet that was read is read as that sheet. -/
theorem read_render {config : Config} {source : Text} {sheet : Sheet Selector}
    (uncommented : Uncommented source) (read : Sheet.read config source = .ok sheet)
    (printable : Uncommented sheet.render) : Sheet.read config sheet.render = .ok sheet := by
  have reads : ∀ selector, OfPrelude config selector → Uncommented (selector.render ++ [' ']) →
      Selector.read config (selector.render ++ [' ']) = .ok (id selector) := by
    intro selector read alone
    have further := alone.of_infix (List.prefix_append selector.render [' ']).isInfix
    exact read.formed.read_prelude alone (read.checked further rfl)
  have again := read_renderWith (fun _ read => read.formed.isPrelude_render read.whole) reads
    (allFormed_of_read uncommented read) printable
  rwa [Sheet.map, Rule.mapAll_id] at again

/-- A sheet that was read can be written, and what was written is read as the same
sheet, unless it opens a comment. -/
theorem read_write {config : Config} {source : Text} {sheet : Sheet Selector}
    (uncommented : Uncommented source) (read : Sheet.read config source = .ok sheet) :
    ∃ printed, sheet.write = .ok printed ∧
      (Uncommented printed → Sheet.read config printed = .ok sheet) := by
  refine ⟨sheet.render, ?_, read_render uncommented read⟩
  rw [Sheet.write, Sheet.unprintable?, Rule.unprintableIn?_eq_none
    (fun _ read => OfPrelude.unprintable?_eq_none read) (allFormed_of_read uncommented read)]

theorem read_write_nested_blocks :
    ∃ printed, Sheet.write ⟨[.conditional .media "print" [.style (.combine .child
        (.simple (.type "ul")) (.compound [.simple (.type "li"),
          .negation (.group [.simple (.type "b"), .simple .any])]))
        [⟨"c", "'\x7d'"⟩, ⟨"d", "url(;)"⟩]], .page [] []]⟩ = .ok printed ∧
      (Uncommented printed → Sheet.read .standard printed = .ok ⟨[.conditional .media "print"
        [.style (.combine .child (.simple (.type "ul")) (.compound [.simple (.type "li"),
          .negation (.group [.simple (.type "b"), .simple .any])]))
        [⟨"c", "'\x7d'"⟩, ⟨"d", "url(;)"⟩]], .page [] []]⟩) :=
  @read_write .standard
    "@media  print\x7bul>li:NOT( b,* )\x7bc : '\x7d';;d:url(;)\x7d\x7d@page\x7b\x7d" _
    (by decide +kernel) (by decide +kernel)

end Sheet

end ScopedMarkup.Css
