import ScopedMarkup.Proofs.Css.Selector.Acceptance
import ScopedMarkup.Proofs.Css.Selector.Matching

/-! # Scoped selectors select inside their scope

The text of a scoped selector is read again as a selector that matches only
elements with the marker, and among elements that all carry the marker the
elements that the selector matched before.
-/

namespace ScopedMarkup.Css.Selector

theorem write_eq_ok {selector : Selector} {printed : Text}
    (written : selector.write = .ok printed) : printed = selector.render := by
  unfold Selector.write at written
  split at written
  · simp at written
  · exact (Except.ok.inj written).symm

/-- The text of a scoped selector is read as the marked selector. -/
theorem read_scoped {config : Config} {text scope out : Text} {selector : Selector}
    (uncommented : Uncommented text) (read : Selector.read config text = .ok selector)
    (printable : Uncommented selector.render) (named : IsMarkerName (config.marker scope))
    (succeeded : selector.scope scope config = .ok out) :
    Selector.read config out = .ok (mark (config.marker scope) selector) := by
  rcases formed_of_read uncommented read with ⟨formed, -, nested⟩
  have unopened := uncommented_render_mark named formed printable
  rw [(scope_eq_ok_iff.mp succeeded).2.2]
  exact read_render (formed.mark named) unopened
    (nested _ unopened (skeleton_render_mark named selector))

/-- Whatever the simple selectors mean, the scoped text matches only elements that
carry the marker, and where all carry it, what the selector matched before. -/
theorem scope_isolates {config : Config} {text printed scope out : Text} {selector : Selector}
    (uncommented : Uncommented text) (read : Selector.read config text = .ok selector)
    (written : selector.write = .ok printed) (printable : Uncommented printed)
    (named : IsMarkerName (config.marker scope))
    (succeeded : selector.scope scope config = .ok out) :
    ∃ rescoped, Selector.read config out = .ok rescoped ∧
      ∀ (forest : Forest) (holds : Simple → forest.Element → Prop)
        (carries : forest.Element → Prop),
        (∀ element, holds (.attribute (config.marker scope) none none) element ↔
          carries element) →
        (∀ element, Matches holds rescoped element → carries element) ∧
        ((∀ element, carries element) →
          ∀ element, Matches holds rescoped element ↔ Matches holds selector element) := by
  rw [write_eq_ok written] at printable
  refine ⟨_, read_scoped uncommented read printable named succeeded, ?_⟩
  intro forest holds carries meaning
  constructor
  · intro element found
    exact (meaning element).mp (carries_of_matches_mark selector element found)
  · intro all element
    exact matches_mark_iff (fun other => (meaning other).mpr (all other)) selector element

theorem scope_isolates_nested_negation :
    ∃ rescoped, Selector.read .standard
        "ul[data-pc-x] > li.a[data-pc-x]:not(b[data-pc-x] i[data-pc-x], [data-pc-x])" =
          .ok rescoped ∧
      ∀ (forest : Forest) (holds : Simple → forest.Element → Prop)
        (carries : forest.Element → Prop),
        (∀ element, holds (.attribute (Config.standard.marker "x") none none) element ↔
          carries element) →
        (∀ element, Matches holds rescoped element → carries element) ∧
        ((∀ element, carries element) → ∀ element, Matches holds rescoped element ↔
          Matches holds (.combine .child (.simple (.type "ul")) (.compound [.simple (.type "li"),
            .simple (.className "a"), .negation (.group [.combine .descendant
              (.simple (.type "b")) (.simple (.type "i")), .simple .any])])) element) :=
  @scope_isolates .standard " ul >li.a:NOT( b i,* )" "ul > li.a:not(b i, *)" "x"
    "ul[data-pc-x] > li.a[data-pc-x]:not(b[data-pc-x] i[data-pc-x], [data-pc-x])" _
    (by decide +kernel) (by decide +kernel) (by decide +kernel) (by decide +kernel)
    (by decide +kernel) (by decide +kernel)

end ScopedMarkup.Css.Selector
