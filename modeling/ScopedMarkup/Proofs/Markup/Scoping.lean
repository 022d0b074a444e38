import ScopedMarkup.Markup.Printer
import ScopedMarkup.Proofs.Css.Sheet.Depth
import ScopedMarkup.Proofs.Markup.Marking

/-! # The text of scoped trees

A virtual tree is written as the tree that it was made of would be, had each element the
marker and each style rule a selector that is spelled as its scoped text.
-/

namespace ScopedMarkup

namespace Css.Selector

/-- A selector that is spelled as the scoped text of this one. -/
def respell (room : Nat) (scope : Text) (config : Config) (selector : Selector) :
    Except Halt Selector :=
  (selector.evaluate room scope config).map fun text => simple (.type text)

theorem respell_eq_ok {room : Nat} {scope : Text} {config : Config} (nonempty : scope ≠ [])
    {selector : Selector} (accepted : selector.fault? config.maxDepth 0 = none)
    (fits : selector.calls < room) :
    selector.respell room scope config =
      .ok (simple (.type (selector.mark (config.marker scope)).render)) := by
  have runs := evaluate_runs nonempty room selector config
  rw [respell, runs.eq_ok_iff.mpr ⟨accepted, fits, rfl⟩]
  rfl

end Css.Selector

namespace Markup.Node

variable {σ τ ε : Type}

/-! ## Trees with a marker on each element -/

mutual
/-- Like `mark` with a change that may fail. The first failure in the order of the text
counts. -/
def traverse (marker : Attribute) (change : σ → Except ε τ) : Node σ → Except ε (Node τ)
  | .text value => .ok (.text value)
  | .slot script => .ok (.slot script)
  | .element tag attributes children =>
      (traverseAll marker change children).map (.element tag (attributes ++ [marker]))
  | .style attributes sheet =>
      (Css.Rule.traverseAll change sheet.rules).map fun rules => .style attributes ⟨rules⟩
  | .fragment children => (traverseAll marker change children).map .fragment
  | .foreign value => .ok (.foreign value)

def traverseAll (marker : Attribute) (change : σ → Except ε τ) :
    List (Node σ) → Except ε (List (Node τ))
  | [] => .ok []
  | node :: rest =>
      match traverse marker change node with
      | .error error => .error error
      | .ok changed => (traverseAll marker change rest).map (changed :: ·)
end

section Printing

variable (marker : Attribute) (prelude : τ → Text) (change : σ → τ)

mutual
/-- To change the selectors and then print them is to print what they change to. -/
theorem renderWith_mark : ∀ node : Node σ, (node.mark marker change).renderWith prelude =
    (node.mark marker id).renderWith fun selector => prelude (change selector)
  | .element tag attributes children => by
      rw [mark, renderWith, renderAllWith_markAll children, mark, renderWith]
  | .style attributes sheet => by
      rw [mark, renderWith, Css.Sheet.renderWith, Css.Sheet.map, Css.Rule.renderAll_mapAll, mark,
        renderWith, Css.Sheet.renderWith, Css.Sheet.map, Css.Rule.renderAll_mapAll]
      rfl
  | .fragment children => by
      rw [mark, renderWith, renderAllWith_markAll children, mark, renderWith]
  | .text _ | .slot _ | .foreign _ => rfl

theorem renderAllWith_markAll : ∀ nodes : List (Node σ),
    renderAllWith prelude (markAll marker change nodes) =
      renderAllWith (fun selector => prelude (change selector)) (markAll marker id nodes)
  | [] => rfl
  | node :: rest => by
      rw [markAll, renderAllWith, renderWith_mark node, renderAllWith_markAll rest, markAll,
        renderAllWith]
end

end Printing

/-! ## Trees that scoping accepts -/

section Accepted

variable {limit room : Nat} {marker : Attribute} {value : Css.Selector → τ}

/-- A change that succeeds for the selectors that scoping accepts and has room for. -/
def Changes (limit room : Nat) (change : Css.Selector → Except ε τ) (value : Css.Selector → τ) :
    Prop :=
  ∀ selector, selector.fault? limit 0 = none → selector.calls < room →
    change selector = .ok (value selector)

mutual
theorem traverse_of_accepted {change : Css.Selector → Except ε τ}
    (changes : Changes limit room change value) :
    ∀ node : Node Css.Selector, fault? limit node = none → node.calls ≤ room →
      traverse marker change node = .ok (node.mark marker value)
  | .element tag attributes children, accepted, fits => by
      rw [calls] at fits
      rw [traverse, traverseAll_of_accepted changes children accepted (by omega)]
      rfl
  | .style attributes sheet, accepted, fits => by
      have selectors := ((Css.Rule.faultIn?_eq_none_iff sheet.rules (Nat.zero_le limit)).mp
        accepted).2.1
      rw [calls, Css.Sheet.calls] at fits
      rw [traverse, Css.Rule.traverseAll_eq_ok fun selector member =>
        changes selector (selectors selector member) (by
          have less := Css.Rule.calls_lt_of_mem_preludesIn member
          omega)]
      rfl
  | .fragment children, accepted, fits => by
      rw [calls] at fits
      rw [traverse, traverseAll_of_accepted changes children accepted (by omega)]
      rfl
  | .text _, _, _ | .slot _, _, _ => rfl

/-- Such a change succeeds for nodes that scoping accepts and has room for. -/
theorem traverseAll_of_accepted {change : Css.Selector → Except ε τ}
    (changes : Changes limit room change value) :
    ∀ nodes : List (Node Css.Selector), faultIn? limit nodes = none → callsIn nodes ≤ room →
      traverseAll marker change nodes = .ok (markAll marker value nodes)
  | [], _, _ => rfl
  | node :: rest, accepted, fits => by
      rcases Option.or_eq_none_iff.mp accepted with ⟨here, later⟩
      rcases Nat.max_le.mp fits with ⟨fitsHere, fitsLater⟩
      rw [traverseAll, traverse_of_accepted changes node here fitsHere,
        traverseAll_of_accepted changes rest later fitsLater]
      rfl
end

mutual
theorem unprintable?_mark {prelude : τ → Option Unprintable}
    (printable : ∀ selector, prelude (value selector) = none) :
    ∀ node : Node Css.Selector, fault? limit node = none →
      (node.mark marker value).unprintable? prelude = none
  | .element _ _ children, accepted | .fragment children, accepted =>
      unprintableIn?_markAll printable children accepted
  | .style _ sheet, accepted => by
      rw [mark, unprintable?, Css.Sheet.unprintable?, Css.Sheet.map, Css.Rule.unprintableIn?_mapAll,
        funext printable]
      exact ((Css.Rule.faultIn?_eq_none_iff sheet.rules (Nat.zero_le limit)).mp accepted).1
  | .text _, _ | .slot _, _ => rfl

/-- What scoping accepts can be printed with any text for its selectors. -/
theorem unprintableIn?_markAll {prelude : τ → Option Unprintable}
    (printable : ∀ selector, prelude (value selector) = none) :
    ∀ nodes : List (Node Css.Selector), faultIn? limit nodes = none →
      unprintableIn? prelude (markAll marker value nodes) = none
  | [], _ => rfl
  | node :: rest, accepted => by
      rcases Option.or_eq_none_iff.mp accepted with ⟨here, later⟩
      rw [markAll, unprintableIn?, unprintable?_mark printable node here,
        unprintableIn?_markAll printable rest later]
      rfl
end

end Accepted

/-! ## The text of a scoped tree -/

/-- A scoped tree and the tree that it was made from, with the marker on each element and
each selector respelled, are written alike. -/
theorem write_of_evaluate {room : Nat} {node : Node Css.Selector} {scope : Text}
    {config : Config} {result : Evaluated}
    (succeeded : node.evaluate room scope config = .ok result) :
    ∃ respelled printed,
      node.traverse ⟨config.marker scope, none⟩ (Css.Selector.respell room scope config) =
        .ok respelled ∧
      result.tree.write = .ok printed ∧ respelled.write = .ok printed := by
  rcases evaluate_eq_ok_iff.mp succeeded with ⟨nonempty, accepted, fits, rfl⟩
  -- Both trees are the marked tree; they differ in what stands for a selector only.
  let marker : Attribute := ⟨config.marker scope, none⟩
  let spelling (selector : Css.Selector) : Text := (selector.mark marker.name).render
  have changes : Changes config.maxDepth room (Css.Selector.respell room scope config)
      fun selector => .simple (.type (spelling selector)) :=
    fun _ => Css.Selector.respell_eq_ok nonempty
  refine ⟨node.mark marker fun selector => .simple (.type (spelling selector)),
    (node.mark marker id).renderWith spelling,
    traverse_of_accepted changes node accepted (Nat.le_of_lt fits), ?_, ?_⟩
  · rw [scopedTree, write_virtual, unprintable?_mark (fun _ => rfl) node accepted]
    exact congrArg _ (renderWith_mark marker id spelling node)
  · rw [write, unprintable?_mark (fun _ => rfl) node accepted]
    exact congrArg _ (renderWith_mark marker Css.Selector.render _ node)

theorem write_of_evaluate_nested_rules :
    ∃ respelled printed,
      (Node.element "p" [⟨"a", none⟩] [.slot "b", .style [⟨"c", some "d"⟩]
        ⟨[.conditional .media "e" [.style (.group [.simple (.type "f"),
          .negation (.simple .any)]) [⟨"g", "h"⟩]]]⟩]).traverse
        ⟨Config.standard.marker "x", none⟩ (Css.Selector.respell 1000 "x" .standard) =
          .ok respelled ∧
      VirtualNode.write (.element "p" [⟨"a", none⟩, ⟨"data-pc-x", none⟩] [.slot "b",
        .style [⟨"c", some "d"⟩] ⟨[.media "e"
          [.style "f[data-pc-x], [data-pc-x]:not([data-pc-x])" [⟨"g", "h"⟩]]]⟩]) = .ok printed ∧
      respelled.write = .ok printed :=
  @write_of_evaluate 1000 _ "x" .standard
    ⟨_, ["Compiled scope=x elements=1 style_elements=1 rules=1"]⟩ rfl

end Markup.Node

end ScopedMarkup
