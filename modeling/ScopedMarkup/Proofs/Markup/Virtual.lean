import ScopedMarkup.Markup.Query
import ScopedMarkup.Markup.Virtual
import ScopedMarkup.Proofs.Css.Sheet.Virtual

/-! # Virtual trees and their text

A tree with text for its selectors has a virtual tree with the same fields. The walks over
the two come to the same nodes, and the two are written alike, each by functions of its own.
-/

namespace ScopedMarkup.Markup

/-! ## The fields of a virtual tree -/

namespace Node

/-- The sheet of a style element. -/
def sheet? {σ : Type} : Node σ → Option (Css.Sheet σ)
  | .style _ sheet => some sheet
  | .text _ | .slot _ | .element .. | .fragment _ | .foreign _ => none

mutual
/-- The virtual tree with the fields of a tree. -/
def virtual : Node Text → VirtualNode
  | .text value => .text value
  | .slot script => .slot script
  | .element tag attributes children => .element tag attributes (virtualAll children)
  | .style attributes sheet => .style attributes sheet.virtual
  | .fragment children => .fragment (virtualAll children)
  | .foreign value => .foreign value

def virtualAll : List (Node Text) → List VirtualNode
  | [] => []
  | node :: rest => virtual node :: virtualAll rest
end

end Node

/-! ## Walks -/

namespace VirtualNode

mutual
/-- All nodes of a virtual tree, each before those in it. -/
def walk : VirtualNode → List VirtualNode
  | .element tag attributes children => .element tag attributes children :: walkAll children
  | .fragment children => .fragment children :: walkAll children
  | .text value => [.text value]
  | .slot script => [.slot script]
  | .style attributes sheet => [.style attributes sheet]
  | .foreign value => [.foreign value]

def walkAll : List VirtualNode → List VirtualNode
  | [] => []
  | node :: rest => walk node ++ walkAll rest
end

end VirtualNode

namespace Node

mutual
theorem walk_virtual : ∀ node : Node Text, node.virtual.walk = node.walk.map virtual
  | .element tag attributes children => by
      rw [virtual, VirtualNode.walk, walkAll_virtualAll children, walk, List.map_cons, virtual]
  | .fragment children => by
      rw [virtual, VirtualNode.walk, walkAll_virtualAll children, walk, List.map_cons, virtual]
  | .text _ | .slot _ | .style .. | .foreign _ => rfl

/-- The walk over virtual nodes comes to those of the nodes on the walk. -/
theorem walkAll_virtualAll : ∀ nodes : List (Node Text),
    VirtualNode.walkAll (virtualAll nodes) = (walkAll nodes).map virtual
  | [] => rfl
  | node :: rest => by
      rw [virtualAll, VirtualNode.walkAll, walk_virtual node, walkAll_virtualAll rest, walkAll,
        List.map_append]
end

mutual
theorem sheets_virtual : ∀ node : Node Text,
    node.virtual.sheets = (node.walk.filterMap sheet?).map Css.Sheet.virtual
  | .element tag attributes children => by
      rw [virtual, VirtualNode.sheets, sheetsIn_virtualAll children, walk,
        List.filterMap_cons_none rfl]
  | .fragment children => by
      rw [virtual, VirtualNode.sheets, sheetsIn_virtualAll children, walk,
        List.filterMap_cons_none rfl]
  | .text _ | .slot _ | .style .. | .foreign _ => rfl

/-- The sheets in virtual nodes come in the order of the walk. -/
theorem sheetsIn_virtualAll : ∀ nodes : List (Node Text),
    VirtualNode.sheetsIn (virtualAll nodes) =
      ((walkAll nodes).filterMap sheet?).map Css.Sheet.virtual
  | [] => rfl
  | node :: rest => by
      rw [virtualAll, VirtualNode.sheetsIn, sheets_virtual node, sheetsIn_virtualAll rest, walkAll,
        List.filterMap_append, List.map_append]
end

/-! ## Texts -/

/-- An element is written when what is in it is. -/
theorem bind_enclose {fault? : Option Unprintable} {outcome : Except Unprintable Text}
    {inside : Text} (written : outcome = stopAt fault? inside) (tag : Text)
    (attributes : List Attribute) :
    (outcome >>= fun inside => .ok (enclose tag attributes inside)) =
      stopAt fault? (enclose tag attributes inside) := by
  rw [written]
  cases fault? <;> rfl

theorem enclose_style (attributes : List Attribute) (inside : Text) :
    enclose "style" attributes inside =
      "<style" ++ Attribute.renderAll attributes ++ ['>'] ++ inside ++ "</style>" := by
  rw [enclose, List.append_assoc _ ['<', '/'], List.append_assoc _ _ ['>']]
  rfl

mutual
theorem write_virtual : ∀ node : Node Text,
    node.virtual.write = stopAt (node.unprintable? fun _ => none) (node.renderWith id)
  | .element tag attributes children =>
      bind_enclose (writeAll_virtualAll children) tag attributes
  | .style attributes sheet => by
      have written : sheet.virtual.write =
          stopAt (sheet.unprintable? fun _ => none) sheet.renderScoped := by
        rw [Css.Sheet.write_virtual, Css.Sheet.writeScoped]
        cases sheet.unprintable? fun _ => none <;> rfl
      rw [virtual, VirtualNode.write]
      simp only [← enclose_style]
      exact bind_enclose written "style" attributes
  | .fragment children => writeAll_virtualAll children
  | .text _ | .slot _ | .foreign _ => rfl

/-- Virtual nodes are written like the nodes that they have the fields of. -/
theorem writeAll_virtualAll : ∀ nodes : List (Node Text),
    VirtualNode.writeAll (virtualAll nodes) =
      stopAt (unprintableIn? (fun _ => none) nodes) (renderAllWith id nodes)
  | [] => rfl
  | node :: rest => by
      rw [virtualAll, VirtualNode.writeAll, write_virtual node, writeAll_virtualAll rest]
      exact stopAt_bind (map_stopAt _ _ _)
end

end Node

end ScopedMarkup.Markup
