import ScopedMarkup.Css.Sheet.Evaluation
import ScopedMarkup.Markup.Reader
import ScopedMarkup.Markup.Virtual

namespace ScopedMarkup.Markup

/-! A component is scoped by marking each of its elements with an attribute and
each selector of its sheets so that it matches marked elements only. Style
elements get no marker themselves. What is scoped is counted on the way, and the
counts are reported at the end. -/

/-- Counts of what was scoped: elements, style elements, and the rules at the
top of their sheets. -/
structure Tally where
  elements : Nat
  styleElements : Nat
  rules : Nat
deriving DecidableEq, Repr

namespace Tally

def zero : Tally := ⟨0, 0, 0⟩

def add (left right : Tally) : Tally :=
  ⟨left.elements + right.elements, left.styleElements + right.styleElements,
    left.rules + right.rules⟩

/-- The message that reports a component as scoped. -/
def message (tally : Tally) (scope : Text) : Text :=
  "Compiled scope=" ++ scope ++ " elements=" ++ Text.ofNat tally.elements ++
    " style_elements=" ++ Text.ofNat tally.styleElements ++ " rules=" ++ Text.ofNat tally.rules

end Tally

namespace Node

/-- What a step makes of nodes one after the other, with the counts passed on. -/
def threadCounts (step : Tally → Node Css.Selector → Except Css.Halt (VirtualNode × Tally))
    (met : Tally) : List (Node Css.Selector) → Except Css.Halt (List VirtualNode × Tally)
  | [] => .ok ([], met)
  | node :: rest => do
      let (made, met) ← step met node
      let (others, met) ← threadCounts step met rest
      return (made :: others, met)

mutual
/-- The virtual node of a node, and what is scoped added to the counts so far. An
element counts before what is in it, a style element when its sheet is scoped. -/
def virtualWithin (scope : Text) (config : Config) : Nat → Tally → Node Css.Selector →
    Except Css.Halt (VirtualNode × Tally)
  | 0, _, _ => .error .outOfStack
  | room + 1, met, node =>
      match node with
      | .text value => .ok (.text value, met)
      | .slot script => .ok (.slot script, met)
      | .style attributes sheet => do
          let sheet ← sheet.evaluate room scope config
          return (.style attributes sheet, met.add ⟨0, 1, sheet.rules.length⟩)
      | .element tag attributes children => do
          let (children, met) ← childrenWithin scope config room (met.add ⟨1, 0, 0⟩) children
          return (.element tag (attributes ++ [⟨config.marker scope, none⟩]) children, met)
      | .fragment children => do
          let (children, met) ← childrenWithin scope config room met children
          return (.fragment children, met)
      | .foreign value => .error (.refused (.unsupportedNode value.kind))
termination_by structural room => room

/-- Going through the children is a call of its own. -/
def childrenWithin (scope : Text) (config : Config) : Nat → Tally → List (Node Css.Selector) →
    Except Css.Halt (List VirtualNode × Tally)
  | 0, _, _ => .error .outOfStack
  | room + 1, met, nodes => threadCounts (virtualWithin scope config room) met nodes
end

/-- Scope a tree on a stack with this much room, and the messages that this leaves
in the log. -/
def evaluateLogging (room : Nat) (node : Node Css.Selector) (scope : Text) (config : Config) :
    Except Css.Halt VirtualNode × List Text :=
  match room with
  | 0 => (.error .outOfStack, [])
  | room + 1 =>
      if scope = [] then (.error (.refused .emptyScope), [])
      else match node.virtualWithin scope config room .zero with
        | .error halt => (.error halt, [])
        | .ok (tree, counts) => (.ok tree, [counts.message scope])

/-- A virtual tree with the messages that its making leaves in the log. -/
structure Evaluated where
  tree : VirtualNode
  log : List Text
deriving Repr

/-- Scope a tree. What fails leaves nothing in the log. -/
def evaluate (room : Nat) (node : Node Css.Selector) (scope : Text) (config : Config) :
    Except Css.Halt Evaluated :=
  match node.evaluateLogging room scope config with
  | (.error halt, _) => .error halt
  | (.ok tree, log) => .ok ⟨tree, log⟩

example : evaluate 4 (.element "a" [] [.text "b"]) "x" .standard =
    .ok ⟨.element "a" [⟨"data-pc-x", none⟩] [.text "b"],
      ["Compiled scope=x elements=1 style_elements=0 rules=0"]⟩ := rfl

end Node

/-- Why a source cannot be compiled. -/
inductive CompileError where
  | read (error : Error)
  | halt (halt : Css.Halt)
deriving DecidableEq, Repr

/-- Read a source and scope it. Only a source that can be read is scoped. -/
def compile (room : Nat) (config : Config) (source scope : Text) :
    Except CompileError Node.Evaluated :=
  match read config source with
  | .error error => .error (.read error)
  | .ok node =>
      match node.evaluate room scope config with
      | .error halt => .error (.halt halt)
      | .ok result => .ok result

end ScopedMarkup.Markup
