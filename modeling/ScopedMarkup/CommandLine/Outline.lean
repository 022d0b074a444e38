import ScopedMarkup.Markup.Printer
import ScopedMarkup.Text.Blank

namespace ScopedMarkup.CommandLine

/-! The outline of a tree: a line for each node and each rule, indented by its
depth. -/

open ScopedMarkup.Markup

/-- The greatest length of a preview. -/
def previewLength : Nat := 50

/-- A text on one line, cut where it gets too long. -/
def preview (text : Text) : Text :=
  let line := Text.join " " text.words
  if line.length > previewLength then line.take previewLength ++ "..." else line

/-- Style rules are shown by their selector, others by the name of their kind. -/
def ruleLine (indent : Text) : Css.Rule Css.Selector → Text
  | .style selector _ => indent ++ [' ', ' '] ++ selector.render
  | rule => indent ++ [' ', ' '] ++ rule.kind

mutual
def outline (indent : Text) : Node Css.Selector → List Text
  | .text value => [indent ++ "Text \"" ++ preview value ++ "\""]
  | .slot script => [indent ++ "Slot " ++ slotText (preview script)]
  | .style attributes sheet =>
      (indent ++ "StyleElement" ++ Attribute.renderAll attributes ++ " (" ++
          Text.ofNat sheet.rules.length ++ " rules)") ::
        sheet.rules.map (ruleLine indent)
  | .element tag attributes children =>
      (indent ++ ['<'] ++ tag ++ Attribute.renderAll attributes ++ ['>']) ::
        outlineAll (indent ++ [' ', ' ']) children
  | .fragment children =>
      (indent ++ "Fragment (" ++ Text.ofNat children.length ++ " nodes)") ::
        outlineAll (indent ++ [' ', ' ']) children
  | .foreign _ => []

def outlineAll (indent : Text) : List (Node Css.Selector) → List Text
  | [] => []
  | node :: rest => outline indent node ++ outlineAll indent rest
end

end ScopedMarkup.CommandLine
