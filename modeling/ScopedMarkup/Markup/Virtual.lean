import ScopedMarkup.Css.Sheet.Virtual
import ScopedMarkup.Markup.Printer

namespace ScopedMarkup.Markup

/-! Virtual trees are what scoping makes of trees. Their style elements hold
virtual sheets, and they are written by functions of their own. -/

inductive VirtualNode where
  | text (value : Text)
  /-- The expression is kept raw. -/
  | slot (script : Text)
  | element (tag : Text) (attributes : List Attribute) (children : List VirtualNode)
  | style (attributes : List Attribute) (sheet : Css.VirtualSheet)
  | fragment (children : List VirtualNode)
  | foreign (value : Foreign)
deriving Repr

namespace VirtualNode

mutual
/-- The text of a node. The first foreign value in the order of the text ends the
writing. -/
def write : VirtualNode → Except Unprintable Text
  | .text value => .ok value
  | .slot script => .ok (['{', '{'] ++ script ++ ['}', '}'])
  | .style attributes sheet => do
      let inside ← sheet.write
      return "<style" ++ Attribute.renderAll attributes ++ ['>'] ++ inside ++ "</style>"
  | .element tag attributes children => do
      let inside ← writeAll children
      return ['<'] ++ tag ++ Attribute.renderAll attributes ++ ['>'] ++ inside ++
        ['<', '/'] ++ tag ++ ['>']
  | .fragment children => writeAll children
  | .foreign value => .error (.node value.kind)

def writeAll : List VirtualNode → Except Unprintable Text
  | [] => .ok []
  | node :: rest => do
      let text ← write node
      let others ← writeAll rest
      return text ++ others
end

mutual
/-- The sheets of a tree in the order of its text. -/
def sheets : VirtualNode → List Css.VirtualSheet
  | .style _ sheet => [sheet]
  | .element _ _ children => sheetsIn children
  | .fragment children => sheetsIn children
  | .text _ | .slot _ | .foreign _ => []

def sheetsIn : List VirtualNode → List Css.VirtualSheet
  | [] => []
  | node :: rest => sheets node ++ sheetsIn rest
end

end VirtualNode

end ScopedMarkup.Markup
