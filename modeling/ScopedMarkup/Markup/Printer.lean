import ScopedMarkup.Css.Sheet.Printer
import ScopedMarkup.Markup.Node

namespace ScopedMarkup.Markup

/-! Markup trees as text. Every element gets a closing tag. A foreign value
prints as nothing; `write` refuses a tree that holds one. -/

namespace Attribute

/-- The value stands between double quotes, unless it holds one. -/
def render (entry : Attribute) : Text :=
  match entry.value with
  | none => entry.name
  | some value =>
      let quote := if value.contains '"' then '\'' else '"'
      entry.name ++ '=' :: quote :: value ++ [quote]

/-- The attributes, each after a space. -/
def renderAll (attributes : List Attribute) : Text :=
  attributes.flatMap fun entry => ' ' :: entry.render

example : renderAll [⟨"a", none⟩, ⟨"b", some "\""⟩] = (" a b='\"'" : Text) := by decide

end Attribute

/-- An element's text: the open tag, what is inside, the closing tag. -/
def enclose (tag : Text) (attributes : List Attribute) (inside : Text) : Text :=
  '<' :: tag ++ Attribute.renderAll attributes ++ ['>'] ++ inside ++ ['<', '/'] ++ tag ++ ['>']

def slotText (script : Text) : Text := ['{', '{'] ++ script ++ ['}', '}']

namespace Node

mutual
/-- The text of a node, given the text of the preludes in its sheets. -/
def renderWith (prelude : σ → Text) : Node σ → Text
  | .text value => value
  | .slot script => slotText script
  | .element tag attributes children =>
      enclose tag attributes (renderAllWith prelude children)
  | .style attributes sheet => enclose "style" attributes (sheet.renderWith prelude)
  | .fragment children => renderAllWith prelude children
  | .foreign _ => []

def renderAllWith (prelude : σ → Text) : List (Node σ) → Text
  | [] => []
  | node :: rest => renderWith prelude node ++ renderAllWith prelude rest
end

def render (node : Node Css.Selector) : Text := node.renderWith Css.Selector.render

mutual
/-- The first value, in the order of the text, that cannot be printed. -/
def unprintable? (prelude : σ → Option Unprintable) : Node σ → Option Unprintable
  | .text _ | .slot _ => none
  | .element _ _ children => unprintableIn? prelude children
  | .style _ sheet => sheet.unprintable? prelude
  | .fragment children => unprintableIn? prelude children
  | .foreign value => some (.node value.kind)

def unprintableIn? (prelude : σ → Option Unprintable) : List (Node σ) → Option Unprintable
  | [] => none
  | node :: rest => (unprintable? prelude node).or (unprintableIn? prelude rest)
end

def write (node : Node Css.Selector) : Except Unprintable Text :=
  match node.unprintable? Css.Selector.unprintable? with
  | some error => .error error
  | none => .ok node.render

end Node

end ScopedMarkup.Markup
