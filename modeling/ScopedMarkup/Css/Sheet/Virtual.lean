import ScopedMarkup.Css.Sheet.Printer

namespace ScopedMarkup.Css

/-! Virtual sheets are what scoping makes of sheets. They have kinds of rules of
their own, in which a style rule has text in place of its selector, and they are
written by functions of their own. -/

structure StyleProperty where
  name : Text
  value : Text
deriving DecidableEq, Repr

structure VirtualKeyframe where
  key : Text
  properties : List StyleProperty
deriving DecidableEq, Repr

inductive VirtualRule where
  | charset (value : Text)
  | nameSpace (value : Text)
  | fontFace (properties : List StyleProperty)
  | media (condition : Text) (rules : List VirtualRule)
  | supports (condition : Text) (rules : List VirtualRule)
  | document (keyword condition : Text) (rules : List VirtualRule)
  | page (selector : Text) (properties : List StyleProperty)
  | keyframes (keyword name : Text) (frames : List VirtualKeyframe)
  | style (selector : Text) (properties : List StyleProperty)
  | foreign (value : Foreign)
deriving Repr

structure VirtualSheet where
  rules : List VirtualRule := []
deriving Repr

def StyleProperty.render (indent : Text) (property : StyleProperty) : Text :=
  deeper indent ++ property.name ++ ": " ++ property.value ++ ";\n"

def propertyBlock (indent head : Text) (properties : List StyleProperty) : Text :=
  block indent head (properties.flatMap (StyleProperty.render indent))

def VirtualKeyframe.render (indent : Text) (frame : VirtualKeyframe) : Text :=
  propertyBlock indent frame.key frame.properties

namespace VirtualRule

mutual
/-- The text of a rule. The first foreign value in the order of the text ends the
writing. -/
def write (indent : Text) : VirtualRule → Except Unprintable Text
  | .style selector properties => .ok (propertyBlock indent selector properties)
  | .charset value => .ok (indent ++ "@charset " ++ value ++ ";\n")
  | .nameSpace value => .ok (indent ++ "@namespace " ++ value ++ ";\n")
  | .fontFace properties => .ok (propertyBlock indent "@font-face" properties)
  | .media condition rules => do
      let inside ← writeAll (deeper indent) rules
      return block indent ("@media " ++ condition) inside
  | .supports condition rules => do
      let inside ← writeAll (deeper indent) rules
      return block indent ("@supports " ++ condition) inside
  | .document keyword condition rules => do
      let inside ← writeAll (deeper indent) rules
      return block indent (keyword ++ [' '] ++ condition) inside
  | .page selector properties =>
      let head : Text := if selector = [] then "@page" else "@page " ++ selector
      .ok (propertyBlock indent head properties)
  | .keyframes keyword name frames =>
      .ok (block indent (keyword ++ [' '] ++ name)
        (frames.flatMap (VirtualKeyframe.render (deeper indent))))
  | .foreign value => .error (.rule value.kind)

def writeAll (indent : Text) : List VirtualRule → Except Unprintable Text
  | [] => .ok []
  | rule :: rest => do
      let text ← write indent rule
      let others ← writeAll indent rest
      return text ++ others
end

end VirtualRule

def VirtualSheet.write (sheet : VirtualSheet) : Except Unprintable Text :=
  VirtualRule.writeAll [] sheet.rules

end ScopedMarkup.Css
