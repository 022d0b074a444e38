import ScopedMarkup.Css.Selector.Printer
import ScopedMarkup.Css.Sheet.Basic

namespace ScopedMarkup.Css

/-! Style sheets as text, one rule or declaration a line, each level of blocks
two blanks further in. A foreign value prints as nothing; `write` refuses a
sheet that holds one. -/

/-- The indentation of the lines one level further in. -/
def deeper (indent : Text) : Text := indent ++ [' ', ' ']

def Declaration.render (indent : Text) (declaration : Declaration) : Text :=
  deeper indent ++ declaration.name ++ ": " ++ declaration.value ++ ";\n"

/-- A block: its head, the lines inside and the closing brace. -/
def block (indent head lines : Text) : Text :=
  indent ++ head ++ [' ', '{', '\n'] ++ lines ++ indent ++ ['}', '\n']

def declarationBlock (indent head : Text) (declarations : List Declaration) : Text :=
  block indent head (declarations.flatMap (Declaration.render indent))

def Keyframe.render (indent : Text) (frame : Keyframe) : Text :=
  declarationBlock indent frame.key frame.declarations

/-- The keyword of a conditional rule. -/
def Conditional.keyword : Conditional → Text
  | .media => "@media"
  | .supports => "@supports"
  | .document keyword => keyword

/-- A page rule for all pages names none. -/
def pageHead (selector : Text) : Text :=
  if selector = [] then "@page" else "@page " ++ selector

namespace Rule

mutual
def render (prelude : σ → Text) (indent : Text) : Rule σ → Text
  | .charset value => indent ++ "@charset " ++ value ++ ";\n"
  | .nameSpace value => indent ++ "@namespace " ++ value ++ ";\n"
  | .fontFace declarations => declarationBlock indent "@font-face" declarations
  | .conditional clause condition rules =>
      block indent (clause.keyword ++ [' '] ++ condition)
        (renderAll prelude (deeper indent) rules)
  | .page selector declarations => declarationBlock indent (pageHead selector) declarations
  | .keyframes keyword name frames =>
      block indent (keyword ++ [' '] ++ name) (frames.flatMap (Keyframe.render (deeper indent)))
  | .style selector declarations => declarationBlock indent (prelude selector) declarations
  | .foreign _ => []

def renderAll (prelude : σ → Text) (indent : Text) : List (Rule σ) → Text
  | [] => []
  | rule :: rest => render prelude indent rule ++ renderAll prelude indent rest
end

mutual
/-- The first value, in the order of the text, that cannot be printed. -/
def unprintable? (prelude : σ → Option Unprintable) : Rule σ → Option Unprintable
  | .conditional _ _ rules => unprintableIn? prelude rules
  | .style selector _ => prelude selector
  | .foreign value => some (.rule value.kind)
  | .charset _ | .nameSpace _ | .fontFace _ | .page .. | .keyframes .. => none

def unprintableIn? (prelude : σ → Option Unprintable) : List (Rule σ) → Option Unprintable
  | [] => none
  | rule :: rest => (unprintable? prelude rule).or (unprintableIn? prelude rest)
end

end Rule

def Selector.unprintable? (selector : Selector) : Option Unprintable :=
  selector.foreign?.map fun value => .selector value.kind

namespace Sheet

/-- The text of a sheet, given the text of its preludes. -/
def renderWith (prelude : σ → Text) (sheet : Sheet σ) : Text :=
  Rule.renderAll prelude [] sheet.rules

def render (sheet : Sheet Selector) : Text := sheet.renderWith Selector.render

/-- The text of a sheet whose preludes are text already. -/
def renderScoped (sheet : Sheet Text) : Text := sheet.renderWith id

def unprintable? (prelude : σ → Option Unprintable) (sheet : Sheet σ) : Option Unprintable :=
  Rule.unprintableIn? prelude sheet.rules

def write (sheet : Sheet Selector) : Except Unprintable Text :=
  match sheet.unprintable? Selector.unprintable? with
  | some error => .error error
  | none => .ok sheet.render

def writeScoped (sheet : Sheet Text) : Except Unprintable Text :=
  match sheet.unprintable? fun _ => none with
  | some error => .error error
  | none => .ok sheet.renderScoped

end Sheet

end ScopedMarkup.Css
