import ScopedMarkup.Text.Place
import ScopedMarkup.Text.Quoted
import ScopedMarkup.Text.Scanner

namespace ScopedMarkup.Css

/-! What can be wrong with the text of a style sheet or a selector. -/

/-- What a limit on nesting counts. -/
inductive Nested where
  | blocks
  | selector
deriving DecidableEq, Repr

def Nested.name : Nested → Text
  | .blocks => "blocks"
  | .selector => "selector"

inductive Reason where
  | unexpectedCharacter (character : Char)
  | unexpectedText (text : Text)
  | unexpectedEnd
  | tooDeep (nested : Nested) (limit : Nat)
  | malformedAttribute (text : Text)
deriving DecidableEq, Repr

def Reason.render : Reason → Text
  | .unexpectedCharacter character => "unexpected character " ++ Text.quoted [character]
  | .unexpectedText text => "unexpected " ++ Text.quoted text
  | .unexpectedEnd => "unexpected end of input"
  | .tooDeep nested limit =>
      nested.name ++ " nested deeper than " ++ Text.ofNat limit ++ " levels"
  | .malformedAttribute text => "Invalid attribute selector: " ++ Text.quoted text

/-- Why the text cannot go on as it does: the first piece that any kind
recognises there, or else the character that stands there. -/
def Reason.unexpected (scanner : κ → Scanner) (kinds : List κ) (text : Text) : Reason :=
  match Scanner.firstMatch? scanner text kinds with
  | some found => .unexpectedText found.piece
  | none =>
      match text with
      | [] => .unexpectedEnd
      | character :: _ => .unexpectedCharacter character

/-- A reason found while reading, with the text that was left at that point. -/
structure Fault where
  reason : Reason
  rest : Text
deriving DecidableEq, Repr

/-- A reason with its place. -/
structure Error where
  reason : Reason
  place : Place
deriving DecidableEq, Repr

namespace Error

def ofFault (source : Text) (fault : Fault) : Error :=
  ⟨fault.reason, Place.ofRest source fault.rest⟩

def message (error : Error) : Text :=
  "Invalid CSS at " ++ error.place.location.render ++ ": " ++ error.reason.render

end Error

end ScopedMarkup.Css
