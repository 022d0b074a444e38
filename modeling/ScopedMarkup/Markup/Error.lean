import ScopedMarkup.Css.Error
import ScopedMarkup.Markup.Token

namespace ScopedMarkup.Markup

/-! What can be wrong with the source of a component. Reading stops at the
first problem. -/

inductive Cause where
  | unexpectedToken (token : Token)
  | unexpectedEnd
  | nestingTooDeep (limit : Nat)
  | mismatchedClose (closing opening : Text)
  | duplicateAttribute (name : Text)
  | invalidStyle (reason : Css.Reason)
deriving DecidableEq, Repr

/-- A cause found while reading, with the text that was left at that point. -/
structure Fault where
  cause : Cause
  rest : Text
deriving DecidableEq, Repr

structure Error where
  cause : Cause
  place : Place
deriving DecidableEq, Repr

namespace Error

def ofFault (source : Text) (fault : Fault) : Error :=
  ⟨fault.cause, Place.ofRest source fault.rest⟩

def message (error : Error) : Text :=
  let location := error.place.location.render
  match error.cause with
  | .unexpectedToken token =>
      "Unexpected token " ++ token.kind.name ++ " " ++ Text.quoted token.value ++ " at " ++ location
  | .unexpectedEnd => "Unexpected end of input"
  | .nestingTooDeep limit => "Elements nested deeper than " ++ Text.ofNat limit ++ " levels"
  | .mismatchedClose closing opening =>
      "Closing tag </" ++ closing ++ "> does not match <" ++ opening ++ ">"
  | .duplicateAttribute name => "Duplicate attribute " ++ Text.quoted name
  | .invalidStyle reason => "Invalid <style> body at " ++ location ++ ": " ++ reason.render

end Error

end ScopedMarkup.Markup
