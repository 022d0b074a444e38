import ScopedMarkup.Text.Scanner
import ScopedMarkup.Text.WordCharacter

namespace ScopedMarkup.Css

/-! The pieces that sheets and selectors share: names, and runs of characters
in which quotes are kept whole. -/

def startsName (character : Char) : Bool := character.isAlpha || character = '_'

def continuesName (character : Char) : Bool := isWordCharacter character || character = '-'

def name : Scanner := .character startsName ++ .run continuesName

/-- Quoted runs and characters outside a set. -/
def quotedOrOutside (excluded : Text) : Scanner :=
  Scanner.string <|> Scanner.character fun found => !excluded.contains found

example : (Scanner.many (quotedOrOutside "]\"'")).scan "a\"]\"]" =
    some (("a\"]\"" : Text), ("]" : Text)) := by decide +kernel

end ScopedMarkup.Css
