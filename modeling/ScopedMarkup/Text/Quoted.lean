import ScopedMarkup.Text.Printable

namespace ScopedMarkup

/-! Messages show text between quotes. The quotes are single, unless the text
holds a single quote and no double quote. The backslash and the chosen quote
are escaped, and so is every character that cannot be shown. -/

namespace Text

/-- The lower-case hexadecimal digits of a number, filled up with zeros. -/
def hexadecimal (width value : Nat) : Text :=
  let digits := Nat.toDigits 16 value
  List.replicate (width - digits.length) '0' ++ digits

/-- How one character stands between two such quotes. -/
def escape (quote character : Char) : Text :=
  if character = quote ∨ character = '\\' then ['\\', character]
  else if character = '\n' then "\\n"
  else if character = '\r' then "\\r"
  else if character = '\t' then "\\t"
  else if isPrintable character then [character]
  else if character.toNat < 0x100 then "\\x" ++ hexadecimal 2 character.toNat
  else if character.toNat < 0x10000 then "\\u" ++ hexadecimal 4 character.toNat
  else "\\U" ++ hexadecimal 8 character.toNat

/-- The quote that a text is shown between. -/
def quoteFor (text : Text) : Char :=
  if text.contains '\'' && !text.contains '"' then '"' else '\''

def quoted (text : Text) : Text :=
  let quote := quoteFor text
  quote :: text.flatMap (escape quote) ++ [quote]

example : quoted "it's" = ("\"it's\"" : Text) := by decide

example : quoted "a\n\x01\\" = ("'a\\n\\x01\\\\'" : Text) := by decide

end Text

end ScopedMarkup
