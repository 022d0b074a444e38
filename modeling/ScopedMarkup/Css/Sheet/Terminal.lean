import ScopedMarkup.Css.Comment
import ScopedMarkup.Css.Name

namespace ScopedMarkup.Css.Sheet

/-! The pieces that a style sheet is read in. Preludes and values are kept raw;
quoted runs and parentheses in them stay whole, so that a semicolon or a brace
in there does not end them. -/

inductive Terminal where
  | prelude
  | value
  | keyframesKeyword
  | property
  | string
  | documentKeyword
  | nameSpaceKeyword
  | fontFaceKeyword
  | supportsKeyword
  | charsetKeyword
  | mediaKeyword
  | pageKeyword
  | colon
  | openBrace
  | closeBrace
  | semicolon
deriving DecidableEq, Repr

namespace Terminal

/-- All terminals, in the order in which they are tried. The grammar does not give
it; it is that of the lexer made from the grammar, in which the first terminal that
matches counts. -/
def all : List Terminal :=
  [.prelude, .value, .keyframesKeyword, .property, .string, .documentKeyword, .nameSpaceKeyword,
    .fontFaceKeyword, .supportsKeyword, .charsetKeyword, .mediaKeyword, .pageKeyword, .colon,
    .openBrace, .closeBrace, .semicolon]

/-- Parentheses around quoted runs and other characters, opening parentheses
among them. -/
def parenthesis : Scanner :=
  .literal "(" ++ .many (quotedOrOutside ")\"'\x7b\x7d") ++ .literal ")"

/-- A run of quoted runs, parentheses and other characters. The first of these
characters is no blank and none that is excluded at the start. -/
def raw (excludedFirst : Text) : Scanner :=
  (parenthesis <|> Scanner.string <|>
      Scanner.character fun first => !isBlank first && !excludedFirst.contains first) ++
    .many (parenthesis <|> quotedOrOutside "\x7b\x7d;\"'(")

/-- A vendor name between hyphens, such as `-webkit-`. -/
def vendor : Scanner :=
  .literal "-" ++ .character Char.isLower ++ .run Char.isLower ++ .literal "-"

def scanner : Terminal → Scanner
  | .prelude => raw "\x7b\x7d;@\"'("
  | .value => raw "\x7b\x7d;\"'("
  | .keyframesKeyword => .literal "@" ++ .optional vendor ++ .literal "keyframes"
  | .property => .optional (.literal "-") ++ .optional (.literal "-") ++ name
  | .string => .string
  | .documentKeyword => .literal "@" ++ .optional (.literal "-moz-") ++ .literal "document"
  | .nameSpaceKeyword => .literal "@namespace"
  | .fontFaceKeyword => .literal "@font-face"
  | .supportsKeyword => .literal "@supports"
  | .charsetKeyword => .literal "@charset"
  | .mediaKeyword => .literal "@media"
  | .pageKeyword => .literal "@page"
  | .colon => .literal ":"
  | .openBrace => .literal ['{']
  | .closeBrace => .literal ['}']
  | .semicolon => .literal ";"

example : (scanner .value).scan "url(a;b) x; c" =
    some (("url(a;b) x" : Text), ("; c" : Text)) := by decide +kernel

end Terminal

/-- Of the blanks, only these stand between the pieces of a sheet. -/
def isSpace (character : Char) : Bool := (" \t\x0c\r\n" : Text).contains character

/-- The text without the space and the comments at its start. -/
def skipGap (text : Text) : Text :=
  (Scanner.items (.character isSpace <|> comment) text).2

example : skipGap " /* a */\n/ b" = ("/ b" : Text) := by decide +kernel

theorem skipGap_suffix (text : Text) : skipGap text <:+ text :=
  ⟨_, Scanner.items_splits _ text⟩

end ScopedMarkup.Css.Sheet
