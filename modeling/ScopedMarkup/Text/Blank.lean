import ScopedMarkup.Text.CharacterClass

namespace ScopedMarkup

/-! Blanks separate words. They are the characters that Unicode calls white
space, and the four separators U+001C to U+001F. A zero-width space or a byte
order mark is no blank. -/

def blankClass : CharacterClass :=
  [(0x9, 0xD), (0x1C, 0x20), (0x85, 0x85), (0xA0, 0xA0), (0x1680, 0x1680), (0x2000, 0x200A),
    (0x2028, 0x2029), (0x202F, 0x202F), (0x205F, 0x205F), (0x3000, 0x3000)]

def isBlank (character : Char) : Bool := blankClass.covers character

example : isBlank '\t' ∧ isBlank '\u00a0' ∧ ¬ isBlank '\u200b' ∧ ¬ isBlank 'a' := by decide

namespace Text

/-- The text without the blanks at its start. -/
def trimStart (text : Text) : Text := text.dropWhile isBlank

/-- The text without the blanks at its end. -/
def trimEnd (text : Text) : Text := (trimStart text.reverse).reverse

def trim (text : Text) : Text := trimEnd (trimStart text)

example : trim " \n a b\t" = ("a b" : Text) := by decide

/-- The maximal runs of characters that are no blanks. -/
def words : Text → List Text
  | [] => []
  | character :: rest =>
      if isBlank character then words rest
      else match rest with
        | [] => [[character]]
        | next :: _ =>
            if isBlank next then [character] :: words rest
            else match words rest with
              | [] => [[character]]
              | word :: more => (character :: word) :: more

example : words " if  x\n" = [("if" : Text), ("x" : Text)] := by decide

end Text

end ScopedMarkup
