import ScopedMarkup.Text.Blank

namespace ScopedMarkup

/-! Integers as they are typed: digits of any script, single underscores between
digits, perhaps a sign, and blanks around. There is a limit on how many digits
are read. -/

/-- The zeros of the scripts outside ASCII. The other digits follow each. -/
def digitZeros : List Nat :=
  [0x660, 0x6F0, 0x7C0, 0x966, 0x9E6, 0xA66, 0xAE6, 0xB66, 0xBE6, 0xC66, 0xCE6, 0xD66, 0xDE6,
    0xE50, 0xED0, 0xF20, 0x1040, 0x1090, 0x17E0, 0x1810, 0x1946, 0x19D0, 0x1A80, 0x1A90, 0x1B50,
    0x1BB0, 0x1C40, 0x1C50, 0xA620, 0xA8D0, 0xA900, 0xA9D0, 0xA9F0, 0xAA50, 0xABF0, 0xFF10,
    0x104A0, 0x10D30, 0x11066, 0x110F0, 0x11136, 0x111D0, 0x112F0, 0x11450, 0x114D0, 0x11650,
    0x116C0, 0x11730, 0x118E0, 0x11950, 0x11C50, 0x11D50, 0x11DA0, 0x16A60, 0x16AC0, 0x16B50,
    0x1D7CE, 0x1D7D8, 0x1D7E2, 0x1D7EC, 0x1D7F6, 0x1E140, 0x1E2F0, 0x1E950, 0x1FBF0]

/-- The value of a decimal digit. -/
def digitValue? (character : Char) : Option Nat :=
  (('0'.toNat :: digitZeros).find? fun start =>
    start ≤ character.toNat && character.toNat < start + 10).map (character.toNat - ·)

example : digitValue? '7' = some 7 ∧ digitValue? '\u0663' = some 3 ∧ digitValue? 'a' = none := by
  decide +kernel

namespace Text

/-- Blanks may stand around an integer, the separators U+001C to U+001F not. -/
def padsInteger (character : Char) : Bool :=
  isBlank character && !(0x1C ≤ character.toNat && character.toNat ≤ 0x1F)

/-- The number that digits go on to write, after digits of this value. -/
def digitsFrom (value : Nat) : Text → Option Nat
  | [] => some value
  | '_' :: character :: rest =>
      (digitValue? character).bind fun digit => digitsFrom (value * 10 + digit) rest
  | character :: rest =>
      (digitValue? character).bind fun digit => digitsFrom (value * 10 + digit) rest

/-- The greatest number of digits that are read. -/
def greatestDigitCount : Nat := 4300

def natural? (digits : Text) : Option Nat :=
  if digits.countP (· ≠ '_') > greatestDigitCount then none
  else match digits with
    | [] => none
    | first :: rest => (digitValue? first).bind fun digit => digitsFrom digit rest

def integer? (text : Text) : Option Int :=
  let unpadded := ((text.dropWhile padsInteger).reverse.dropWhile padsInteger).reverse
  match unpadded with
  | '-' :: digits => (natural? digits).map fun value => -Int.ofNat value
  | '+' :: digits => (natural? digits).map Int.ofNat
  | digits => (natural? digits).map Int.ofNat

example : integer? " +1_0 " = some 10 ∧ integer? "1__0" = none ∧ integer? "1.5" = none := by
  decide +kernel

end Text

end ScopedMarkup
