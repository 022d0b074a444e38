import ScopedMarkup.Text.Basic

namespace ScopedMarkup

/-! A place names one index of a source in four ways: the index itself, which
counts code points; the count of UTF-8 bytes before it; and a line and a
column, both from 1. Only a line feed ends a line. -/

structure Location where
  line : Nat
  column : Nat
deriving DecidableEq, Repr

namespace Location

def start : Location := ⟨1, 1⟩

/-- The location after one more character. -/
def advance (location : Location) (character : Char) : Location :=
  if character = '\n' then ⟨location.line + 1, 1⟩ else ⟨location.line, location.column + 1⟩

end Location

namespace Text

/-- The location at an index. An index past the end is that much further on
the last line. -/
def locate (source : Text) (index : Nat) : Location :=
  let reached := (source.take index).foldl Location.advance Location.start
  ⟨reached.line, reached.column + (index - source.length)⟩

example : locate "ab\nc" 3 = ⟨2, 1⟩ ∧ locate "ab\nc" 9 = ⟨2, 7⟩ := by decide

/-- The number of UTF-8 bytes that a text takes. -/
def byteLength : Text → Nat
  | [] => 0
  | character :: rest => character.utf8Size + byteLength rest

/-- The number of UTF-8 bytes before an index, which stops at the end. -/
def byteOffset (source : Text) (index : Nat) : Nat := byteLength (source.take index)

example : byteOffset "é<" 1 = 2 ∧ byteOffset "é<" 5 = 3 := by decide

end Text

structure Place where
  index : Nat
  byteOffset : Nat
  location : Location
deriving DecidableEq, Repr

namespace Place

def of (source : Text) (index : Nat) : Place :=
  ⟨index, source.byteOffset index, source.locate index⟩

/-- The place where the rest of a source begins. -/
def ofRest (source rest : Text) : Place := of source (source.length - rest.length)

end Place

/-- The words that messages name a location with. -/
def Location.render (location : Location) : Text :=
  "line " ++ Text.ofNat location.line ++ ", column " ++ Text.ofNat location.column

end ScopedMarkup
