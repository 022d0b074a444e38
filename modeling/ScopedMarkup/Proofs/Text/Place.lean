import Mathlib.Data.List.DropRight
import ScopedMarkup.Text.Place

/-! # What a place says

The bytes before an index are those of the text before it, its line counts the line
feeds before it, and its column counts the characters since the last one.
-/

namespace ScopedMarkup

namespace Text

/-- The number of bytes is that of the text as a string. -/
theorem byteLength_eq_utf8ByteSize (text : Text) :
    byteLength text = (String.ofList text).utf8ByteSize := by
  induction text with
  | nil => simp [byteLength]
  | cons character rest induction =>
      rw [byteLength, induction, ← List.singleton_append, String.ofList_append,
        String.utf8ByteSize_append]
      simp

/-- What follows the last line feed. -/
def lastLine (text : Text) : Text := text.rtakeWhile (· ≠ '\n')

example : lastLine "ab\nc" = ("c" : Text) := by decide

theorem foldl_advance (text : Text) :
    text.foldl Location.advance Location.start =
      ⟨text.count '\n' + 1, (lastLine text).length + 1⟩ := by
  induction text using List.reverseRecOn with
  | nil => rfl
  | append_singleton text last induction =>
      rw [List.foldl_append, induction, List.foldl_cons, List.foldl_nil, Location.advance,
        List.count_append]
      by_cases feed : last = '\n'
      · simp [feed, lastLine]
      · simp [feed, lastLine]

/-- A place in a text is told by what stands before it. -/
theorem locate_eq {source : Text} {index : Nat} (inside : index ≤ source.length) :
    source.locate index =
      ⟨(source.take index).count '\n' + 1, (lastLine (source.take index)).length + 1⟩ := by
  have within : index - source.length = 0 := Nat.sub_eq_zero_of_le inside
  rw [locate, foldl_advance, within]

end Text

/-- What stands before an index of a text tells each part of the place. -/
theorem Place.of_eq {source : Text} {index : Nat} (inside : index ≤ source.length) :
    Place.of source index =
      ⟨index, (String.ofList (source.take index)).utf8ByteSize,
        ⟨(source.take index).count '\n' + 1,
          (Text.lastLine (source.take index)).length + 1⟩⟩ := by
  rw [Place.of, Text.locate_eq inside, Text.byteOffset, Text.byteLength_eq_utf8ByteSize]

end ScopedMarkup
