namespace ScopedMarkup

/-! Text is a list of code points. An index into a text counts code points, a
scan of it is recursion on the list, and a literal such as `"div"` may stand
where text is wanted. Half of a surrogate pair is no code point here, so every
text can be encoded. -/

abbrev Text := List Char

instance : Coe String Text := ⟨String.toList⟩

namespace Text

/-- The decimal digits of a count. -/
def ofNat (count : Nat) : Text := Nat.toDigits 10 count

def ofInt : Int → Text
  | .ofNat count => ofNat count
  | .negSucc count => '-' :: ofNat (count + 1)

example : ofNat 256 = ("256" : Text) ∧ ofInt (-3) = ("-3" : Text) := by decide

/-- The parts in order, with the separator between each two of them. -/
def join (separator : Text) : List Text → Text
  | [] => []
  | [part] => part
  | part :: next :: rest => part ++ separator ++ join separator (next :: rest)

example : join ", " ["a", "b", "c"] = ("a, b, c" : Text) := by decide

/-- What follows the lead, if the text starts with it. -/
def after? : (text lead : Text) → Option Text
  | text, [] => some text
  | [], _ :: _ => none
  | character :: text, expected :: lead =>
      if character = expected then after? text lead else none

theorem eq_append_of_after? {text lead rest : Text}
    (found : text.after? lead = some rest) : text = lead ++ rest := by
  induction lead generalizing text with
  | nil => simpa [after?] using found
  | cons expected lead induction =>
      cases text with
      | nil => simp [after?] at found
      | cons character text =>
          simp only [after?] at found
          split at found
          · rename_i equal
            rw [equal, induction found, List.cons_append]
          · simp at found

@[simp] theorem after?_append (lead rest : Text) :
    after? (lead ++ rest) lead = some rest := by
  induction lead with
  | nil => simp [after?]
  | cons first lead induction => simp [after?, induction]

/-- The text cut at the first occurrence of the mark: what stands before it
and what follows it. -/
def cut? (text mark : Text) : Option (Text × Text) :=
  match text.after? mark with
  | some rest => some ([], rest)
  | none =>
      match text with
      | [] => none
      | character :: rest =>
          (cut? rest mark).map fun (before, following) => (character :: before, following)

example : cut? "a */ b */" "*/" = some (("a " : Text), (" b */" : Text)) := by decide

theorem eq_append_of_cut? {text mark before following : Text}
    (found : text.cut? mark = some (before, following)) :
    text = before ++ mark ++ following := by
  induction text generalizing before with
  | nil =>
      unfold cut? at found
      split at found
      · rename_i rest begins
        have equal := eq_append_of_after? begins
        simp only [Option.some.injEq, Prod.mk.injEq] at found
        obtain ⟨rfl, rfl⟩ := found
        simpa using equal
      · simp at found
  | cons character text induction =>
      unfold cut? at found
      split at found
      · rename_i rest begins
        have equal := eq_append_of_after? begins
        simp only [Option.some.injEq, Prod.mk.injEq] at found
        obtain ⟨rfl, rfl⟩ := found
        simpa using equal
      · simp only [Option.map_eq_some_iff, Prod.exists, Prod.mk.injEq] at found
        obtain ⟨front, rest, inner, rfl, rfl⟩ := found
        simp [induction inner]

end Text

end ScopedMarkup
