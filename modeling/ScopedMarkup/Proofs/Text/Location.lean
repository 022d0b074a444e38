import ScopedMarkup.Css.Error
import ScopedMarkup.Proofs.Text.Place

/-! # The order of locations, and locations in a part of a text

Each character moves a location on, so the locations of the indices of a text stand in the
order of these. A part of a text has locations of its own, counted from its start. The text
locates the same index by going on from the location at which the part begins.

`Place.of_eq` says what these places are in terms of the text before an index: the line is
one more than its line feeds, and the column one more than what follows the last of them.
-/

namespace ScopedMarkup

namespace Location

variable {left middle right seam inner : Location}

/-! ## The order -/

/-- On an earlier line, or further left on the same line. -/
def Before (left right : Location) : Prop :=
  left.line < right.line ∨ left.line = right.line ∧ left.column < right.column

theorem Before.trans (first : left.Before middle) (second : middle.Before right) :
    left.Before right := by
  unfold Before at *
  omega

theorem Before.ne (before : left.Before right) : left ≠ right := by
  rintro rfl
  rcases before with less | ⟨-, less⟩
  · exact Nat.lt_irrefl _ less
  · exact Nat.lt_irrefl _ less

theorem before_advance (location : Location) (character : Char) :
    location.Before (location.advance character) := by
  unfold advance
  split
  · exact .inl (Nat.lt_succ_self _)
  · exact .inr ⟨rfl, Nat.lt_succ_self _⟩

/-- Any text that is not empty moves a location on. -/
theorem before_foldl_advance {text : Text} (nonempty : text ≠ []) (location : Location) :
    location.Before (text.foldl advance location) := by
  induction text generalizing location with
  | nil => exact absurd rfl nonempty
  | cons character rest induction =>
      rw [List.foldl_cons]
      cases rest with
      | nil => exact before_advance location character
      | cons next rest =>
          exact (before_advance location character).trans
            (induction (List.cons_ne_nil next rest) _)

/-! ## Locations in a part -/

/-- Where the part of a text that begins at a seam has this location of its own. Only the
first line of the part goes on with a line of the text. -/
def shift (seam inner : Location) : Location :=
  if inner.line = 1 then ⟨seam.line, seam.column + inner.column - 1⟩
  else ⟨seam.line + inner.line - 1, inner.column⟩

example : shift ⟨2, 5⟩ ⟨1, 3⟩ = ⟨2, 7⟩ ∧ shift ⟨2, 5⟩ ⟨4, 3⟩ = ⟨5, 3⟩ := by decide

/-- Lines and columns are counted from 1. -/
structure Counted (location : Location) : Prop where
  line : 1 ≤ location.line
  column : 1 ≤ location.column

theorem Counted.advance (counted : inner.Counted) (character : Char) :
    (inner.advance character).Counted := by
  unfold Location.advance
  split
  · exact ⟨Nat.le_add_left 1 inner.line, Nat.le_refl 1⟩
  · exact ⟨counted.line, Nat.le_add_left 1 inner.column⟩

/-- One more character moves both locations on alike. -/
theorem shift_advance (seam : Location) (counted : inner.Counted) (character : Char) :
    seam.shift (inner.advance character) = (seam.shift inner).advance character := by
  have lines := counted.line
  have columns := counted.column
  by_cases feed : character = '\n'
  · -- Behind a line feed the part is on a line of its own.
    have further : inner.line + 1 ≠ 1 := by omega
    by_cases first : inner.line = 1
    · simp [advance, shift, feed, first]
    · simp only [advance, shift, feed, first, further, if_true, if_false, Location.mk.injEq,
        and_true]
      omega
  · by_cases first : inner.line = 1
    · simp only [advance, shift, feed, first, if_true, if_false, Location.mk.injEq, true_and]
      omega
    · simp only [advance, shift, feed, first, if_false]

/-- A text read from a seam on ends where the locations of the text alone say. -/
theorem foldl_advance_shift (seam : Location) (text : Text) (counted : inner.Counted) :
    text.foldl advance (seam.shift inner) = seam.shift (text.foldl advance inner) := by
  induction text generalizing inner with
  | nil => rfl
  | cons character rest induction =>
      rw [List.foldl_cons, List.foldl_cons, ← shift_advance seam counted,
        induction (counted.advance character)]

theorem shift_start (seam : Location) : seam.shift start = seam := rfl

end Location

namespace Text

variable {source : Text} {index earlier later : Nat}

/-! ## The number of bytes -/

theorem byteLength_append (left right : Text) :
    byteLength (left ++ right) = byteLength left + byteLength right := by
  induction left with
  | nil => simp [byteLength]
  | cons character left induction =>
      rw [List.cons_append, byteLength, induction, byteLength, Nat.add_assoc]

theorem byteLength_pos {text : Text} (nonempty : text ≠ []) : 0 < byteLength text := by
  cases text with
  | nil => exact absurd rfl nonempty
  | cons character rest =>
      exact Nat.lt_of_lt_of_le character.utf8Size_pos (Nat.le_add_right _ _)

theorem byteOffset_append (before rest : Text) (index : Nat) :
    byteOffset (before ++ rest) (before.length + index) =
      byteOffset (before ++ rest) before.length + byteLength (rest.take index) := by
  rw [byteOffset, byteOffset, List.take_length_add_append, List.take_left, byteLength_append]

/-! ## Indices in order -/

/-- What stands before the later index begins with what stands before the earlier one. -/
theorem exists_take_eq_append (less : earlier < later) (inside : later ≤ source.length) :
    ∃ between ≠ [], source.take later = source.take earlier ++ between := by
  refine ⟨(source.take later).drop earlier, ?_, ?_⟩
  · rw [← List.length_pos_iff, List.length_drop, List.length_take]
    omega
  · have split := List.take_append_drop earlier (source.take later)
    rw [List.take_take, Nat.min_eq_left (Nat.le_of_lt less)] at split
    exact split.symm

theorem locate_of_le (inside : index ≤ source.length) :
    source.locate index = (source.take index).foldl Location.advance Location.start := by
  rw [locate, Nat.sub_eq_zero_of_le inside, Nat.add_zero]

theorem locate_before (less : earlier < later) (inside : later ≤ source.length) :
    (source.locate earlier).Before (source.locate later) := by
  rcases exists_take_eq_append less inside with ⟨between, nonempty, split⟩
  rw [locate_of_le inside, locate_of_le (Nat.le_trans (Nat.le_of_lt less) inside), split,
    List.foldl_append]
  exact Location.before_foldl_advance nonempty _

theorem byteOffset_lt (less : earlier < later) (inside : later ≤ source.length) :
    source.byteOffset earlier < source.byteOffset later := by
  rcases exists_take_eq_append less inside with ⟨between, nonempty, split⟩
  rw [byteOffset, byteOffset, split, byteLength_append]
  exact Nat.lt_add_of_pos_right (byteLength_pos nonempty)

/-! ## Indices behind a seam -/

/-- An index in the rest of a text is located from the seam on. -/
theorem locate_append (before rest : Text) (inside : index ≤ rest.length) :
    locate (before ++ rest) (before.length + index) =
      (locate (before ++ rest) before.length).shift (rest.locate index) := by
  have whole : before.length + index ≤ (before ++ rest).length := by
    rw [List.length_append]
    exact Nat.add_le_add_left inside _
  rw [locate_of_le whole, locate_of_le (Nat.le_trans (Nat.le_add_right _ _) whole),
    locate_of_le inside, List.take_length_add_append, List.take_left, List.foldl_append,
    ← Location.foldl_advance_shift _ _ ⟨Nat.le_refl 1, Nat.le_refl 1⟩, Location.shift_start]

end Text

namespace Place

theorem ofRest_drop {source : Text} {index : Nat} (inside : index ≤ source.length) :
    ofRest source (source.drop index) = of source index := by
  rw [ofRest, List.length_drop, Nat.sub_sub_self inside]

/-- The places of a text, which count line feeds and the characters since the last one as
`Place.of_eq` says, stand in the order of its indices, by location and by bytes, so each of
the two tells the index. An error in a part that the text ends with has a line and a column
of its own: in the text it is as many lines further down from where the part begins, and in
the same column unless it is on the first line of the part, which goes on with a line of the
text. -/
theorem ordered_and_shifted (source : Text) :
    (∀ earlier later, earlier < later → later ≤ source.length →
      (of source earlier).location.Before (of source later).location ∧
        (of source earlier).byteOffset < (of source later).byteOffset) ∧
    (∀ first second, first ≤ source.length → second ≤ source.length →
      ((of source first).location = (of source second).location ↔ first = second) ∧
        ((of source first).byteOffset = (of source second).byteOffset ↔ first = second)) ∧
    ∀ before rest index, source = before ++ rest → index ≤ rest.length →
      (∀ reason line column,
        (Css.Error.ofFault rest ⟨reason, rest.drop index⟩).place.location = ⟨line, column⟩ →
        (1 < line → (of source (before.length + index)).location =
          ⟨(of source before.length).location.line + line - 1, column⟩) ∧
        (line = 1 → (of source (before.length + index)).location =
          ⟨(of source before.length).location.line,
            (of source before.length).location.column + column - 1⟩)) ∧
      (of source (before.length + index)).byteOffset =
        (of source before.length).byteOffset + (String.ofList (rest.take index)).utf8ByteSize := by
  have ordered (earlier later : Nat) (less : earlier < later) (inside : later ≤ source.length) :
      (source.locate earlier).Before (source.locate later) ∧
        source.byteOffset earlier < source.byteOffset later :=
    ⟨Text.locate_before less inside, Text.byteOffset_lt less inside⟩
  refine ⟨ordered, fun first second firstInside secondInside => ?_, ?_⟩
  · rcases Nat.lt_trichotomy first second with less | rfl | less
    · have apart := ordered first second less secondInside
      exact ⟨iff_of_false apart.1.ne (Nat.ne_of_lt less),
        iff_of_false (Nat.ne_of_lt apart.2) (Nat.ne_of_lt less)⟩
    · exact ⟨iff_of_true rfl rfl, iff_of_true rfl rfl⟩
    · have apart := ordered second first less firstInside
      exact ⟨iff_of_false apart.1.ne.symm (Nat.ne_of_gt less),
        iff_of_false (Nat.ne_of_gt apart.2) (Nat.ne_of_gt less)⟩
  · rintro before rest index rfl inside
    refine ⟨fun reason line column own => ?_, ?_⟩
    · have located := Text.locate_append before rest inside
      have inner : rest.locate index = ⟨line, column⟩ := by
        rw [← own, Css.Error.ofFault, ofRest_drop inside, of]
      rw [inner, Location.shift] at located
      constructor
      · intro further
        rwa [if_neg (Nat.ne_of_gt further)] at located
      · intro first
        rwa [if_pos first] at located
    · have bytes := Text.byteOffset_append before rest index
      rwa [Text.byteLength_eq_utf8ByteSize (rest.take index)] at bytes

/-- The second line of the part is the third one of the text. -/
theorem ordered_and_shifted_behind_accent :
    let source : Text := "a\né<\nü"
    (2 < 5 ∧ 5 ≤ source.length ∧
      (of source 2).location.Before (of source 5).location ∧
      (of source 2).byteOffset < (of source 5).byteOffset ∧
      (of source 2).location ≠ (of source 5).location) ∧
    source = ("a\né" : Text) ++ ("<\nü" : Text) ∧
    (Css.Error.ofFault "<\nü" ⟨.unexpectedEnd, "ü"⟩).place.location = ⟨2, 1⟩ ∧
    (of source 5).location = ⟨(of source 3).location.line + 2 - 1, 1⟩ ∧
    (Css.Error.ofFault "<\nü" ⟨.unexpectedEnd, "\nü"⟩).place.location = ⟨1, 2⟩ ∧
    (of source 4).location = ⟨2, (of source 3).location.column + 2 - 1⟩ ∧
    (of source 5).byteOffset = (of source 3).byteOffset + 2 := by
  obtain ⟨ordered, identified, shifted⟩ := ordered_and_shifted "a\né<\nü"
  have onNext := shifted "a\né" "<\nü" 2 (by decide) (by decide)
  have onFirst := shifted "a\né" "<\nü" 1 (by decide) (by decide)
  have places := ordered 2 5 (by decide) (by decide)
  have apart := (identified 2 5 (by decide) (by decide)).1.not.mpr (by decide)
  refine ⟨⟨by decide, by decide, places.1, places.2, apart⟩, by decide, by decide, ?_, by decide,
    ?_, ?_⟩
  · exact (onNext.1 .unexpectedEnd 2 1 (by decide)).1 (by decide)
  · exact (onFirst.1 .unexpectedEnd 1 2 (by decide)).2 rfl
  · exact onNext.2

end Place

end ScopedMarkup
