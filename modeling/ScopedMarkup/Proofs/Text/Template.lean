import ScopedMarkup.Text.Basic

/-! # Texts with gaps

A template is a text with gaps. Its fragments are what stands around the gaps, so a text
that comes of filling the gaps is the fragments with that piece between each two of them.
-/

namespace ScopedMarkup

/-- A text in which a gap may stand in place of a character. -/
abbrev Template := List (Option Char)

namespace Template

def ofText (text : Text) : Template := text.map some

def gap : Template := [none]

/-- The text with the same piece put into every gap. -/
def fill (piece : Text) (template : Template) : Text :=
  template.flatMap fun place => place.elim piece fun character => [character]

def gaps (template : Template) : Nat := template.count none

/-- What stands before the first gap, between each two gaps and behind the last one. -/
def fragments : Template → List Text
  | [] => [[]]
  | none :: rest => [] :: fragments rest
  | some character :: rest => (fragments rest).modifyHead (character :: ·)

variable {piece : Text} {left right : Template}

@[simp] theorem fill_append : fill piece (left ++ right) = fill piece left ++ fill piece right :=
  List.flatMap_append

@[simp] theorem fill_ofText (text : Text) : fill piece (ofText text) = text := by
  rw [fill, ofText, List.flatMap_map]
  exact List.flatMap_singleton' text

@[simp] theorem fill_gap : fill piece gap = piece := List.append_nil piece

@[simp] theorem gaps_append : gaps (left ++ right) = gaps left + gaps right := List.count_append

@[simp] theorem gaps_ofText (text : Text) : gaps (ofText text) = 0 :=
  List.count_eq_zero.mpr (by simp [ofText])

@[simp] theorem gaps_gap : gaps gap = 1 := rfl

theorem length_fragments (template : Template) : template.fragments.length = template.gaps + 1 := by
  induction template with
  | nil => rfl
  | cons place rest induction =>
      cases place with
      | none =>
          rw [fragments, List.length_cons, induction, gaps, gaps, List.count_cons_self]
      | some character =>
          rw [fragments, List.length_modifyHead, induction, gaps, gaps,
            List.count_cons_of_ne (Option.some_ne_none character)]

theorem join_modifyHead (separator : Text) (character : Char) {parts : List Text}
    (nonempty : parts ≠ []) :
    Text.join separator (parts.modifyHead (character :: ·)) =
      character :: Text.join separator parts := by
  cases parts with
  | nil => exact absurd rfl nonempty
  | cons first rest =>
      cases rest with
      | nil => rfl
      | cons second rest => rfl

theorem fragments_ne_nil (template : Template) : template.fragments ≠ [] := by
  apply List.ne_nil_of_length_pos
  rw [length_fragments]
  exact Nat.succ_pos _

/-- To fill the gaps is to put the piece between each two fragments. -/
theorem join_fragments (piece : Text) (template : Template) :
    Text.join piece template.fragments = template.fill piece := by
  induction template with
  | nil => rfl
  | cons place rest induction =>
      cases place with
      | none =>
          rw [fragments]
          obtain ⟨first, others, equal⟩ := List.exists_cons_of_ne_nil (fragments_ne_nil rest)
          rw [equal, Text.join, ← equal, induction]
          rfl
      | some character =>
          rw [fragments, join_modifyHead piece character (fragments_ne_nil rest), induction]
          rfl

theorem join_nil (parts : List Text) : Text.join [] parts = parts.flatten := by
  induction parts with
  | nil => rfl
  | cons first rest induction =>
      rw [List.flatten_cons, ← induction]
      cases rest with
      | nil => exact (List.append_nil first).symm
      | cons second rest => rw [Text.join, List.append_nil]

end Template

end ScopedMarkup
