import ScopedMarkup.Css.Name
import ScopedMarkup.Text.Blank

/-! # Runs of one class of characters

What trimming removes and what it keeps, where a run of a class ends, and which
classes have no character in common.
-/

namespace ScopedMarkup

/-! ## Classes without a common character -/

namespace CharacterClass

/-- No range of the one class touches a range of the other. -/
def apart (left right : CharacterClass) : Bool :=
  left.all fun (first, last) => right.all fun (first', last') => last < first' || last' < first

theorem covers_eq_false_of_apart {left right : CharacterClass} {character : Char}
    (separate : left.apart right = true) (covered : left.covers character = true) :
    right.covers character = false := by
  simp only [covers, List.any_eq_true, Bool.and_eq_true, decide_eq_true_eq] at covered
  rcases covered with ⟨range, member, lower, upper⟩
  simp only [apart, List.all_eq_true, Bool.or_eq_true, decide_eq_true_eq] at separate
  simp only [covers, List.any_eq_false, Bool.and_eq_true, decide_eq_true_eq]
  intro other otherMember inside
  rcases separate range member other otherMember with before | after
  · omega
  · omega

end CharacterClass

/-- The characters of ASCII that belong to words. -/
def asciiWordClass : CharacterClass := [(0x30, 0x39), (0x41, 0x5A), (0x5F, 0x5F), (0x61, 0x7A)]

theorem covers_of_isAlphanum {character : Char} (alphanumeric : character.isAlphanum = true) :
    asciiWordClass.covers character = true := by
  change ((decide (character.val ≥ 'A'.val ∧ character.val ≤ 'Z'.val) ||
      (decide (character.val ≥ 'a'.val) && decide (character.val ≤ 'z'.val))) ||
    (decide (character.val ≥ '0'.val) && decide (character.val ≤ '9'.val))) = true at alphanumeric
  simp only [Bool.or_eq_true, Bool.and_eq_true, decide_eq_true_eq, ge_iff_le,
    UInt32.le_iff_toNat_le] at alphanumeric
  simp only [asciiWordClass, CharacterClass.covers, List.any_cons, List.any_nil, Bool.or_false,
    Bool.or_eq_true, Bool.and_eq_true, decide_eq_true_eq, Char.toNat]
  change ((65 ≤ _ ∧ _ ≤ 90) ∨ (97 ≤ _ ∧ _ ≤ 122)) ∨ (48 ≤ _ ∧ _ ≤ 57) at alphanumeric
  omega

/-- No word character is a blank. -/
theorem isBlank_eq_false_of_isWordCharacter {character : Char}
    (word : isWordCharacter character = true) : isBlank character = false := by
  unfold isWordCharacter at word
  split at word
  · rcases Bool.or_eq_true .. ▸ word with alphanumeric | underscore
    · exact CharacterClass.covers_eq_false_of_apart (by decide) (covers_of_isAlphanum alphanumeric)
    · rw [of_decide_eq_true underscore]
      decide
  · exact CharacterClass.covers_eq_false_of_apart (by decide +kernel) word

namespace Css

theorem isBlank_eq_false_of_continuesName {character : Char}
    (continues : continuesName character = true) : isBlank character = false := by
  rcases Bool.or_eq_true .. ▸ continues with word | hyphen
  · exact isBlank_eq_false_of_isWordCharacter word
  · rw [of_decide_eq_true hyphen]
    decide

theorem continuesName_of_startsName {character : Char}
    (starts : startsName character = true) : continuesName character = true := by
  rcases Bool.or_eq_true .. ▸ starts with letter | underscore
  · have small : character.toNat < 128 := by
      have covered : asciiWordClass.covers character = true :=
        covers_of_isAlphanum (by simp [Char.isAlphanum, letter])
      simp only [asciiWordClass, CharacterClass.covers, List.any_cons, List.any_nil,
        Bool.or_false, Bool.or_eq_true, Bool.and_eq_true, decide_eq_true_eq] at covered
      omega
    simp [continuesName, isWordCharacter, small, Char.isAlphanum, letter]
  · rw [of_decide_eq_true underscore]
    decide

theorem isBlank_eq_false_of_startsName {character : Char}
    (starts : startsName character = true) : isBlank character = false :=
  isBlank_eq_false_of_continuesName (continuesName_of_startsName starts)

end Css

/-! ## Where a run ends -/

namespace Text

/-- The text does not go on with a character of this class. -/
def Leaves (belongs : Char → Bool) (text : Text) : Prop :=
  ∀ first ∈ text.head?, belongs first = false

instance (belongs : Char → Bool) (text : Text) : Decidable (Leaves belongs text) :=
  Option.decidableForallMem text.head?

theorem leaves_nil (belongs : Char → Bool) : Leaves belongs [] := by simp [Leaves]

theorem leaves_cons {belongs : Char → Bool} {first : Char} {rest : Text} :
    Leaves belongs (first :: rest) ↔ belongs first = false := by simp [Leaves]

theorem takeWhile_append_of_leaves {belongs : Char → Bool} {run rest : Text}
    (inside : ∀ character ∈ run, belongs character = true) (ends : Leaves belongs rest) :
    (run ++ rest).takeWhile belongs = run := by
  rw [List.takeWhile_append_of_pos inside]
  cases rest with
  | nil => simp
  | cons first rest => simp [leaves_cons.mp ends]

theorem dropWhile_append_of_leaves {belongs : Char → Bool} {run rest : Text}
    (inside : ∀ character ∈ run, belongs character = true) (ends : Leaves belongs rest) :
    (run ++ rest).dropWhile belongs = rest := by
  rw [List.dropWhile_append_of_pos inside]
  cases rest with
  | nil => simp
  | cons first rest => simp [leaves_cons.mp ends]

theorem leaves_dropWhile (belongs : Char → Bool) (text : Text) :
    Leaves belongs (text.dropWhile belongs) := by
  intro first member
  have nonempty : text.dropWhile belongs ≠ [] := by
    intro equal
    simp [equal] at member
  have equal : first = (text.dropWhile belongs).head nonempty := by
    rw [List.head?_eq_some_head nonempty] at member
    exact (Option.some.inj member).symm
  rw [equal]
  exact List.head_dropWhile_not belongs nonempty

/-! ## Trimming -/

/-- Only blanks, perhaps none. -/
def Blank (text : Text) : Prop := ∀ character ∈ text, isBlank character = true

instance (text : Text) : Decidable (Blank text) :=
  List.decidableBAll _ text

/-- No blank at either end. -/
def Trimmed (text : Text) : Prop :=
  Leaves isBlank text ∧ Leaves isBlank text.reverse

theorem blank_nil : Blank [] := by simp [Blank]

theorem blank_space : Blank [' '] := by simp [Blank]; decide

theorem blank_append {left right : Text} (first : Blank left) (second : Blank right) :
    Blank (left ++ right) := by
  intro character member
  rcases List.mem_append.mp member with member | member
  · exact first character member
  · exact second character member

theorem trimStart_eq_of_leaves {text : Text} (ends : Leaves isBlank text) :
    trimStart text = text :=
  dropWhile_append_of_leaves (List.forall_mem_nil _) ends

theorem trimStart_blank_append {blanks text : Text} (blank : Blank blanks) :
    trimStart (blanks ++ text) = trimStart text :=
  List.dropWhile_append_of_pos blank

theorem trimEnd_append_blank {text blanks : Text} (blank : Blank blanks) :
    trimEnd (text ++ blanks) = trimEnd text := by
  have reversed : Blank blanks.reverse := fun character member =>
    blank character (List.mem_reverse.mp member)
  rw [trimEnd, List.reverse_append, trimStart_blank_append reversed, trimEnd]

theorem trimEnd_eq_of_leaves {text : Text} (ends : Leaves isBlank text.reverse) :
    trimEnd text = text := by
  rw [trimEnd, trimStart_eq_of_leaves ends, List.reverse_reverse]

theorem trim_eq_of_trimmed {text : Text} (trimmed : Trimmed text) : trim text = text := by
  rw [trim, trimStart_eq_of_leaves trimmed.1, trimEnd_eq_of_leaves trimmed.2]

/-- Blanks around a text do not change what trimming leaves of it. -/
theorem trim_pad {before text after : Text} (blankBefore : Blank before)
    (trimmed : Trimmed text) (blankAfter : Blank after) :
    trim (before ++ text ++ after) = text := by
  rw [trim, List.append_assoc, trimStart_blank_append blankBefore]
  cases text with
  | nil =>
      rw [List.nil_append, ← List.append_nil after, trimStart_blank_append blankAfter]
      rfl
  | cons first rest =>
      have starts : Leaves isBlank (first :: rest ++ after) :=
        leaves_cons.mpr (leaves_cons.mp trimmed.1)
      rw [trimStart_eq_of_leaves starts, trimEnd_append_blank blankAfter,
        trimEnd_eq_of_leaves trimmed.2]

theorem exists_blank_trimStart (text : Text) :
    ∃ before, Blank before ∧ text = before ++ trimStart text :=
  ⟨text.takeWhile isBlank, List.all_eq_true.mp List.all_takeWhile,
    List.takeWhile_append_dropWhile.symm⟩

/-- Trimming removes blanks only. -/
theorem exists_blank_trim (text : Text) :
    ∃ before after, Blank before ∧ Blank after ∧ text = before ++ trim text ++ after := by
  rcases exists_blank_trimStart text with ⟨before, blankBefore, split⟩
  rcases exists_blank_trimStart (trimStart text).reverse with ⟨after, blankAfter, reversed⟩
  refine ⟨before, after.reverse, blankBefore,
    fun character member => blankAfter character (List.mem_reverse.mp member), ?_⟩
  have equal := congrArg List.reverse reversed
  rw [List.reverse_reverse, List.reverse_append] at equal
  rw [trim, trimEnd, List.append_assoc, ← equal]
  exact split

theorem trimmed_trim (text : Text) : Trimmed (trim text) := by
  constructor
  · rcases exists_blank_trimStart (trimStart text).reverse with ⟨after, _, reversed⟩
    have equal := congrArg List.reverse reversed
    rw [List.reverse_reverse, List.reverse_append] at equal
    have starts : Leaves isBlank (trimStart text) := leaves_dropWhile isBlank text
    intro first member
    apply starts first
    rw [equal]
    change first ∈ (trim text ++ _).head?
    rw [List.head?_append]
    exact Option.mem_def.mpr (by rw [Option.mem_def.mp member]; rfl)
  · rw [trim, trimEnd, List.reverse_reverse]
    exact leaves_dropWhile isBlank _

theorem trim_eq_nil_iff {text : Text} : trim text = [] ↔ Blank text := by
  constructor
  · intro empty
    rcases exists_blank_trim text with ⟨before, after, blankBefore, blankAfter, split⟩
    rw [empty, List.append_nil] at split
    rw [split]
    exact blank_append blankBefore blankAfter
  · intro blank
    have padded : trim (text ++ [] ++ []) = [] := trim_pad blank (trimmed_trim []) blank_nil
    rwa [List.append_nil, List.append_nil] at padded

/-! ## Text without its blanks -/

def solid (text : Text) : Text := text.filter fun character => !isBlank character

@[simp] theorem solid_append (left right : Text) :
    solid (left ++ right) = solid left ++ solid right := List.filter_append ..

theorem solid_enclosed (opening closing : Char) (body : Text) :
    solid (opening :: (body ++ [closing])) = solid [opening] ++ solid body ++ solid [closing] := by
  rw [← List.singleton_append, solid_append, solid_append, List.append_assoc]

theorem solid_blank {blanks : Text} (blank : Blank blanks) : solid blanks = [] := by
  rw [solid, List.filter_eq_nil_iff]
  intro character member
  simp [blank character member]

theorem solid_pad {before text after : Text} (blankBefore : Blank before)
    (blankAfter : Blank after) : solid (before ++ text ++ after) = solid text := by
  rw [solid_append, solid_append, solid_blank blankBefore, solid_blank blankAfter,
    List.nil_append, List.append_nil]

@[simp] theorem solid_trim (text : Text) : solid (trim text) = solid text := by
  rcases exists_blank_trim text with ⟨before, after, blankBefore, blankAfter, split⟩
  rw [congrArg solid split, solid_pad blankBefore blankAfter]

end Text

end ScopedMarkup
