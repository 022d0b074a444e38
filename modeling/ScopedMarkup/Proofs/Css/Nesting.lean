import ScopedMarkup.Css.Comment
import ScopedMarkup.Css.Nesting
import ScopedMarkup.Proofs.Css.Span
import ScopedMarkup.Proofs.Outcome

/-! # Text without comments, and its nesting

In a text that opens no comment, cleaning only trims, and the check of nesting
is a walk over the characters with a quote and a depth. Most characters do not
count for it.
-/

namespace ScopedMarkup.Css

/-! ## Text without comments -/

/-- The mark that a comment begins with stands nowhere in the text. -/
def Uncommented (text : Text) : Prop := ¬ commentOpen <:+: text

instance (text : Text) : Decidable (Uncommented text) :=
  inferInstanceAs (Decidable (¬ commentOpen <:+: text))

theorem Uncommented.of_infix {part text : Text} (uncommented : Uncommented text)
    (inside : part <:+: text) : Uncommented part :=
  fun found => uncommented (found.trans inside)

theorem Uncommented.tail {first : Char} {rest : Text} (uncommented : Uncommented (first :: rest)) :
    Uncommented rest :=
  uncommented.of_infix (List.suffix_cons first rest).isInfix

/-- Two characters stand together in a text at its start or behind. -/
theorem pair_infix_cons {left right first : Char} {rest : Text} :
    [left, right] <:+: first :: rest ↔
      (first = left ∧ rest.head? = some right) ∨ [left, right] <:+: rest := by
  rw [List.infix_cons_iff, List.cons_prefix_cons]
  cases rest with
  | nil => simp
  | cons second rest => simp [List.cons_prefix_cons, eq_comm]

theorem uncommented_cons {first : Char} {rest : Text} :
    Uncommented (first :: rest) ↔
      Uncommented rest ∧ ¬ (first = '/' ∧ rest.head? = some '*') := by
  rw [Uncommented, commentOpen, pair_infix_cons, not_or, and_comm]
  rfl

theorem uncommented_nil : Uncommented [] := by simp [Uncommented, commentOpen]

theorem uncommented_append {left right : Text} (ends : left.getLast? ≠ some '/') :
    Uncommented (left ++ right) ↔ Uncommented left ∧ Uncommented right := by
  induction left with
  | nil => simp [uncommented_nil]
  | cons first left induction =>
      cases left with
      | nil =>
          have different : first ≠ '/' := by simpa using ends
          have alone : Uncommented [first] := by simp [uncommented_cons, uncommented_nil]
          rw [List.singleton_append, uncommented_cons]
          simp [different, alone]
      | cons second left =>
          have further := induction (by simpa using ends)
          rw [List.cons_append, uncommented_cons, further, @uncommented_cons first]
          simp only [List.cons_append, List.head?_cons]
          grind

/-- No comment begins where two parts of a text meet. -/
theorem Uncommented.apart {left right : Text} (uncommented : Uncommented (left ++ right))
    (slash : left.getLast? = some '/') : right.head? ≠ some '*' := by
  intro star
  rcases List.getLast?_eq_some_iff.mp slash with ⟨before, rfl⟩
  rcases List.head?_eq_some_iff.mp star with ⟨after, rfl⟩
  exact uncommented ⟨before, after, by simp [commentOpen]⟩

theorem uncommented_of_not_mem {text : Text} (absent : '/' ∉ text) : Uncommented text :=
  fun opens => absent (opens.subset List.mem_cons_self)

theorem slash_not_mem_of_blank {blanks : Text} (blank : blanks.Blank) : '/' ∉ blanks :=
  fun member => absurd (blank '/' member) (by decide)

theorem Uncommented.append_blank {text after : Text} (uncommented : Uncommented text)
    (blank : after.Blank) : Uncommented (text ++ after) := by
  induction text with
  | nil => exact uncommented_of_not_mem (slash_not_mem_of_blank blank)
  | cons first rest induction =>
      rw [List.cons_append, uncommented_cons]
      refine ⟨induction uncommented.tail, ?_⟩
      rintro ⟨slash, star⟩
      cases rest with
      | nil => exact absurd (blank '*' (List.mem_of_mem_head? star)) (by decide)
      | cons second rest => exact (uncommented_cons.mp uncommented).2 ⟨slash, star⟩

/-- Blanks around a text open no comment. -/
theorem Uncommented.pad {before text after : Text} (blankBefore : before.Blank)
    (uncommented : Uncommented text) (blankAfter : after.Blank) :
    Uncommented (before ++ text ++ after) := by
  have ends : before.getLast? ≠ some '/' :=
    fun last => slash_not_mem_of_blank blankBefore (List.mem_of_getLast? last)
  refine Uncommented.append_blank ((uncommented_append ends).mpr ⟨?_, uncommented⟩) blankAfter
  exact uncommented_of_not_mem (slash_not_mem_of_blank blankBefore)

theorem scan_comment_eq_none {text : Text} (opens : ¬ commentOpen <+: text) :
    comment.scan text = none := by
  refine Scanner.scan_append_eq_none ?_
  simp only [Scanner.literal, Option.map_eq_none_iff]
  cases begins : text.after? commentOpen with
  | none => rfl
  | some rest => exact absurd ⟨rest, (Text.eq_append_of_after? begins).symm⟩ opens

theorem Uncommented.scan_comment {text : Text} (uncommented : Uncommented text) :
    comment.scan text = none :=
  scan_comment_eq_none fun opens => uncommented opens.isInfix

theorem Uncommented.withoutComments {text : Text} (uncommented : Uncommented text) :
    Css.withoutComments text = text := by
  have refused := uncommented.scan_comment
  unfold Css.withoutComments
  split
  · rename_i found
    simp [found] at refused
  · cases text with
    | nil => rfl
    | cons first rest => exact congrArg (first :: ·) uncommented.tail.withoutComments

theorem Uncommented.clean {text : Text} (uncommented : Uncommented text) :
    Css.clean text = text.trim := by
  rw [Css.clean, uncommented.withoutComments]

theorem Uncommented.trim {text : Text} (uncommented : Uncommented text) :
    Uncommented text.trim := by
  rcases text.exists_blank_trim with ⟨before, after, -, -, split⟩
  exact uncommented.of_infix ⟨before, after, split.symm⟩

/-! ## The walk over the characters -/

namespace Brackets

variable {brackets : Brackets} {limit : Nat}

/-- The quote and the depth behind one more character, unless it opens one level
more than the limit. -/
def step (brackets : Brackets) (limit : Nat) (quote : Option Quote) (depth : Int)
    (character : Char) : Option (Option Quote × Int) :=
  match quote with
  | some quote => some (if character = quote.character then none else some quote, depth)
  | none =>
      match Quote.of? character with
      | some quote => some (some quote, depth)
      | none =>
          if character = brackets.opening then
            if depth + 1 > limit then none else some (none, depth + 1)
          else if character = brackets.closing then some (none, depth - 1)
          else some (none, depth)

def walk? (brackets : Brackets) (limit : Nat) :
    Option Quote → Int → Text → Option (Option Quote × Int)
  | quote, depth, [] => some (quote, depth)
  | quote, depth, first :: rest =>
      match brackets.step limit quote depth first with
      | none => none
      | some (next, reached) => walk? brackets limit next reached rest

def region : Option Quote → Region
  | none => .plain
  | some quote => .quoted quote.character

/-- Unless a comment begins here, the brackets are counted as the walk does. -/
theorem overflow?_cons {quote : Option Quote} {depth : Int} {first : Char} {rest : Text}
    (opens : ¬ (first = '/' ∧ rest.head? = some '*')) :
    brackets.overflow? limit (region quote) depth (first :: rest) =
      match brackets.step limit quote depth first with
      | none => some (first :: rest)
      | some (next, reached) => brackets.overflow? limit (region next) reached rest := by
  cases quote with
  | some quote =>
      rw [region, overflow?]
      by_cases closes : first = quote.character <;> simp [step, closes, region]
  | none =>
      have plain : brackets.overflow? limit .plain depth (first :: rest) =
          if first = '"' ∨ first = '\'' then brackets.overflow? limit (.quoted first) depth rest
          else if first = brackets.opening then
            if depth + 1 > limit then some (first :: rest)
            else brackets.overflow? limit .plain (depth + 1) rest
          else if first = brackets.closing then brackets.overflow? limit .plain (depth - 1) rest
          else brackets.overflow? limit .plain depth rest := by
        rw [overflow?]
        rintro others slash star
        exact opens ⟨slash, by rw [star, List.head?_cons]⟩
      rw [region, plain]
      cases found : Quote.of? first with
      | some quote =>
          have equal := Quote.eq_character_of_of? found
          have quoted : first = '"' ∨ first = '\'' := by
            rw [equal]
            cases quote <;> decide
          rw [if_pos quoted, equal]
          simp only [step, Quote.of?_character, region]
      | none =>
          have unquoted : ¬ (first = '"' ∨ first = '\'') := fun either => either.elim
            (Quote.ne_character_of_of?_eq_none found .double)
            (Quote.ne_character_of_of?_eq_none found .single)
          rw [if_neg unquoted]
          simp only [step, found]
          by_cases opened : first = brackets.opening
          · by_cases exceeds : depth + 1 > limit <;> simp [opened, exceeds, region]
          · simp only [if_neg opened]
            by_cases closes : first = brackets.closing <;> simp [closes, region]

/-- Over a text in which no comment begins, the brackets are counted as the walk
does, whatever follows it without beginning one. -/
theorem overflow?_append {quote next : Option Quote} {depth reached : Int} {left right : Text}
    (uncommented : Uncommented left)
    (apart : left.getLast? = some '/' → right.head? ≠ some '*')
    (walked : brackets.walk? limit quote depth left = some (next, reached)) :
    brackets.overflow? limit (region quote) depth (left ++ right) =
      brackets.overflow? limit (region next) reached right := by
  induction left generalizing quote depth with
  | nil =>
      cases walked
      rfl
  | cons first left induction =>
      have opens : ¬ (first = '/' ∧ (left ++ right).head? = some '*') := by
        rintro ⟨slash, star⟩
        cases left with
        | nil => exact apart (by rw [slash]; rfl) star
        | cons second left => exact (uncommented_cons.mp uncommented).2 ⟨slash, star⟩
      rw [List.cons_append, overflow?_cons opens]
      rw [walk?] at walked
      split at walked
      · cases walked
      · refine induction uncommented.tail (fun last => apart ?_) walked
        rw [List.getLast?_cons, last, Option.getD_some]

/-- Where no comment begins, the walk ends early exactly where the brackets
overflow. -/
theorem isSome_walk?_iff {text : Text} (uncommented : Uncommented text) (quote : Option Quote)
    (depth : Int) :
    (brackets.walk? limit quote depth text).isSome = true ↔
      brackets.overflow? limit (region quote) depth text = none := by
  induction text generalizing quote depth with
  | nil => cases quote <;> simp [walk?, overflow?]
  | cons first rest induction =>
      rw [walk?, overflow?_cons (uncommented_cons.mp uncommented).2]
      cases brackets.step limit quote depth first with
      | none => simp
      | some taken => exact induction uncommented.tail taken.1 taken.2

theorem check_eq_ok_iff_overflow? {nested : Nested} {text : Text} :
    brackets.check nested limit text = .ok () ↔
      brackets.overflow? limit .plain 0 text = none := by
  rw [check]
  cases brackets.overflow? limit .plain 0 text <;> simp

theorem check_eq_ok_iff {nested : Nested} {text : Text} (uncommented : Uncommented text) :
    brackets.check nested limit text = .ok () ↔
      (brackets.walk? limit none 0 text).isSome = true :=
  check_eq_ok_iff_overflow?.trans (isSome_walk?_iff uncommented none 0).symm

theorem walk?_cons {quote next : Option Quote} {depth reached : Int} {first : Char} {rest : Text}
    (taken : brackets.step limit quote depth first = some (next, reached)) :
    brackets.walk? limit quote depth (first :: rest) = brackets.walk? limit next reached rest := by
  rw [walk?, taken]

theorem walk?_append {quote next : Option Quote} {depth reached : Int} {left : Text} (right : Text)
    (walked : brackets.walk? limit quote depth left = some (next, reached)) :
    brackets.walk? limit quote depth (left ++ right) =
      brackets.walk? limit next reached right := by
  induction left generalizing quote depth with
  | nil =>
      cases walked
      rfl
  | cons first left induction =>
      rw [List.cons_append, walk?]
      rw [walk?] at walked
      split at walked
      · simp at walked
      · exact induction walked

/-- A walk that goes on to the end of a text goes on over its front. -/
theorem isSome_walk?_of_append {quote : Option Quote} {depth : Int} {left right : Text}
    (walked : (brackets.walk? limit quote depth (left ++ right)).isSome = true) :
    (brackets.walk? limit quote depth left).isSome = true := by
  induction left generalizing quote depth with
  | nil => rfl
  | cons first left induction =>
      rw [List.cons_append, walk?] at walked
      rw [walk?]
      split at walked
      · cases walked
      · exact induction walked

/-- A character that neither begins a quoted run nor opens or closes a level. -/
def Ordinary (brackets : Brackets) (character : Char) : Prop :=
  Quote.of? character = none ∧ character ≠ brackets.opening ∧ character ≠ brackets.closing

instance (character : Char) : Decidable (brackets.Ordinary character) :=
  inferInstanceAs (Decidable (_ ∧ _ ∧ _))

theorem step_of_ordinary {character : Char} (ordinary : brackets.Ordinary character)
    (quote : Option Quote) (depth : Int) :
    brackets.step limit quote depth character = some (quote, depth) := by
  rcases ordinary with ⟨noQuote, noOpening, noClosing⟩
  cases quote with
  | some quote => simp [step, Quote.ne_character_of_of?_eq_none noQuote quote]
  | none => simp [step, noQuote, noOpening, noClosing]

theorem walk?_ordinary {character : Char} (ordinary : brackets.Ordinary character)
    (quote : Option Quote) (depth : Int) (rest : Text) :
    brackets.walk? limit quote depth (character :: rest) =
      brackets.walk? limit quote depth rest :=
  walk?_cons (step_of_ordinary ordinary quote depth)

/-- The walk depends only on the characters that count for it. -/
theorem walk?_filter {counts : Char → Bool} (text : Text) (quote : Option Quote) (depth : Int)
    (ordinary : ∀ character, counts character = false → brackets.Ordinary character) :
    brackets.walk? limit quote depth (text.filter counts) =
      brackets.walk? limit quote depth text := by
  induction text generalizing quote depth with
  | nil => rfl
  | cons first rest induction =>
      cases counted : counts first with
      | true =>
          rw [List.filter_cons_of_pos counted, walk?, walk?]
          cases brackets.step limit quote depth first with
          | none => rfl
          | some next => exact induction next.1 next.2
      | false =>
          rw [List.filter_cons_of_neg (by simp [counted]), walk?_ordinary (ordinary first counted)]
          exact induction quote depth

end Brackets

/-! ## Characters that count -/

/-- The characters that begin or end a block, a declaration, a parenthesis or a
quoted run. -/
def isStructural (character : Char) : Bool :=
  ['(', ')', '{', '}', ';', '"', '\''].contains character

/-- What is left of a text when only its structure counts. -/
def skeleton (text : Text) : Text := text.filter isStructural

@[simp] theorem skeleton_append (left right : Text) :
    skeleton (left ++ right) = skeleton left ++ skeleton right := List.filter_append ..

@[simp] theorem skeleton_nil : skeleton [] = [] := rfl

theorem skeleton_eq_nil {text : Text}
    (none : ∀ character ∈ text, isStructural character = false) : skeleton text = [] := by
  rw [skeleton, List.filter_eq_nil_iff]
  intro character member
  simp [none character member]

theorem skeleton_cons_of_not {character : Char} (rest : Text)
    (unstructural : isStructural character = false) :
    skeleton (character :: rest) = skeleton rest :=
  List.filter_cons_of_neg (by simp [unstructural])

theorem eq_of_isStructural {character : Char} (structural : isStructural character = true) :
    character = '(' ∨ character = ')' ∨ character = '{' ∨ character = '}' ∨ character = ';' ∨
      character = '"' ∨ character = '\'' := by
  simpa [isStructural] using structural

theorem isStructural_eq_false_of_isBlank {character : Char} (blank : isBlank character = true) :
    isStructural character = false := by
  cases structural : isStructural character with
  | false => rfl
  | true =>
      rcases eq_of_isStructural structural with rfl | rfl | rfl | rfl | rfl | rfl | rfl <;>
        exact absurd blank (by decide)

theorem isStructural_eq_false_of_continuesName {character : Char}
    (continues : continuesName character = true) : isStructural character = false := by
  cases structural : isStructural character with
  | false => rfl
  | true =>
      rcases eq_of_isStructural structural with rfl | rfl | rfl | rfl | rfl | rfl | rfl <;>
        exact absurd continues (by decide)

theorem skeleton_blank {blanks : Text} (blank : blanks.Blank) : skeleton blanks = [] :=
  skeleton_eq_nil fun character member => isStructural_eq_false_of_isBlank (blank character member)

theorem skeleton_name {name : Text}
    (continues : ∀ character ∈ name, continuesName character = true) : skeleton name = [] :=
  skeleton_eq_nil fun character member =>
    isStructural_eq_false_of_continuesName (continues character member)

theorem skeleton_solid (text : Text) : skeleton text.solid = skeleton text := by
  rw [skeleton, Text.solid, List.filter_filter]
  apply List.filter_congr
  intro character _
  cases blank : isBlank character with
  | false => simp
  | true => simp [isStructural_eq_false_of_isBlank blank]

theorem skeleton_eq_of_solid_eq {left right : Text} (equal : left.solid = right.solid) :
    skeleton left = skeleton right := by
  rw [← skeleton_solid left, equal, skeleton_solid]

@[simp] theorem skeleton_trim (text : Text) : skeleton text.trim = skeleton text :=
  skeleton_eq_of_solid_eq (Text.solid_trim text)

theorem Brackets.ordinary_of_isStructural {brackets : Brackets}
    (structural : isStructural brackets.opening = true ∧ isStructural brackets.closing = true)
    {character : Char} (unstructural : isStructural character = false) :
    brackets.Ordinary character := by
  refine ⟨?_, ?_, ?_⟩
  · cases found : Quote.of? character with
    | none => rfl
    | some quote =>
        rw [Quote.eq_character_of_of? found] at unstructural
        cases quote <;> simp [Quote.character, isStructural] at unstructural
  · rintro rfl
    simp [structural.1] at unstructural
  · rintro rfl
    simp [structural.2] at unstructural

/-- The walk depends only on the skeleton of a text. -/
theorem Brackets.walk?_skeleton {brackets : Brackets} {limit : Nat}
    (structural : isStructural brackets.opening = true ∧ isStructural brackets.closing = true)
    (text : Text) (quote : Option Quote) (depth : Int) :
    brackets.walk? limit quote depth (skeleton text) = brackets.walk? limit quote depth text :=
  walk?_filter text quote depth fun _ => ordinary_of_isStructural structural

/-- Texts of one skeleton are nested alike. -/
theorem check_eq_of_skeleton_eq {brackets : Brackets} {nested : Nested} {limit : Nat}
    {left right : Text} (leftUncommented : Uncommented left) (rightUncommented : Uncommented right)
    (structural : isStructural brackets.opening = true ∧ isStructural brackets.closing = true)
    (equal : skeleton left = skeleton right) (checked : brackets.check nested limit left = .ok ()) :
    brackets.check nested limit right = .ok () := by
  rw [Brackets.check_eq_ok_iff leftUncommented, ← Brackets.walk?_skeleton structural, equal,
    Brackets.walk?_skeleton structural] at checked
  exact (Brackets.check_eq_ok_iff rightUncommented).mpr checked

end ScopedMarkup.Css
