import ScopedMarkup.Proofs.Css.Selector.Reading

/-! # Spellings

A list of tokens may be written with more or fewer blanks. Tokens that fit are
read from each of their spellings, by one terminal for each token, because the
terminals that are tried before it are refused there.
-/

namespace ScopedMarkup.Css.Selector

open Terminal

/-! ## Spellings of tokens -/

/-- A sign with any blanks around it. -/
def SpellsSign (sign : Char) (piece : Text) : Prop :=
  ∃ before after : Text, piece = before ++ sign :: after ∧ before.Blank ∧ after.Blank

def Spells : Token → Text → Prop
  | .simple part, piece => piece = part.render
  | .malformed _, _ => False
  | .combinator .descendant, piece => piece.Blank ∧ piece ≠ []
  | .combinator .child, piece => SpellsSign '>' piece
  | .combinator .adjacent, piece => SpellsSign '+' piece
  | .combinator .sibling, piece => SpellsSign '~' piece
  | .comma, piece => SpellsSign ',' piece
  | .negationOpen, piece =>
      ∃ blanks : Text, piece = [':', 'n', 'o', 't', '('] ++ blanks ∧ blanks.Blank
  | .negationClose, piece => ∃ blanks : Text, piece = blanks ++ [')'] ∧ blanks.Blank

/-- The text spells the tokens one after the other. -/
def Spelled : List Token → Text → Prop
  | [], text => text = []
  | token :: tokens, text =>
      ∃ piece rest, text = piece ++ rest ∧ Spells token piece ∧ Spelled tokens rest

theorem spells_render {token : Token} (sound : token.malformed? = none) :
    Spells token token.render := by
  match token with
  | .simple _ => rfl
  | .malformed _ => simp [Token.malformed?] at sound
  | .combinator .descendant => exact ⟨Text.blank_space, List.cons_ne_nil _ _⟩
  | .combinator .child | .combinator .adjacent | .combinator .sibling =>
      exact ⟨[' '], [' '], rfl, Text.blank_space, Text.blank_space⟩
  | .comma => exact ⟨[], [' '], rfl, Text.blank_nil, Text.blank_space⟩
  | .negationOpen => exact ⟨[], rfl, Text.blank_nil⟩
  | .negationClose => exact ⟨[], rfl, Text.blank_nil⟩

/-- The printed tokens are one of their spellings. -/
theorem spelled_renderTokens {tokens : List Token}
    (sound : ∀ token ∈ tokens, token.malformed? = none) : Spelled tokens (renderTokens tokens) := by
  induction tokens with
  | nil => rfl
  | cons token tokens induction =>
      exact ⟨token.render, renderTokens tokens, rfl, spells_render (sound token List.mem_cons_self),
        induction fun other member => sound other (List.mem_cons_of_mem _ member)⟩

theorem Fits.exists_tail {position : Position} {openNegations : Nat} {token : Token}
    {tokens : List Token} (fits : Fits position openNegations (token :: tokens)) :
    ∃ reached remaining, Fits reached remaining tokens := by
  match token with
  | .simple _ => exact ⟨_, _, fits.2.2⟩
  | .malformed _ => exact fits.elim
  | .combinator _ | .comma => exact ⟨_, _, fits.2⟩
  | .negationOpen => exact ⟨_, _, fits⟩
  | .negationClose => exact ⟨_, _, fits.2.2⟩

theorem Fits.sound {position : Position} {openNegations : Nat} {tokens : List Token}
    (fits : Fits position openNegations tokens) : ∀ token ∈ tokens, token.malformed? = none := by
  induction tokens generalizing position openNegations with
  | nil => simp
  | cons token tokens induction =>
      have first : token.malformed? = none := by
        cases token <;> first | rfl | exact fits.elim
      rcases fits.exists_tail with ⟨reached, remaining, further⟩
      intro other member
      rcases List.mem_cons.mp member with rfl | member
      · exact first
      · exact induction further other member

/-! ## How the text of tokens begins and ends -/

/-- The characters that a part of a compound begins with. -/
def beginsPart (character : Char) : Bool :=
  startsName character || ['.', '#', '[', '*', ':'].contains character

theorem isBlank_eq_false_of_beginsPart {character : Char} (begins : beginsPart character = true) :
    isBlank character = false := by
  rcases Bool.or_eq_true .. ▸ begins with starts | sign
  · exact isBlank_eq_false_of_startsName starts
  · simp only [List.contains_cons, List.contains_nil, Bool.or_false, Bool.or_eq_true,
      beq_iff_eq] at sign
    rcases sign with rfl | rfl | rfl | rfl | rfl <;> decide

theorem exists_render {part : Simple} (written : part.Written) :
    ∃ first rest, part.render = first :: rest ∧ beginsPart first = true ∧
      (part.isType = false → continuesName first = false ∧ first ≠ '(') := by
  cases written with
  | any => exact ⟨'*', [], rfl, by decide, fun _ => by decide⟩
  | type form =>
      rcases form with ⟨first, rest, rfl, start, -⟩
      exact ⟨first, rest, rfl, by simp [beginsPart, start], by simp [Simple.isType]⟩
  | className => exact ⟨'.', _, rfl, by decide, fun _ => by decide⟩
  | id => exact ⟨'#', _, rfl, by decide, fun _ => by decide⟩
  | bareBrackets => exact ⟨'[', _, rfl, by decide, fun _ => by decide⟩
  | brackets => exact ⟨'[', _, rfl, by decide, fun _ => by decide⟩
  | pseudo colons =>
      rcases colons with rfl | rfl
      · exact ⟨':', _, rfl, by decide, fun _ => by decide⟩
      · exact ⟨':', _, rfl, by decide, fun _ => by decide⟩
  | function colons =>
      rcases colons with rfl | rfl
      · exact ⟨':', _, rfl, by decide, fun _ => by decide⟩
      · exact ⟨':', _, rfl, by decide, fun _ => by decide⟩

/-- The text goes on with a part of a compound. -/
def BeginsWithPart (text : Text) : Prop :=
  ∃ first rest, text = first :: rest ∧ beginsPart first = true

theorem beginsWithPart_of_spelled {openNegations : Nat} {tokens : List Token} {text : Text}
    (fits : Fits .opening openNegations tokens) (spelled : Spelled tokens text) :
    BeginsWithPart text := by
  match tokens with
  | [] => exact absurd rfl fits.1
  | .simple part :: _ =>
      rcases spelled with ⟨_, rest, rfl, rfl, -⟩
      rcases exists_render fits.1 with ⟨first, others, equal, begins, -⟩
      exact ⟨first, others ++ rest, by rw [equal]; rfl, begins⟩
  | .malformed _ :: _ => exact fits.elim
  | .combinator _ :: _ | .comma :: _ | .negationClose :: _ => exact absurd rfl fits.1
  | .negationOpen :: _ =>
      rcases spelled with ⟨_, rest, rfl, ⟨blanks, rfl, -⟩, -⟩
      exact ⟨':', _, rfl, by decide⟩

theorem goesOnName_eq_false_of_isBlank {character : Char} (blank : isBlank character = true) :
    goesOnName character = false := by
  cases goesOn : goesOnName character with
  | false => rfl
  | true =>
      rcases Bool.or_eq_true .. ▸ goesOn with continues | opening
      · rw [isBlank_eq_false_of_continuesName continues] at blank
        simp at blank
      · rw [of_decide_eq_true opening] at blank
        exact absurd blank (by decide)

theorem leaves_goesOnName_of_blank {before rest : Text} (blank : before.Blank)
    (leaves : rest.Leaves goesOnName) : (before ++ rest).Leaves goesOnName := by
  cases before with
  | nil => exact leaves
  | cons first before =>
      exact Text.leaves_cons.mpr
        (goesOnName_eq_false_of_isBlank (blank first List.mem_cons_self))

theorem leaves_of_spellsSign {sign : Char} {piece : Text} (rest : Text)
    (spells : SpellsSign sign piece) (ends : goesOnName sign = false) :
    (piece ++ rest).Leaves goesOnName := by
  rcases spells with ⟨before, after, rfl, blank, -⟩
  rw [List.append_assoc]
  exact leaves_goesOnName_of_blank blank (Text.leaves_cons.mpr ends)

/-- After a name, no token goes on with it. -/
theorem leaves_of_spelled {openNegations : Nat} {tokens : List Token} {text : Text}
    (fits : Fits .afterName openNegations tokens) (spelled : Spelled tokens text) :
    text.Leaves goesOnName := by
  match tokens with
  | [] =>
      cases spelled
      exact Text.leaves_nil _
  | .simple part :: _ =>
      rcases spelled with ⟨_, rest, rfl, rfl, -⟩
      rcases fits with ⟨written, apart, -⟩
      rcases exists_render written with ⟨first, others, equal, -, ends⟩
      have noType : part.isType = false := by
        cases isType : part.isType with
        | false => rfl
        | true => exact absurd rfl (apart isType)
      rw [equal, List.cons_append, Text.leaves_cons]
      simp [goesOnName, ends noType]
  | .malformed _ :: _ => exact fits.elim
  | .combinator .descendant :: _ =>
      rcases spelled with ⟨piece, rest, rfl, ⟨blank, nonempty⟩, -⟩
      cases piece with
      | nil => exact absurd rfl nonempty
      | cons first piece =>
          exact Text.leaves_cons.mpr
            (goesOnName_eq_false_of_isBlank (blank first List.mem_cons_self))
  | .combinator .child :: _ | .combinator .adjacent :: _ | .combinator .sibling :: _
  | .comma :: _ =>
      rcases spelled with ⟨piece, rest, rfl, spells, -⟩
      exact leaves_of_spellsSign rest spells (by decide)
  | .negationOpen :: _ =>
      rcases spelled with ⟨_, rest, rfl, ⟨blanks, rfl, -⟩, -⟩
      exact Text.leaves_cons.mpr (by decide)
  | .negationClose :: _ =>
      rcases spelled with ⟨_, rest, rfl, ⟨blanks, rfl, blank⟩, -⟩
      rw [List.append_assoc]
      exact leaves_goesOnName_of_blank blank (Text.leaves_cons.mpr (by decide))

end ScopedMarkup.Css.Selector
