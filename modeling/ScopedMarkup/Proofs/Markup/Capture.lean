import ScopedMarkup.Markup.Piece
import ScopedMarkup.Proofs.Markup.Token

/-! # What is captured

Which characters and pairs of characters end a name, a value, an expression and a
run of text, and which text follows a token of one kind.
-/

namespace ScopedMarkup.Markup

namespace Token

variable {stops other : Text → Bool} {part rest text : Text} {kind : TokenKind}

/-! ## Parts that go on -/

theorem goesOn_congr (equal : ∀ text, text ≠ [] → stops text = other text) :
    GoesOn stops part rest ↔ GoesOn other part rest := by
  have nonempty {back : Text} (holds : back ≠ []) : back ++ rest ≠ [] :=
    fun empty => holds (List.append_eq_nil_iff.mp empty).1
  constructor
  · intro goesOn front back split holds
    exact equal _ (nonempty holds) ▸ goesOn front back split holds
  · intro goesOn front back split holds
    exact equal _ (nonempty holds) ▸ goesOn front back split holds

theorem goesOn_or_iff : GoesOn (fun text => stops text || other text) part rest ↔
    GoesOn stops part rest ∧ GoesOn other part rest := by
  simp only [GoesOn, Bool.or_eq_false_iff, forall_and]

theorem goesOn_character_iff {excluded : Char → Bool} :
    GoesOn (fun text => text.head?.any excluded) part rest ↔
      ∀ character ∈ part, excluded character = false := by
  induction part with
  | nil => simp [goesOn_nil]
  | cons character part induction => simp [goesOn_cons, induction]

theorem getLast?_cons_eq_some_iff {first second : Char} {part : Text} :
    (second :: part).getLast? = some first ↔
      (part = [] ∧ second = first) ∨ part.getLast? = some first := by
  cases part with
  | nil => simp
  | cons other part => simp [List.getLast?_cons_cons]

theorem goesOn_pair_iff {first second : Char} :
    GoesOn (fun text => [first, second].isPrefixOf text) part rest ↔
      ¬ [first, second] <:+: part ∧ ¬ (part.getLast? = some first ∧ rest.head? = some second) := by
  induction part with
  | nil => simp [goesOn_nil]
  | cons character part induction =>
      rw [goesOn_cons, induction, Bool.eq_false_iff, ne_eq, List.isPrefixOf_iff_prefix,
        pair_prefix_iff, List.infix_cons_iff, pair_prefix_iff, getLast?_cons_eq_some_iff]
      cases part with
      | nil => simp
      | cons next part => simp [and_assoc]

/-! ## What ends the parts of markup -/

theorem capture_eq_iff (aligned : Aligned stops) :
    capture stops text = (part, rest) ↔
      text = part ++ rest ∧ GoesOn stops part rest ∧ Stops stops rest := by
  rw [capture_eq_before aligned, before_eq_iff]

def endsText : Text → Bool := startsWith [.slotOpen, .lessThan, .closeTag]

def endsScript : Text → Bool := startsWith [.slotClose]

def endsValue (quote : TokenKind) : Text → Bool := startsWith [quote]

theorem aligned_endsText : Aligned endsText := aligned_startsWith (by decide)

theorem aligned_endsScript : Aligned endsScript := aligned_startsWith (by decide)

theorem startsWith_single_iff (marked : sign kind ≠ [])
    (whole : kind ≠ .lessThan) : startsWith [kind] text = true ↔ sign kind <+: text := by
  rw [startsWith, List.contains_eq_mem, decide_eq_true_iff, List.mem_singleton, kind_first,
    kindAt_eq_iff marked whole]

theorem endsText_iff :
    endsText text = true ↔ text.head? = some '<' ∨ ['{', '{'] <+: text := by
  have either : endsText text = true ↔
      kindAt text = .slotOpen ∨ kindAt text = .lessThan ∨ kindAt text = .closeTag := by
    simp [endsText, startsWith, kind_first]
  rw [either, kindAt_lessThan_or_closeTag_iff, or_comm, kindAt_eq_iff (by decide) (by decide)]
  rfl

theorem goesOn_text_iff : GoesOn endsText part rest ↔
    '<' ∉ part ∧ ¬ ['{', '{'] <:+: part ∧
      ¬ (part.getLast? = some '{' ∧ rest.head? = some '{') := by
  have equal : ∀ text, text ≠ [] →
      endsText text = (text.head?.any (· = '<') || ['{', '{'].isPrefixOf text) := by
    intro text _
    rw [Bool.eq_iff_iff, endsText_iff, Bool.or_eq_true, List.isPrefixOf_iff_prefix]
    cases text <;> simp
  rw [goesOn_congr equal, goesOn_or_iff, goesOn_character_iff, goesOn_pair_iff]
  simp only [decide_eq_false_iff_not, List.forall_mem_ne']

theorem goesOn_script_iff : GoesOn endsScript part rest ↔
    ¬ ['}', '}'] <:+: part ∧ ¬ (part.getLast? = some '}' ∧ rest.head? = some '}') := by
  have equal : ∀ text, text ≠ [] → endsScript text = ['}', '}'].isPrefixOf text := by
    intro text _
    rw [Bool.eq_iff_iff, endsScript, startsWith_single_iff (by decide) (by decide),
      List.isPrefixOf_iff_prefix]
    rfl
  rw [goesOn_congr equal, goesOn_pair_iff]

theorem goesOn_value_iff {quote : Char} (own : sign kind = [quote])
    (whole : kind ≠ .lessThan) : GoesOn (endsValue kind) part rest ↔ quote ∉ part := by
  have equal : ∀ text, text ≠ [] → endsValue kind text = text.head?.any (· = quote) := by
    intro text _
    rw [Bool.eq_iff_iff, endsValue, startsWith_single_iff (by rw [own]; simp) whole, own,
      single_prefix_iff]
    cases text <;> simp
  rw [goesOn_congr equal, goesOn_character_iff]
  simp only [decide_eq_false_iff_not, List.forall_mem_ne']

/-- No name contains such a character. -/
def isForeignToNames (character : Char) : Bool :=
  isBlank character || ['<', '>', '\'', '"', '='].contains character

theorem endsName_of_kindAt (different : kind ≠ .word ∧ kind ≠ .dot)
    (equal : kindAt text = kind) : endsName text = true := by
  simp [endsName, startsWith, kind_first, equal, different]

theorem endsName_of_isForeignToNames {character : Char} {rest : Text}
    (excluded : isForeignToNames character = true) : endsName (character :: rest) = true := by
  rcases Bool.or_eq_true .. ▸ excluded with blank | sign
  · exact endsName_of_kindAt (by decide) (kindAt_of_isBlank blank rest)
  · simp only [List.contains_eq_mem, decide_eq_true_iff, List.mem_cons, List.not_mem_nil,
      or_false] at sign
    rcases sign with rfl | rfl | rfl | rfl | rfl
    · have opens : ('<' :: rest).head? = some '<' := rfl
      rcases kindAt_lessThan_or_closeTag_iff.mpr opens with equal | equal
      · exact endsName_of_kindAt (by decide) equal
      · exact endsName_of_kindAt (by decide) equal
    · exact @endsName_of_kindAt _ .greaterThan (by decide) rfl
    · exact @endsName_of_kindAt _ .singleQuote (by decide) rfl
    · exact @endsName_of_kindAt _ .doubleQuote (by decide) rfl
    · exact @endsName_of_kindAt _ .equals (by decide) rfl

theorem endsName_of_sign (different : kind ≠ .word ∧ kind ≠ .dot)
    (marked : sign kind ≠ []) (whole : kind ≠ .lessThan) (begins : sign kind <+: text) :
    endsName text = true :=
  endsName_of_kindAt different ((kindAt_eq_iff marked whole).mpr begins)

theorem endsName_eq_false {character : Char} {rest : Text}
    (plain : isForeignToNames character = false)
    (noSelfClose : ¬ ['/', '>'] <+: character :: rest)
    (noOpening : ¬ ['{', '{'] <+: character :: rest)
    (noClosing : ¬ ['}', '}'] <+: character :: rest) : endsName (character :: rest) = false := by
  rw [pair_prefix_iff] at noSelfClose noOpening noClosing
  simp only [isForeignToNames, Bool.or_eq_false_iff, List.contains_eq_mem,
    decide_eq_false_iff_not, List.mem_cons, List.not_mem_nil, or_false, not_or] at plain
  have kind : kindAt (character :: rest) = if character = '.' then .dot else .word := by
    simp only [kindAt, plain, noSelfClose, noOpening, noClosing, if_false, Bool.false_eq_true]
  rw [endsName, startsWith, kind_first, kind]
  split <;> rfl

theorem endsName_eq (nonempty : text ≠ []) :
    endsName text = (text.head?.any isForeignToNames || ['/', '>'].isPrefixOf text ||
      ['{', '{'].isPrefixOf text || ['}', '}'].isPrefixOf text) := by
  cases text with
  | nil => exact absurd rfl nonempty
  | cons character rest =>
      rw [Bool.eq_iff_iff, Bool.or_eq_true, Bool.or_eq_true, Bool.or_eq_true, List.head?_cons,
        Option.any_some, List.isPrefixOf_iff_prefix, List.isPrefixOf_iff_prefix,
        List.isPrefixOf_iff_prefix]
      constructor
      · intro ends
        apply Decidable.byContradiction
        intro none
        simp only [not_or, Bool.not_eq_true] at none
        rcases none with ⟨⟨⟨plain, noSelfClose⟩, noOpening⟩, noClosing⟩
        rw [endsName_eq_false plain noSelfClose noOpening noClosing] at ends
        exact Bool.false_ne_true ends
      · rintro (((excluded | selfClose) | opening) | closing)
        · exact endsName_of_isForeignToNames excluded
        · exact @endsName_of_sign _ .selfClose (by decide) (by decide) (by decide) selfClose
        · exact @endsName_of_sign _ .slotOpen (by decide) (by decide) (by decide) opening
        · exact @endsName_of_sign _ .slotClose (by decide) (by decide) (by decide) closing

theorem goesOn_name_iff : GoesOn endsName part rest ↔
    (∀ character ∈ part, isForeignToNames character = false) ∧
      ¬ (part.getLast? = some '/' ∧ rest.head? = some '>') ∧
      (¬ ['{', '{'] <:+: part ∧ ¬ (part.getLast? = some '{' ∧ rest.head? = some '{')) ∧
      (¬ ['}', '}'] <:+: part ∧ ¬ (part.getLast? = some '}' ∧ rest.head? = some '}')) := by
  rw [goesOn_congr fun text => endsName_eq, goesOn_or_iff, goesOn_or_iff, goesOn_or_iff,
    goesOn_character_iff, goesOn_pair_iff, goesOn_pair_iff, goesOn_pair_iff]
  constructor
  · rintro ⟨⟨⟨plain, -, slash⟩, opening⟩, closing⟩
    exact ⟨plain, slash, opening, closing⟩
  · rintro ⟨plain, slash, opening, closing⟩
    refine ⟨⟨⟨plain, fun inside => ?_, slash⟩, opening⟩, closing⟩
    have foreign := plain '>' (inside.mem (List.mem_cons_of_mem _ List.mem_cons_self))
    simp [isForeignToNames] at foreign

/-! ## What follows punctuation -/

theorem eq_sign_append_rest (marked : sign (kindAt text) ≠ []) :
    text = sign (kindAt text) ++ Token.rest text := by
  cases found : punctuation? text with
  | some token =>
      have scanned : scan text = token := by rw [scan.eq_def, found]
      have own : sign token.1.kind = token.1.value := by
        unfold punctuation? at found
        split at found <;> cases found <;> rfl
      have starts : first text = token.1 := congrArg Prod.fst scanned
      rw [← kind_first, starts, own, ← starts, value_append_rest]
  | none =>
      rw [← kind_first] at marked
      unfold first scan at marked
      rw [found] at marked
      cases text with
      | nil => exact absurd rfl marked
      | cons character rest =>
          cases blank : isBlank character <;> simp [blank, sign] at marked

theorem rest_sign_append (marked : sign kind ≠ []) (whole : kind ≠ .lessThan) (rest : Text) :
    Token.rest (sign kind ++ rest) = rest := by
  cases kind
  case lessThan => exact absurd rfl whole
  case word | blank | finish => exact absurd rfl marked
  all_goals rfl

theorem kindAt_sign_append (marked : sign kind ≠ []) (whole : kind ≠ .lessThan) (rest : Text) :
    kindAt (sign kind ++ rest) = kind :=
  (kindAt_eq_iff marked whole).mpr (List.prefix_append _ _)

theorem expect_eq_ok_iff (marked : sign kind ≠ []) (whole : kind ≠ .lessThan) :
    expect kind text = .ok rest ↔ text = sign kind ++ rest := by
  rw [expect, kind_first]
  constructor
  · intro expected
    split at expected
    · rename_i equal
      cases expected
      rw [← equal] at marked
      rw [← equal]
      exact eq_sign_append_rest marked
    · cases expected
  · rintro rfl
    rw [kindAt_sign_append marked whole, if_pos rfl, rest_sign_append marked whole]

/-- A single sign, unless it begins a closing tag. -/
theorem kindAt_lessThan_cons (opens : rest.head? ≠ some '/') :
    kindAt ('<' :: rest) = .lessThan := by
  rw [kindAt, if_pos rfl, if_neg opens]

theorem rest_lessThan_cons (opens : rest.head? ≠ some '/') : Token.rest ('<' :: rest) = rest := by
  have kind := kindAt_lessThan_cons opens
  have split := eq_sign_append_rest (by rw [kind]; exact List.cons_ne_nil _ _)
  rw [kind] at split
  exact (List.cons.inj split).2.symm

theorem exists_of_kindAt_lessThan (kind : kindAt text = .lessThan) :
    text = '<' :: Token.rest text ∧ (Token.rest text).head? ≠ some '/' := by
  have split : text = '<' :: Token.rest text := by
    have own := eq_sign_append_rest (by rw [kind]; exact List.cons_ne_nil _ _)
    rwa [kind] at own
  refine ⟨split, fun closes => ?_⟩
  rw [split, kindAt, if_pos rfl, if_pos closes] at kind
  cases kind

end Token

/-! ## Pieces that are captured -/

section Pieces

variable {config : Config} {openTags : List Text} {text : Text}

theorem readPiece_slotOpen : readPiece config openTags ('{' :: '{' :: text) =
    (Token.expect .slotClose (Token.capture Token.endsScript text).2).map
      (.whole (.slot (Token.capture Token.endsScript text).1), ·) := rfl

theorem readPiece_of_not_endsText (here : Token.endsText text = false) :
    readPiece config openTags text =
      .ok (.whole (.text (Token.capture Token.endsText text).1),
        (Token.capture Token.endsText text).2) := by
  simp only [Token.endsText, Token.startsWith, List.contains_eq_mem, decide_eq_false_iff_not,
    List.mem_cons, List.not_mem_nil, or_false, not_or] at here
  unfold readPiece
  split
  · rename_i opening
    exact absurd opening here.1
  · rename_i lessThan
    exact absurd lessThan here.2.1
  · rename_i closeTag
    exact absurd closeTag here.2.2
  · rfl

end Pieces

end ScopedMarkup.Markup
