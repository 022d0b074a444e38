import Mathlib.Data.List.Chain
import Mathlib.Data.List.Find
import ScopedMarkup.Markup.Cursor
import ScopedMarkup.Proofs.Markup.Search

/-! # The tokens of a source

From every place of a source, reading goes on token by token up to the end, without a gap
and without a character left over. Marks of punctuation, blanks and words between them leave
no place where no token begins. Looking ahead finds the tokens that will be read.
-/

namespace ScopedMarkup.Markup

namespace Token

variable {text : Text}

/-! ## What begins a token -/

/-- The kinds of punctuation, those with the longer signs first. -/
def marks : List TokenKind :=
  [.closeTag, .selfClose, .slotOpen, .slotClose, .lessThan, .greaterThan, .singleQuote,
    .doubleQuote, .equals, .dot]

/-- A word may have the first character of a text. Slashes and braces stand in words where
the character behind them does not make a mark of both. -/
def continuesWord : Text → Bool
  | [] => false
  | first :: rest =>
      !(isBlank first || ['<', '>', '\'', '"', '=', '.', '/', '{', '}'].contains first) ||
        (first = '/' && rest.head? ≠ some '>') || (first = '{' && rest.head? ≠ some '{') ||
        (first = '}' && rest.head? ≠ some '}')

/-- The first token of a text and what follows it, tried in this order: each mark, blanks,
a word. Where nothing of this begins there is no token. -/
def scanInOrder? (text : Text) : Option (Token × Text) :=
  match marks.find? fun kind => (sign kind).isPrefixOf text with
  | some kind => some (⟨kind, sign kind⟩, text.drop (sign kind).length)
  | none =>
      match text.takeWhile isBlank, before (fun rest => !continuesWord rest) text with
      | first :: blanks, _ => some (⟨.blank, first :: blanks⟩, text.dropWhile isBlank)
      | [], (first :: word, rest) => some (⟨.word, first :: word⟩, rest)
      | [], ([], _) => none

/-- A word goes on where neither blanks nor a mark begin. -/
theorem continuesWord_eq (text : Text) : continuesWord text = !endsWord text := by
  rw [endsWord_eq_leavesWord]
  cases text with
  | nil => rfl
  | cons first rest =>
      have slash : isBlank '/' = false := by decide
      have opening : isBlank '{' = false := by decide
      have closing : isBlank '}' = false := by decide
      rw [Bool.eq_iff_iff, Bool.not_eq_true', Bool.eq_false_iff, ne_eq, leavesWord,
        Bool.or_eq_true]
      simp only [List.any_cons, List.any_nil, Bool.or_eq_true, List.isPrefixOf_iff_prefix,
        pair_prefix_iff]
      by_cases isSlash : first = '/'
      · simp [continuesWord, isSlash, slash]
      · by_cases isOpening : first = '{'
        · simp [continuesWord, isOpening, opening]
        · by_cases isClosing : first = '}'
          · simp [continuesWord, isClosing, closing]
          · simp [continuesWord, isSlash, isOpening, isClosing]

/-- The first mark in the list that a text begins with is the kind of its first token. -/
theorem find?_marks (text : Text) :
    marks.find? (fun kind => (sign kind).isPrefixOf text) = marks.find? (kindAt text = ·) := by
  by_cases closing : kindAt text = .closeTag
  · -- Only here two marks begin at one place, and the closing tag is tried first.
    have begins : (sign .closeTag).isPrefixOf text = true := by
      rw [List.isPrefixOf_iff_prefix, ← closing]
      exact sign_kindAt_prefix text
    simp [marks, begins, closing]
  · refine List.find?_congr fun kind isMark => ?_
    rw [Bool.eq_iff_iff, List.isPrefixOf_iff_prefix, decide_eq_true_iff]
    by_cases whole : kind = .lessThan
    · have opens := @kindAt_lessThan_or_closeTag_iff text
      rw [or_iff_left closing] at opens
      rw [whole, opens]
      exact single_prefix_iff
    · have marked : ∀ kind ∈ marks, sign kind ≠ [] := by decide
      exact (kindAt_eq_iff (marked kind isMark) whole).symm

theorem kind_mem_marks {token : Token} {rest : Text}
    (found : punctuation? text = some (token, rest)) : token.kind ∈ marks := by
  unfold punctuation? at found
  split at found <;> cases found <;> decide

/-- What is read where a mark begins. -/
theorem scan_of_mem_marks (isMark : kindAt text ∈ marks) :
    scan text = (⟨kindAt text, sign (kindAt text)⟩, text.drop (sign (kindAt text)).length) := by
  have marked : ∀ kind ∈ marks, sign kind ≠ [] := by decide
  have split := eq_sign_append_rest (marked _ isMark)
  have value : (first text).value = sign (kindAt text) :=
    List.append_cancel_right ((value_append_rest text).trans split)
  have follows : Token.rest text = text.drop (sign (kindAt text)).length := by
    have cut := congrArg (List.drop (sign (kindAt text)).length) split
    rw [List.drop_left] at cut
    exact cut.symm
  rw [← follows, ← value, ← kind_first]
  rfl

/-- What is read where no mark begins. -/
theorem scan_of_not_mem_marks {first : Char} {rest : Text}
    (noMark : kindAt (first :: rest) ∉ marks) :
    scan (first :: rest) =
      if isBlank first then
        (⟨.blank, first :: rest.takeWhile isBlank⟩, rest.dropWhile isBlank)
      else (⟨.word, first :: (before endsWord rest).1⟩, (before endsWord rest).2) := by
  have none : punctuation? (first :: rest) = none := by
    cases found : punctuation? (first :: rest) with
    | none => rfl
    | some scanned =>
        have own : (Token.first (first :: rest)).kind = scanned.1.kind := by
          rw [Token.first, scan, found]
        rw [← kind_first, own] at noMark
        exact absurd (kind_mem_marks found) noMark
  rw [scan, none, wordRun_eq_before]

/-- Wherever a source goes on there is a token, and it is the one that is read. -/
theorem scanInOrder?_eq (nonempty : text ≠ []) : scanInOrder? text = some (scan text) := by
  rw [scanInOrder?, find?_marks]
  by_cases isMark : kindAt text ∈ marks
  · have found : ∀ kind ∈ marks, marks.find? (kind = ·) = some kind := by decide
    rw [found _ isMark, scan_of_mem_marks isMark]
  · have absent : marks.find? (kindAt text = ·) = none :=
      List.find?_eq_none.mpr fun kind member equal =>
        isMark (of_decide_eq_true equal ▸ member)
    have stops : (fun rest => !continuesWord rest) = endsWord := by
      funext rest
      rw [continuesWord_eq, Bool.not_not]
    rw [absent, stops]
    cases text with
    | nil => exact absurd rfl nonempty
    | cons first rest =>
        rw [scan_of_not_mem_marks isMark, List.takeWhile_cons, List.dropWhile_cons]
        cases blank : isBlank first with
        | true => rfl
        | false =>
            have word : (Token.first (first :: rest)).kind = .word := by
              rw [Token.first, scan_of_not_mem_marks isMark, blank]
              rfl
            rw [before, kind_eq_word_iff.mp word]
            rfl

/-! ## Where tokens end -/

/-- A character that no word contains. -/
def isForeignToWords (character : Char) : Bool :=
  isBlank character || ['<', '>', '\'', '"', '=', '.'].contains character

theorem endsWord_eq_foreign (nonempty : text ≠ []) :
    endsWord text = (text.head?.any isForeignToWords || ['/', '>'].isPrefixOf text ||
      ['{', '{'].isPrefixOf text || ['}', '}'].isPrefixOf text) := by
  cases text with
  | nil => exact absurd rfl nonempty
  | cons first rest =>
      rw [endsWord_eq_leavesWord]
      simp [leavesWord, isForeignToWords, Bool.or_assoc]

/-- What the value of a word holds. -/
theorem of_kind_eq_word (word : (first text).kind = .word) :
    (∀ character ∈ (first text).value, isForeignToWords character = false) ∧
      ¬ ['{', '{'] <:+: (first text).value ∧ ¬ ['}', '}'] <:+: (first text).value := by
  have goesOn := goesOn_word word
  rw [goesOn_congr fun text => endsWord_eq_foreign, goesOn_or_iff, goesOn_or_iff, goesOn_or_iff,
    goesOn_character_iff, goesOn_pair_iff, goesOn_pair_iff, goesOn_pair_iff] at goesOn
  obtain ⟨⟨⟨plain, -⟩, opening, -⟩, closing, -⟩ := goesOn
  exact ⟨plain, opening, closing⟩

theorem isBlank_eq {character : Char} {rest : Text}
    (noMark : kindAt (character :: rest) ∉ marks) :
    isBlank character = decide ((first (character :: rest)).kind = .blank) := by
  rw [Token.first, scan_of_not_mem_marks noMark]
  cases isBlank character <;> rfl

/-- No word follows a word. -/
theorem kind_rest_ne_word (word : (first text).kind = .word) :
    (first (Token.rest text)).kind ≠ .word := by
  have noMark : kindAt text ∉ marks := by
    rw [← kind_first, word]
    decide
  cases text with
  | nil => cases word
  | cons character rest =>
      have inside : isBlank character = false := by simp [isBlank_eq noMark, word]
      have follows : Token.rest (character :: rest) = (before endsWord rest).2 := by
        rw [Token.rest, scan_of_not_mem_marks noMark, inside]
        rfl
      rw [follows, ne_eq, kind_eq_word_iff]
      rcases (before_eq_iff.mp (Prod.eta (before endsWord rest)).symm).2.2 with ended | ends
      · simp [ended, endsWord]
      · simp [ends]

/-- No blanks follow blanks. -/
theorem kind_rest_ne_blank (blank : (first text).kind = .blank) :
    (first (Token.rest text)).kind ≠ .blank := by
  have noMark : kindAt text ∉ marks := by
    rw [← kind_first, blank]
    decide
  cases text with
  | nil => cases blank
  | cons character rest =>
      have inside : isBlank character = true := by simp [isBlank_eq noMark, blank]
      have follows : Token.rest (character :: rest) = rest.dropWhile isBlank := by
        rw [Token.rest, scan_of_not_mem_marks noMark, inside]
        rfl
      rw [follows]
      intro further
      cases left : rest.dropWhile isBlank with
      | nil =>
          rw [left] at further
          cases further
      | cons next others =>
          rw [left] at further
          have again : kindAt (next :: others) ∉ marks := by
            rw [← kind_first, further]
            decide
          have leaves := List.head?_dropWhile_not isBlank rest
          simp [left, isBlank_eq again, further] at leaves

end Token

/-! ## Reading token by token -/

namespace Cursor

variable {cursor moved : Cursor} {placed : PlacedToken} {tokens : List PlacedToken}

/-- Reading on from a cursor gives these tokens, one after the other, and then the end,
where no token is left to read. -/
inductive Reads : Cursor → List PlacedToken → Prop where
  | finish {cursor : Cursor} (ended : cursor.next = .error
      ⟨.unexpectedEnd, Place.of cursor.source cursor.source.length⟩) : Reads cursor []
  | token {cursor moved : Cursor} {placed : PlacedToken} {tokens : List PlacedToken}
      (read : cursor.next = .ok (placed, moved)) (further : Reads moved tokens) :
      Reads cursor (placed :: tokens)

/-- The first token starts here, and each other one where the one before it ends. -/
def Adjoining : (start : Nat) → List PlacedToken → Prop
  | _, [] => True
  | start, placed :: rest => placed.start = start ∧ Adjoining placed.finish rest

/-- Words and runs of blanks reach as far as they can, so neither two words nor two runs of
blanks stand side by side. -/
def Parted (left right : PlacedToken) : Prop :=
  ¬ (left.token.kind = .word ∧ right.token.kind = .word) ∧
    ¬ (left.token.kind = .blank ∧ right.token.kind = .blank)

/-- These are the tokens from a cursor up to the end of its source. -/
structure Tokenizes (cursor : Cursor) (tokens : List PlacedToken) : Prop where
  reads : Reads cursor tokens
  adjoining : Adjoining cursor.position tokens
  nonempty : ∀ placed ∈ tokens, placed.token.value ≠ []
  /-- The values make up the rest of the source. -/
  whole : (tokens.flatMap fun placed => placed.token.value) = cursor.source.drop cursor.position
  parted : tokens.IsChain Parted
  word : ∀ placed ∈ tokens, placed.token.kind = .word →
    (∀ character ∈ placed.token.value,
      isBlank character = false ∧ character ∉ ['<', '>', '\'', '"', '=', '.']) ∧
      ¬ ['{', '{'] <:+: placed.token.value ∧ ¬ ['}', '}'] <:+: placed.token.value
  /-- Behind the last token a look ahead finds the end. -/
  ahead : ∀ skipped, cursor.peek skipped =
    (tokens[skipped]?).getD ⟨.finish, cursor.source.length⟩
  /-- At the start of each token a mark, blanks or a word begin. -/
  scanned : ∀ placed ∈ tokens, Token.scanInOrder? (cursor.source.drop placed.start) =
    some (placed.token, cursor.source.drop placed.finish)

theorem current_token (cursor : Cursor) : cursor.current.token = Token.first cursor.rest := by
  unfold current
  split
  · rename_i ended
    rw [rest, List.drop_eq_nil_of_le (by simpa [atEnd] using ended)]
    rfl
  · rfl

theorem rest_ne_nil (unfinished : cursor.atEnd = false) : cursor.rest ≠ [] := by
  simpa [rest, atEnd] using unfinished

theorem current_of_unfinished (unfinished : cursor.atEnd = false) :
    cursor.current = ⟨Token.first cursor.rest, cursor.position⟩ := by
  rw [current, unfinished]
  rfl

/-- Behind its first token the source goes on with what follows that token. -/
theorem rest_after_current (unfinished : cursor.atEnd = false) :
    (cursor.after cursor.current).rest = Token.rest cursor.rest := by
  have split := congrArg (List.drop (Token.first cursor.rest).value.length)
    (Token.value_append_rest cursor.rest)
  rw [List.drop_left] at split
  rw [split, current_of_unfinished unfinished]
  exact List.drop_drop.symm

theorem parted_current (unfinished : cursor.atEnd = false) :
    Parted cursor.current (cursor.after cursor.current).current := by
  rw [Parted, current_token, current_token, rest_after_current unfinished]
  exact ⟨fun words => Token.kind_rest_ne_word words.1 words.2,
    fun blanks => Token.kind_rest_ne_blank blanks.1 blanks.2⟩

theorem Tokenizes.finish (ended : cursor.atEnd = true) : cursor.Tokenizes [] where
  reads := .finish (by rw [next, if_pos ended])
  adjoining := trivial
  nonempty := List.forall_mem_nil _
  whole := (List.drop_eq_nil_of_le (by simpa [atEnd] using ended)).symm
  parted := .nil
  word := List.forall_mem_nil _
  ahead skipped := by cases skipped <;> simp [peek, current, ended]
  scanned := List.forall_mem_nil _

/-- One token and then those behind it. -/
theorem Tokenizes.step (unfinished : cursor.atEnd = false)
    (further : (cursor.after cursor.current).Tokenizes tokens) :
    cursor.Tokenizes (cursor.current :: tokens) where
  reads := .token (by rw [next, unfinished]; rfl) further.reads
  adjoining := by
    refine ⟨?_, further.adjoining⟩
    rw [current_of_unfinished unfinished]
  nonempty := by
    refine List.forall_mem_cons.mpr ⟨?_, further.nonempty⟩
    rw [current_token]
    exact Token.value_ne_nil (rest_ne_nil unfinished)
  whole := by
    have behind := rest_after_current unfinished
    rw [rest] at behind
    rw [List.flatMap_cons, further.whole, behind, current_token, Token.value_append_rest]
    rfl
  parted := by
    refine List.isChain_cons.mpr ⟨fun next isNext => ?_, further.parted⟩
    have found := further.ahead 0
    rw [← List.head?_eq_getElem?, isNext, Option.getD_some] at found
    rw [← found, peek]
    exact parted_current unfinished
  word := by
    refine List.forall_mem_cons.mpr ⟨?_, further.word⟩
    rw [current_token]
    intro isWord
    obtain ⟨plain, pairs⟩ := Token.of_kind_eq_word isWord
    refine ⟨fun character member => ?_, pairs⟩
    simpa [Token.isForeignToWords] using plain character member
  ahead skipped := by
    cases skipped with
    | zero => rw [peek, List.getElem?_cons_zero, Option.getD_some]
    | succ skipped =>
        rw [peek, unfinished, List.getElem?_cons_succ]
        exact further.ahead skipped
  scanned := by
    refine List.forall_mem_cons.mpr ⟨?_, further.scanned⟩
    have scanned := Token.scanInOrder?_eq (rest_ne_nil unfinished)
    have behind := rest_after_current unfinished
    rw [current_of_unfinished unfinished] at behind ⊢
    exact scanned.trans (congrArg some (Prod.ext rfl behind.symm))

/-- Tokenization loses nothing and looks ahead truthfully. From any place of a source the
tokens up to its end adjoin each other and make up the rest of the source, and a look ahead,
which leaves the cursor where it is, finds them. -/
theorem tokenizes_remaining (cursor : Cursor) : cursor.Tokenizes cursor.remaining := by
  fun_induction remaining cursor with
  | case1 cursor ended => exact .finish ended
  | case2 cursor unfinished induction =>
      exact .step (Bool.eq_false_iff.mpr unfinished) induction

example : (Cursor.mk "x a/></b" 1).remaining.map (fun placed => placed.token.kind) =
    [.blank, .word, .selfClose, .closeTag, .word] := by decide +kernel

end Cursor

end ScopedMarkup.Markup
