import ScopedMarkup.Markup.Cursor
import ScopedMarkup.Proofs.Css.Span
import ScopedMarkup.Proofs.Markup.Capture

/-! # The ends of captures as first occurrences

Scripts, values, runs of text and the bodies of style elements are captured token by
token. Each ends at the first index where the characters of its end mark stand, as a
search of the source finds it: no token holds such a mark behind its own beginning.
-/

namespace ScopedMarkup

namespace Text

/-! ## Searches -/

variable {holds : Text → Bool} {source : Text} {start finish : Nat}

/-- The first index, not before the start, from which on the source is like this. -/
def firstIndex? (holds : Text → Bool) (source : Text) (start : Nat) : Option Nat :=
  (List.range' start (source.length + 1 - start)).find? fun index => holds (source.drop index)

theorem firstIndex?_eq_some_iff : firstIndex? holds source start = some finish ↔
    (start ≤ finish ∧ finish ≤ source.length) ∧ holds (source.drop finish) = true ∧
      ∀ index, start ≤ index → index < finish → holds (source.drop index) = false := by
  rw [firstIndex?, List.find?_range'_eq_some]
  simp only [List.mem_range'_1, Bool.not_eq_true']
  constructor
  · rintro ⟨found, ⟨after, inside⟩, earlier⟩
    exact ⟨⟨after, by omega⟩, found, earlier⟩
  · rintro ⟨⟨after, inside⟩, found, earlier⟩
    exact ⟨found, ⟨after, by omega⟩, earlier⟩

theorem firstIndex?_eq_none_iff : firstIndex? holds source start = none ↔
    ∀ index, start ≤ index → index ≤ source.length → holds (source.drop index) = false := by
  simp only [firstIndex?, List.find?_eq_none, List.mem_range'_1, Bool.not_eq_true, and_imp]
  constructor
  · intro absent index after inside
    exact absent index after (by omega)
  · intro absent index after inside
    exact absent index after (by omega)

/-- Where the search ends, which is at the end of the source if it finds nothing. -/
def searchEnd (holds : Text → Bool) (source : Text) (start : Nat) : Nat :=
  (firstIndex? holds source start).getD source.length

example : searchEnd ['b'].isPrefixOf "abcb" 2 = 3 ∧ searchEnd ['a'].isPrefixOf "abcb" 2 = 4 := by
  decide

theorem searchEnd_bounds (inside : start ≤ source.length) :
    start ≤ searchEnd holds source start ∧ searchEnd holds source start ≤ source.length := by
  cases searched : firstIndex? holds source start with
  | none => simpa [searchEnd, searched] using inside
  | some finish => simpa [searchEnd, searched] using (firstIndex?_eq_some_iff.mp searched).1

theorem eq_false_of_lt_searchEnd {index : Nat} (after : start ≤ index)
    (earlier : index < searchEnd holds source start) : holds (source.drop index) = false := by
  cases searched : firstIndex? holds source start with
  | none =>
      rw [searchEnd, searched, Option.getD_none] at earlier
      exact firstIndex?_eq_none_iff.mp searched index after (Nat.le_of_lt earlier)
  | some finish =>
      rw [searchEnd, searched, Option.getD_some] at earlier
      exact (firstIndex?_eq_some_iff.mp searched).2.2 index after earlier

theorem drop_eq_extract_append {finish : Nat} (after : start ≤ finish) :
    source.drop start = source.extract start finish ++ source.drop finish := by
  have split := List.take_append_drop (finish - start) (source.drop start)
  rw [List.drop_drop, Nat.add_sub_cancel' after] at split
  exact split.symm

end Text

namespace Markup

namespace Token

variable {stops : Text → Bool} {source : Text} {start : Nat}

theorem before_drop_eq (inside : start ≤ source.length) :
    before stops (source.drop start) =
      (source.extract start (Text.searchEnd stops source start),
        source.drop (Text.searchEnd stops source start)) := by
  have bounds := @Text.searchEnd_bounds stops source start inside
  refine before_eq_iff.mpr ⟨Text.drop_eq_extract_append bounds.1, ?_, ?_⟩
  · intro front back split nonempty
    have lengths := congrArg List.length split
    have positive := List.length_pos_iff.mpr nonempty
    rw [List.length_take, List.length_drop, List.length_append] at lengths
    have whole := @Text.drop_eq_extract_append source start _ bounds.1
    rw [split, List.append_assoc] at whole
    have rest := congrArg (List.drop front.length) whole
    rw [List.drop_drop, List.drop_left] at rest
    rw [← rest]
    exact Text.eq_false_of_lt_searchEnd (Nat.le_add_right _ _) (by omega)
  · cases searched : Text.firstIndex? stops source start with
    | none => exact .inl (by rw [Text.searchEnd, searched, Option.getD_none, List.drop_length])
    | some finish =>
        rw [Text.searchEnd, searched, Option.getD_some]
        exact .inr (Text.firstIndex?_eq_some_iff.mp searched).2.1

/-! ## Words -/

/-- No word goes on with this text. -/
def leavesWord (text : Text) : Bool :=
  text.head?.all (fun character =>
    isBlank character || ['<', '>', '\'', '"', '=', '.'].contains character) ||
    [['/', '>'], ['{', '{'], ['}', '}']].any (List.isPrefixOf · text)

theorem endsWord_eq_or (text : Text) :
    endsWord text = (endsName text || kindAt text = .dot) := by
  have goesOn := @kind_eq_word_iff text
  rw [kind_first] at goesOn
  cases ends : endsWord text with
  | false => simp [endsName, startsWith, kind_first, goesOn.mpr ends]
  | true =>
      have different : kindAt text ≠ .word := fun equal => by simp [goesOn.mp equal] at ends
      by_cases dot : kindAt text = .dot
      · simp [dot]
      · simp [endsName, startsWith, kind_first, different, dot]

theorem endsWord_eq_leavesWord (text : Text) : endsWord text = leavesWord text := by
  cases text with
  | nil => rfl
  | cons character rest =>
      have dot : kindAt (character :: rest) = .dot ↔ character = '.' := by
        rw [kindAt_eq_iff (by decide) (by decide)]
        exact single_prefix_iff.trans (by simp)
      rw [endsWord_eq_or, endsName_eq (List.cons_ne_nil _ _), Bool.eq_iff_iff]
      simp only [leavesWord, isForeignToNames, dot, List.head?_cons, Option.any_some,
        Option.all_some, Bool.or_eq_true, List.any_cons, List.any_nil, Bool.or_false,
        List.contains_eq_mem, decide_eq_true_iff, List.mem_cons, List.not_mem_nil,
        or_assoc, or_comm, or_left_comm]

theorem first_of_word {text : Text} (word : (first text).kind = .word) :
    first text = ⟨.word, (before endsWord text).1⟩ := by
  have here := kind_eq_word_iff.mp word
  cases text with
  | nil => simp [endsWord] at here
  | cons character rest =>
      have plain := here
      rw [endsWord, Bool.or_eq_false_iff, Option.isSome_eq_false_iff, Option.isNone_iff_eq_none]
        at plain
      rw [first, scan, before, plain.2, here, wordRun_eq_before]
      simp [plain.1]

theorem first_eq_word_iff {text name : Text} (nonempty : name ≠ []) :
    first text = ⟨.word, name⟩ ↔
      ∃ rest, text = name ++ rest ∧ GoesOn endsWord name rest ∧ endsWord rest = true := by
  constructor
  · intro equal
    have own := first_of_word (congrArg Token.kind equal)
    rw [equal] at own
    have captured : before endsWord text = (name, (before endsWord text).2) :=
      Prod.ext (Token.mk.inj own).2.symm rfl
    rcases before_eq_iff.mp captured with ⟨split, goesOn, empty | ends⟩
    · exact ⟨_, split, goesOn, by rw [empty, endsWord]⟩
    · exact ⟨_, split, goesOn, ends⟩
  · rintro ⟨rest, rfl, goesOn, ends⟩
    have word : (first (name ++ rest)).kind = .word :=
      kind_eq_word_iff.mpr (goesOn [] name rfl nonempty)
    rw [first_of_word word, before_eq_iff.mpr ⟨rfl, goesOn, .inr ends⟩]

/-! ## Closing tags of style elements -/

theorem aligned_startsClosing (name : Text) : Aligned (startsClosing name) := by
  have notClosing {text : Text} (kind : kindAt text ≠ .closeTag) :
      startsClosing name text = false := by
    simp [startsClosing, kind_first, kind]
  intro text nonempty goesOn
  by_cases closing : kindAt text = .closeTag
  · rcases closing ▸ sign_kindAt_prefix text with ⟨rest, rfl⟩
    have second : kindAt ('/' :: rest) ≠ .closeTag := by
      rw [kindAt_slash]
      split <;> simp
    exact goesOn_cons.mpr ⟨goesOn, goesOn_cons.mpr ⟨notClosing second, goesOn_nil _ _⟩⟩
  · refine (goesOn_first nonempty).mono fun rest allowed => notClosing ?_
    have inside : kindAt rest ∈ innerKinds (first text).kind := by simpa using allowed
    rw [kind_first] at inside
    rintro equal
    rw [equal] at inside
    simp [innerKinds, Ne.symm closing] at inside

theorem goesOn_style (rest : Text) : GoesOn endsWord "style" rest := by
  change GoesOn endsWord ['s', 't', 'y', 'l', 'e'] rest
  simp only [goesOn_cons]
  exact ⟨rfl, rfl, rfl, rfl, rfl, goesOn_nil endsWord rest⟩

theorem startsClosing_style_eq (text : Text) : startsClosing "style" text =
    (List.isPrefixOf ("</style" : Text) text && leavesWord (text.drop 7)) := by
  have closing : kindAt text = .closeTag ↔ sign .closeTag <+: text :=
    kindAt_eq_iff (by decide) (by decide)
  rw [Bool.eq_iff_iff, startsClosing, Bool.and_eq_true, Bool.and_eq_true, decide_eq_true_iff,
    decide_eq_true_iff, kind_first, closing, List.isPrefixOf_iff_prefix]
  constructor
  · rintro ⟨⟨following, rfl⟩, named⟩
    rw [rest_sign_append (by decide) (by decide)] at named
    rcases (first_eq_word_iff (by decide)).mp named with ⟨rest, rfl, -, ends⟩
    exact ⟨⟨rest, rfl⟩, endsWord_eq_leavesWord rest ▸ ends⟩
  · rintro ⟨⟨rest, rfl⟩, leaves⟩
    refine ⟨⟨("style" : Text) ++ rest, rfl⟩, ?_⟩
    change first (Token.rest (sign .closeTag ++ (("style" : Text) ++ rest))) = _
    rw [rest_sign_append (by decide) (by decide)]
    refine (first_eq_word_iff (by decide)).mpr ⟨rest, rfl, goesOn_style rest, ?_⟩
    exact (endsWord_eq_leavesWord rest).trans leaves

end Token

/-! ## What is captured, and what ends it -/

def TokenKind.ofQuote : Css.Quote → TokenKind
  | .single => .singleQuote
  | .double => .doubleQuote

theorem sign_ofQuote (quote : Css.Quote) :
    Token.sign (.ofQuote quote) = [quote.character] := by
  cases quote <;> rfl

/-- The parts of markup that are captured up to a mark. -/
inductive Part where
  | script
  | value (quote : Css.Quote)
  | textRun
  | styleBody
deriving DecidableEq, Repr

namespace Part

/-- The tokens with which a capture of this part stops. -/
def stops : Part → Text → Bool
  | script => Token.startsWith [.slotClose]
  | value quote => Token.startsWith [.ofQuote quote]
  | textRun => Token.startsWith [.slotOpen, .lessThan, .closeTag]
  | styleBody => Token.startsClosing "style"

/-- The characters before which this part ends. -/
def ends : Part → Text → Bool
  | script, text => ['}', '}'].isPrefixOf text
  | value quote, text => [quote.character].isPrefixOf text
  | textRun, text => ['<'].isPrefixOf text || ['{', '{'].isPrefixOf text
  | styleBody, text =>
      List.isPrefixOf ("</style" : Text) text && Token.leavesWord (text.drop 7)

theorem stops_eq_ends (part : Part) : part.stops = part.ends := by
  funext text
  rw [Bool.eq_iff_iff]
  cases part with
  | script =>
      rw [stops, ends, Token.startsWith_single_iff (by decide) (by decide),
        List.isPrefixOf_iff_prefix]
      rfl
  | value quote =>
      rw [stops, ends, Token.startsWith_single_iff (by cases quote <;> decide)
        (by cases quote <;> decide), sign_ofQuote, List.isPrefixOf_iff_prefix]
  | textRun =>
      rw [ends, Bool.or_eq_true, List.isPrefixOf_iff_prefix, List.isPrefixOf_iff_prefix,
        Token.single_prefix_iff]
      exact Token.endsText_iff
  | styleBody => rw [stops, Token.startsClosing_style_eq, ends]

theorem aligned_stops (part : Part) : Token.Aligned part.stops := by
  cases part with
  | script => exact Token.aligned_startsWith (by decide)
  | value quote => exact Token.aligned_startsWith (by cases quote <;> decide)
  | textRun => exact Token.aligned_startsWith (by decide)
  | styleBody => exact Token.aligned_startsClosing "style"

/-- Where the characters that end this part first occur. -/
def end? (part : Part) (source : Text) (start : Nat) : Option Nat :=
  Text.firstIndex? part.ends source start

/-- Where this part ends, which is the end of the source if nothing else ends it. -/
def finish (part : Part) (source : Text) (start : Nat) : Nat :=
  Text.searchEnd part.ends source start

end Part

variable {source : Text} {start : Nat}

theorem Part.finish_eq (part : Part) (source : Text) (start : Nat) :
    part.finish source start = (part.end? source start).getD source.length := rfl

theorem capture_drop_eq (part : Part) (inside : start ≤ source.length) :
    Token.capture part.stops (source.drop start) =
      (source.extract start (part.finish source start),
        source.drop (part.finish source start)) := by
  rw [Token.capture_eq_before part.aligned_stops, Token.before_drop_eq inside,
    part.stops_eq_ends]
  rfl

theorem captureUntil_eq (part : Part) (inside : start ≤ source.length) :
    (Cursor.mk source start).captureUntil part.stops =
      (source.extract start (part.finish source start),
        ⟨source, part.finish source start⟩) := by
  have bounds := @Text.searchEnd_bounds part.ends source start inside
  have length : (source.extract start (part.finish source start)).length =
      part.finish source start - start := by
    rw [List.length_take, List.length_drop]
    exact Nat.min_eq_left (Nat.sub_le_sub_right bounds.2 start)
  have moved : start + (part.finish source start - start) = part.finish source start :=
    Nat.add_sub_cancel' bounds.1
  simp only [Cursor.captureUntil, Cursor.rest, capture_drop_eq part inside, Cursor.moveTo,
    length, moved]

/-- The mark that ends a part, or the end of the source without it. -/
theorem expect_drop_finish (part : Part) (source : Text) (start : Nat) {kind : TokenKind}
    (marked : Token.sign kind ≠ []) (whole : kind ≠ .lessThan)
    (begins : ∀ text, part.ends text = true → Token.sign kind <+: text) :
    Token.expect kind (source.drop (part.finish source start)) =
      match part.end? source start with
      | none => .error ⟨.unexpectedEnd, []⟩
      | some finish => .ok (source.drop (finish + (Token.sign kind).length)) := by
  rw [part.finish_eq]
  cases found : part.end? source start with
  | none =>
      have different : kind ≠ .finish := by
        rintro rfl
        exact marked rfl
      rw [Option.getD_none, List.drop_length]
      exact if_neg different.symm
  | some finish =>
      rcases begins _ (Text.firstIndex?_eq_some_iff.mp found).2.1 with ⟨rest, split⟩
      have follows := congrArg (List.drop (Token.sign kind).length) split
      rw [List.drop_left, List.drop_drop] at follows
      rw [Option.getD_some, ← split]
      exact (Token.expect_eq_ok_iff marked whole).mpr (by rw [follows])

theorem readPiece_script_eq (config : Config) (openTags : List Text)
    (inside : start ≤ source.length) :
    readPiece config openTags ('{' :: '{' :: source.drop start) =
      match Part.script.end? source start with
      | none => .error ⟨.unexpectedEnd, []⟩
      | some finish =>
          .ok (.whole (.slot (source.extract start finish)), source.drop (finish + 2)) := by
  have closed := @expect_drop_finish .script source start .slotClose (by decide) (by decide)
    fun text => List.isPrefixOf_iff_prefix.mp
  have captured := capture_drop_eq .script inside
  change Token.capture Token.endsScript _ = _ at captured
  rw [readPiece_slotOpen, captured, closed, Part.finish_eq]
  cases Part.script.end? source start <;> rfl

theorem readValue_eq (quote : Css.Quote) (inside : start ≤ source.length) :
    readValue (quote.character :: source.drop start) =
      match (Part.value quote).end? source start with
      | none => .error ⟨.unexpectedEnd, []⟩
      | some finish => .ok (source.extract start finish, source.drop (finish + 1)) := by
  have kind : (Token.first (quote.character :: source.drop start)).kind = .ofQuote quote := by
    cases quote <;> rfl
  have isQuote : TokenKind.ofQuote quote = .singleQuote ∨
      TokenKind.ofQuote quote = .doubleQuote := by
    cases quote <;> decide
  have follows : Token.rest (quote.character :: source.drop start) = source.drop start := by
    cases quote <;> rfl
  have captured := capture_drop_eq (.value quote) inside
  have closed := @expect_drop_finish (.value quote) source start (.ofQuote quote)
    (by cases quote <;> decide) (by cases quote <;> decide)
    fun text => sign_ofQuote quote ▸ List.isPrefixOf_iff_prefix.mp
  rw [Part.stops] at captured
  simp only [readValue, kind, isQuote, if_true, follows, captured, closed]
  rw [Part.finish_eq, sign_ofQuote]
  cases (Part.value quote).end? source start <;> rfl

theorem readPiece_textRun_eq (config : Config) (openTags : List Text)
    (inside : start ≤ source.length) (goesOn : Part.textRun.ends (source.drop start) = false) :
    readPiece config openTags (source.drop start) =
      .ok (.whole (.text (source.extract start (Part.textRun.finish source start))),
        source.drop (Part.textRun.finish source start)) := by
  have captured := capture_drop_eq .textRun inside
  change Token.capture Token.endsText _ = _ at captured
  rw [← Part.stops_eq_ends] at goesOn
  rw [readPiece_of_not_endsText goesOn, captured]

theorem readStyle_eq (config : Config) (attributes : List Attribute)
    (inside : start ≤ source.length) :
    readStyle config attributes (source.drop start) =
      match Part.styleBody.end? source start with
      | none => .error ⟨.unexpectedEnd, []⟩
      | some finish =>
          match readClosing config "style" (source.drop (finish + 2)) with
          | .error fault => .error fault
          | .ok rest =>
              match Css.Sheet.read config (source.extract start finish) with
              | .error error =>
                  .error ⟨.invalidStyle error.reason, source.drop (start + error.place.index)⟩
              | .ok sheet => .ok (.whole (.style attributes sheet), rest) := by
  have captured := capture_drop_eq .styleBody inside
  have begins : ∀ text, Part.styleBody.ends text = true → Token.sign .closeTag <+: text := by
    intro text ends
    rw [Part.ends, Bool.and_eq_true, List.isPrefixOf_iff_prefix] at ends
    exact List.IsPrefix.trans ⟨"style", rfl⟩ ends.1
  have closed := expect_drop_finish .styleBody source start (by decide) (by decide) begins
  rw [Part.stops] at captured
  simp only [readStyle, captured, closed, List.drop_drop]
  rw [Part.finish_eq]
  cases Part.styleBody.end? source start <;> rfl

/-- Captures are searches. From every index of a source, each part ends where the
characters that end it first occur: an expression before `}}`, a value before its own
quote, a run of text before `<` or `{{`, and the body of a style element before `</style`
if no word goes on behind it. Without such an occurrence a run of text ends with the
source, and the other parts are an unexpected end. -/
theorem captures_eq_searches (config : Config) (openTags : List Text)
    (attributes : List Attribute) {source : Text} {start : Nat}
    (inside : start ≤ source.length) :
    (∀ part : Part, (Cursor.mk source start).captureUntil part.stops =
      (source.extract start (part.finish source start), ⟨source, part.finish source start⟩)) ∧
    (readPiece config openTags ('{' :: '{' :: source.drop start) =
      match Part.script.end? source start with
      | none => .error ⟨.unexpectedEnd, []⟩
      | some finish =>
          .ok (.whole (.slot (source.extract start finish)), source.drop (finish + 2))) ∧
    (∀ quote : Css.Quote, readValue (quote.character :: source.drop start) =
      match (Part.value quote).end? source start with
      | none => .error ⟨.unexpectedEnd, []⟩
      | some finish => .ok (source.extract start finish, source.drop (finish + 1))) ∧
    (Part.textRun.ends (source.drop start) = false →
      readPiece config openTags (source.drop start) =
        .ok (.whole (.text (source.extract start (Part.textRun.finish source start))),
          source.drop (Part.textRun.finish source start))) ∧
    readStyle config attributes (source.drop start) =
      match Part.styleBody.end? source start with
      | none => .error ⟨.unexpectedEnd, []⟩
      | some finish =>
          match readClosing config "style" (source.drop (finish + 2)) with
          | .error fault => .error fault
          | .ok rest =>
              match Css.Sheet.read config (source.extract start finish) with
              | .error error =>
                  .error ⟨.invalidStyle error.reason, source.drop (start + error.place.index)⟩
              | .ok sheet => .ok (.whole (.style attributes sheet), rest) := by
  refine ⟨fun part => captureUntil_eq part inside, readPiece_script_eq config openTags inside,
    fun quote => readValue_eq quote inside, fun goesOn => ?_, readStyle_eq config attributes inside⟩
  exact readPiece_textRun_eq config openTags inside goesOn

/-- Of three closing braces the first two end an expression, and none ends a run of text. -/
theorem captures_eq_searches_braces :
    2 ≤ ("\x7b\x7ba\x7d\x7d\x7d<b" : Text).length ∧
      Part.textRun.ends (("\x7b\x7ba\x7d\x7d\x7d<b" : Text).drop 2) = false ∧
      (Cursor.mk "\x7b\x7ba\x7d\x7d\x7d<b" 2).captureUntil Part.script.stops =
        (("a" : Text), Cursor.mk "\x7b\x7ba\x7d\x7d\x7d<b" 3) ∧
      readPiece {} [] (("\x7b\x7ba\x7d\x7d\x7d<b" : Text).drop 2) =
        .ok (.whole (.text "a\x7d\x7d\x7d"), ("<b" : Text)) := by
  have captures := @captures_eq_searches {} [] [] "\x7b\x7ba\x7d\x7d\x7d<b" 2 (by decide)
  exact ⟨by decide, by decide, captures.1 .script, captures.2.2.2.1 (by decide)⟩

end Markup

end ScopedMarkup
