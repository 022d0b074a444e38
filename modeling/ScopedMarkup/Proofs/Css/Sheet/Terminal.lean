import ScopedMarkup.Proofs.Css.Selector.Part
import ScopedMarkup.Proofs.Css.Sheet.Form

/-! # The terminals of sheets

What each terminal recognises where such a part stands, and what is known of a
piece that it recognised.
-/

namespace ScopedMarkup.Css.Sheet

/-! ## The gaps between pieces -/

theorem isBlank_of_isSpace {character : Char} (space : isSpace character = true) :
    isBlank character = true := by
  have spaces : ([' ', '\t', '\x0c', '\r', '\n'].all isBlank) = true := by decide
  exact List.all_eq_true.mp spaces character (by simpa [isSpace] using space)

theorem leaves_isSpace_of_not_isBlank {first : Char} (nonblank : isBlank first = false)
    (rest : Text) : Text.Leaves isSpace (first :: rest) := by
  refine Text.leaves_cons.mpr ?_
  cases space : isSpace first with
  | false => rfl
  | true => exact absurd (isBlank_of_isSpace space) (by simp [nonblank])

/-- No gap stands where neither a space nor a comment begins. -/
theorem skipGap_eq_self {text : Text} (leaves : text.Leaves isSpace)
    (opens : ¬ commentOpen <+: text) : skipGap text = text := by
  have refused : (Scanner.character isSpace <|> comment).scan text = none := by
    rw [Scanner.scan_orElse_of_second (Scanner.scan_character_eq_none leaves)]
    exact scan_comment_eq_none opens
  rw [skipGap, Scanner.items_of_scan_eq_none refused]

/-- Where no comment begins, a gap is made of space. -/
theorem skipGap_eq_dropWhile {text : Text} (uncommented : Uncommented text) :
    skipGap text = text.dropWhile isSpace := by
  induction text with
  | nil => exact skipGap_eq_self (Text.leaves_nil _) fun opens => uncommented opens.isInfix
  | cons first rest induction =>
      cases space : isSpace first with
      | true =>
          have scanned : (Scanner.character isSpace <|> comment).scan (first :: rest) =
              some ([first], rest) := Scanner.scan_orElse_of_first (by
            rw [Scanner.scan_character_cons, if_pos space])
          rw [skipGap, Scanner.items_of_scan scanned (List.cons_ne_nil _ _),
            List.dropWhile_cons_of_pos space]
          exact induction uncommented.tail
      | false =>
          rw [List.dropWhile_cons_of_neg (by simp [space])]
          exact skipGap_eq_self (Text.leaves_cons.mpr space) fun opens =>
            uncommented opens.isInfix

/-- Only space. -/
def Space (text : Text) : Prop := text.all isSpace = true

theorem Space.append {left right : Text} (first : Space left) (second : Space right) :
    Space (left ++ right) := by
  rw [Space, List.all_append, first, second]
  rfl

theorem Space.blank {text : Text} (space : Space text) : text.Blank := fun character member =>
  isBlank_of_isSpace (List.all_eq_true.mp space character member)

theorem exists_space_skipGap {text : Text} (uncommented : Uncommented text) :
    ∃ gap, Space gap ∧ text = gap ++ skipGap text := by
  rw [skipGap_eq_dropWhile uncommented]
  exact ⟨text.takeWhile isSpace, List.all_takeWhile, List.takeWhile_append_dropWhile.symm⟩

/-! ## Raw text -/

namespace Terminal

/-- Raw text that does not begin with any of these characters. -/
def rawScanner (characters : Text) : Scanner :=
  (Span.parenthesis [')', '"', '\'', '{', '}'] <|> Scanner.string <|>
      Scanner.character fun first =>
        !isBlank first && !(characters ++ ['"', '\'', '(']).contains first) ++
    .many rawSpan.item

theorem scanner_prelude : scanner .prelude = rawScanner ['{', '}', ';', '@'] := rfl

theorem scanner_value : scanner .value = rawScanner ['{', '}', ';'] := rfl

end Terminal

open Terminal

section Raw

variable {characters text piece rest : Text}

/-- At its start, raw text is scanned like anywhere else. -/
theorem scan_start_eq (excluded : ['{', '}', ';'] ⊆ characters)
    (begins : BeginsApart characters text) :
    (Span.parenthesis [')', '"', '\'', '{', '}'] <|> Scanner.string <|>
      Scanner.character fun first =>
        !isBlank first && !(characters ++ ['"', '\'', '(']).contains first).scan text =
      rawSpan.item.scan text := by
  rcases begins with ⟨first, others, rfl, nonblank, apart⟩
  have brace : first ≠ '{' := fun equal => apart (equal ▸ excluded (by simp))
  have closing : first ≠ '}' := fun equal => apart (equal ▸ excluded (by simp))
  have semicolon : first ≠ ';' := fun equal => apart (equal ▸ excluded (by simp))
  have same : (!isBlank first && !(characters ++ ['"', '\'', '(']).contains first) =
      !(['{', '}', ';', '"', '\'', '('].contains first) := by
    simp [nonblank, apart, brace, closing, semicolon]
  change ((Span.parenthesis _).scan _).or ((Scanner.string.scan _).or (Scanner.scan _ _)) =
    ((Span.parenthesis _).scan _).or ((Scanner.string.scan _).or (Scanner.scan _ _))
  rw [Scanner.scan_character_cons, Scanner.scan_character_cons, same]
  rfl

theorem scan_raw (excluded : ['{', '}', ';'] ⊆ characters) (begins : BeginsApart characters text)
    (whole : rawSpan.Whole text) (ends : rawSpan.Ends rest) :
    (rawScanner characters).scan (text ++ rest) = some (text, rest) := by
  have items := Span.items_of_whole whole (Span.scan_item_eq_none ends)
  rcases Scanner.exists_of_items items begins.ne_nil with
    ⟨front, middle, scanned, -, equal, left⟩
  rw [← scan_start_eq excluded (begins.append rest)] at scanned
  have filled : (Scanner.many rawSpan.item).scan middle =
      some ((Scanner.items rawSpan.item middle).1, rest) := by rw [left]; rfl
  rw [equal]
  exact equal ▸ Scanner.scan_append scanned filled

theorem of_scan_raw (excluded : ['{', '}', ';'] ⊆ characters)
    (harmless : ∀ quote : Quote, quote.character ∉ characters ∧ '(' ∉ characters)
    (found : (rawScanner characters).scan text = some (piece, rest)) :
    BeginsApart characters piece ∧ rawSpan.Whole piece := by
  rcases Scanner.exists_of_scan_append found with ⟨front, middle, more, starts, filled, rfl⟩
  have remaining : rawSpan.Whole more := by
    have whole : rawSpan.Whole (Scanner.items rawSpan.item middle).1 :=
      Span.whole_of_items Span.whole_of_scan_item
    rw [Scanner.scan_many, Option.some.injEq] at filled
    rwa [filled] at whole
  have begins : BeginsApart characters front := by
    rcases Scanner.scan_of_scan_orElse starts with starts | starts
    · rcases Scanner.exists_of_scan_append starts with ⟨_, _, _, opened, -, rfl⟩
      rcases Scanner.exists_of_scan_append opened with ⟨_, _, body, opens, -, rfl⟩
      rcases Scanner.of_scan_literal opens with ⟨rfl, -⟩
      exact ⟨'(', _, rfl, by decide, (harmless .double).2⟩
    · rcases Scanner.scan_of_scan_orElse starts with starts | starts
      · rcases Span.exists_of_scan_string starts with ⟨quote, body, -, rfl⟩
        refine ⟨quote.character, _, rfl, ?_, (harmless quote).1⟩
        cases quote <;> decide
      · rcases Scanner.exists_of_scan_character starts with ⟨first, rfl, -, belongs⟩
        simp only [Bool.and_eq_true, Bool.not_eq_true', List.contains_eq_mem, List.mem_append,
          decide_eq_false_iff_not, not_or] at belongs
        exact ⟨first, [], rfl, belongs.1, belongs.2.1⟩
  have first : rawSpan.Whole front := by
    have split := Scanner.splits _ starts
    rw [scan_start_eq excluded (split ▸ begins.append middle)] at starts
    exact Span.whole_of_scan_item starts
  exact ⟨begins.append more, Span.whole_append first remaining⟩

/-- Raw text takes the characters behind it that begin or end nothing. -/
theorem leaves_of_scan_raw {belongs : Char → Bool}
    (unstructural : ∀ character, belongs character = true → isStructural character = false)
    (found : (rawScanner characters).scan text = some (piece, rest)) : rest.Leaves belongs := by
  rcases Scanner.exists_of_scan_append found with ⟨front, middle, more, -, filled, -⟩
  have ended : (Scanner.items rawSpan.item middle).2 = rest :=
    (Prod.mk.inj (Option.some.inj filled)).2 ▸ rfl
  cases rest with
  | nil => exact Text.leaves_nil _
  | cons first others =>
      refine Text.leaves_cons.mpr ?_
      cases belonging : belongs first with
      | false => rfl
      | true =>
          have ordinary := rawSpan_ordinary (unstructural first belonging)
          have further := Span.scan_item_cons others ordinary.1 ordinary.2.1
          rw [← ended] at further
          exact absurd (Scanner.eq_nil_of_scan_items further) (List.cons_ne_nil _ _)

/-- Raw text takes the space behind it. -/
theorem leaves_isSpace_of_scan_raw
    (found : (rawScanner characters).scan text = some (piece, rest)) : rest.Leaves isSpace :=
  leaves_of_scan_raw (fun _ space => isStructural_eq_false_of_isBlank (isBlank_of_isSpace space))
    found

/-- Raw text does not begin with these characters. -/
theorem scan_raw_eq_none {first : Char} (noQuote : Quote.of? first = none) (noOpening : first ≠ '(')
    (member : first ∈ characters) : (rawScanner characters).scan (first :: rest) = none := by
  refine Scanner.scan_append_eq_none ?_
  rw [Scanner.scan_orElse_of_second (Span.scan_parenthesis_eq_none rest noOpening),
    Scanner.scan_orElse_of_second (Span.scan_string_eq_none noQuote)]
  exact Scanner.scan_character_eq_none (Text.leaves_cons.mpr (by simp [member]))

end Raw

/-! ## Names and strings -/

section Names

variable {text piece rest : Text}

theorem scanner_property : scanner .property =
    .optional (.literal ['-']) ++ .optional (.literal ['-']) ++ name := rfl

theorem scan_property (form : IsProperty text) (leaves : rest.Leaves continuesName) :
    (scanner .property).scan (text ++ rest) = some (text, rest) := by
  have hyphenated : ∃ first second name, text = first ++ (second ++ name) ∧
      (first = [] ∨ first = ['-']) ∧ (second = [] ∨ second = ['-']) ∧
      (first = [] → second = []) ∧ NameFrom startsName name := by
    rcases form with ⟨hyphens, name, rfl, rfl | rfl | rfl, form⟩
    · exact ⟨[], [], name, rfl, .inl rfl, .inl rfl, by simp, form⟩
    · exact ⟨['-'], [], name, rfl, .inr rfl, .inl rfl, by simp, form⟩
    · exact ⟨['-'], ['-'], name, rfl, .inr rfl, .inr rfl, by simp, form⟩
  rcases hyphenated with ⟨first, second, name, rfl, firstHyphen, secondHyphen, both, named⟩
  have begun : (Scanner.optional (.literal ['-'])).scan (first ++ (second ++ (name ++ rest))) =
      some (first, second ++ (name ++ rest)) := by
    rcases firstHyphen with rfl | rfl
    · rw [both rfl, List.nil_append]
      exact Selector.scan_hyphen (.inl rfl) named
    · exact Scanner.scan_optional (Scanner.scan_literal_cons '-' _)
  have goesOn := Scanner.scan_append begun (Selector.scan_hyphen secondHyphen named)
  have whole := Scanner.scan_append goesOn (Selector.scan_nameFrom named leaves)
  rw [scanner_property]
  simp only [List.append_assoc] at whole ⊢
  exact whole

theorem of_scan_property (found : (scanner .property).scan text = some (piece, rest)) :
    IsProperty piece ∧ rest.Leaves continuesName := by
  rw [scanner_property] at found
  rcases Scanner.exists_of_scan_append found with ⟨_, _, name, begins, named, rfl⟩
  rcases Scanner.exists_of_scan_append begins with ⟨first, _, second, starts, goesOn, rfl⟩
  rcases Selector.of_scan_nameFrom named with ⟨form, leaves⟩
  refine ⟨?_, leaves⟩
  rcases Scanner.of_scan_optional starts with starts | ⟨rfl, -⟩
  · rcases Scanner.of_scan_literal starts with ⟨rfl, -⟩
    rcases Scanner.of_scan_optional goesOn with goesOn | ⟨rfl, -⟩
    · rcases Scanner.of_scan_literal goesOn with ⟨rfl, -⟩
      exact ⟨['-', '-'], name, rfl, .inr (.inr rfl), form⟩
    · exact ⟨['-'], name, rfl, .inr (.inl rfl), form⟩
  · rcases Scanner.of_scan_optional goesOn with goesOn | ⟨rfl, -⟩
    · rcases Scanner.of_scan_literal goesOn with ⟨rfl, -⟩
      exact ⟨['-'], name, rfl, .inr (.inl rfl), form⟩
    · exact ⟨[], name, rfl, .inl rfl, form⟩

/-- A property begins with a character that is no blank. -/
theorem exists_of_isProperty (form : IsProperty piece) :
    ∃ first others, piece = first :: others ∧ isBlank first = false := by
  rcases form with ⟨hyphens, name, rfl, hyphenated, first, others, rfl, starts, -⟩
  rcases hyphenated with rfl | rfl | rfl
  · exact ⟨first, others, rfl, isBlank_eq_false_of_startsName starts⟩
  · exact ⟨'-', first :: others, rfl, by decide⟩
  · exact ⟨'-', '-' :: first :: others, rfl, by decide⟩

theorem scan_string_of_isString (form : IsString text) (rest : Text) :
    (scanner .string).scan (text ++ rest) = some (text, rest) := by
  rcases form with ⟨quote, body, rfl, absent⟩
  have found := Span.scan_string rest absent
  rw [List.cons_append, List.append_assoc]
  exact found

theorem of_scan_string (found : (scanner .string).scan text = some (piece, rest)) :
    IsString piece := by
  rcases Span.exists_of_scan_string found with ⟨quote, body, absent, rfl⟩
  exact ⟨quote, body, rfl, absent⟩

end Names

/-! ## Keywords -/

section Keywords

variable {text piece rest : Text}

theorem scanner_keyframesKeyword : scanner .keyframesKeyword =
    .literal ['@'] ++ .optional vendor ++ .literal "keyframes" := rfl

theorem vendor_eq : vendor = .literal ['-'] ++ .character Char.isLower ++ .run Char.isLower ++
    .literal ['-'] := rfl

theorem scan_vendor (form : IsVendor text) (rest : Text) :
    vendor.scan (text ++ rest) = some (text, rest) := by
  rcases form with ⟨first, others, rfl, lower, further⟩
  have begun : (Scanner.character Char.isLower).scan (first :: (others ++ '-' :: rest)) =
      some ([first], others ++ '-' :: rest) := by
    rw [Scanner.scan_character_cons, if_pos lower]
  have leaves : Text.Leaves Char.isLower ('-' :: rest) := Text.leaves_cons.mpr (by decide)
  have started := Scanner.scan_append (Scanner.scan_literal_cons '-' _) begun
  have goesOn := Scanner.scan_append started (Scanner.scan_run further leaves)
  have whole := Scanner.scan_append goesOn (Scanner.scan_literal_cons '-' rest)
  rw [vendor_eq]
  simpa using whole

theorem of_scan_vendor (found : vendor.scan text = some (piece, rest)) : IsVendor piece := by
  rw [vendor_eq] at found
  rcases Scanner.exists_of_scan_append found with ⟨_, _, _, goesOn, closing, rfl⟩
  rcases Scanner.exists_of_scan_append goesOn with ⟨_, _, others, begun, further, rfl⟩
  rcases Scanner.exists_of_scan_append begun with ⟨_, _, _, opening, starts, rfl⟩
  rcases Scanner.of_scan_literal closing with ⟨rfl, -⟩
  rcases Scanner.of_scan_literal opening with ⟨rfl, -⟩
  rcases Scanner.exists_of_scan_character starts with ⟨first, rfl, -, lower⟩
  exact ⟨first, others, by simp, lower, (Scanner.of_scan_run further).2.1⟩

theorem scan_keyframesKeyword (form : IsKeyframesKeyword text) (rest : Text) :
    (scanner .keyframesKeyword).scan (text ++ rest) = some (text, rest) := by
  rcases form with ⟨found, rfl, vendors⟩
  have optional : (Scanner.optional vendor).scan (found ++ (("keyframes" : Text) ++ rest)) =
      some (found, ("keyframes" : Text) ++ rest) := by
    rcases vendors with rfl | form
    · exact Scanner.scan_optional_of_none rfl
    · exact Scanner.scan_optional (scan_vendor form _)
  have begun := Scanner.scan_append (Scanner.scan_literal_cons '@' _) optional
  have whole := Scanner.scan_append begun (Scanner.scan_literal_append "keyframes" rest)
  rw [scanner_keyframesKeyword, List.cons_append, List.append_assoc]
  exact whole

theorem of_scan_keyframesKeyword
    (found : (scanner .keyframesKeyword).scan text = some (piece, rest)) :
    IsKeyframesKeyword piece := by
  rw [scanner_keyframesKeyword] at found
  rcases Scanner.exists_of_scan_append found with ⟨_, _, _, begun, ends, rfl⟩
  rcases Scanner.exists_of_scan_append begun with ⟨_, _, named, opening, vendors, rfl⟩
  rcases Scanner.of_scan_literal opening with ⟨rfl, -⟩
  rcases Scanner.of_scan_literal ends with ⟨rfl, -⟩
  refine ⟨named, rfl, ?_⟩
  rcases Scanner.of_scan_optional vendors with vendors | ⟨empty, -⟩
  · exact .inr (of_scan_vendor vendors)
  · exact .inl empty

theorem scanner_documentKeyword : scanner .documentKeyword =
    .literal ['@'] ++ .optional (.literal "-moz-") ++ .literal "document" := rfl

theorem scan_documentKeyword (form : text = "@document" ∨ text = "@-moz-document") (rest : Text) :
    (scanner .documentKeyword).scan (text ++ rest) = some (text, rest) := by
  have ends := Scanner.scan_literal_append "document" rest
  rw [scanner_documentKeyword]
  rcases form with rfl | rfl
  · have vendor : (Scanner.optional (.literal "-moz-")).scan (("document" : Text) ++ rest) =
        some ([], ("document" : Text) ++ rest) := Scanner.scan_optional_of_none rfl
    exact Scanner.scan_append (Scanner.scan_append (Scanner.scan_literal_cons '@' _) vendor) ends
  · have vendor := Scanner.scan_optional
      (Scanner.scan_literal_append "-moz-" (("document" : Text) ++ rest))
    exact Scanner.scan_append (Scanner.scan_append (Scanner.scan_literal_cons '@' _) vendor) ends

theorem of_scan_documentKeyword
    (found : (scanner .documentKeyword).scan text = some (piece, rest)) :
    piece = "@document" ∨ piece = "@-moz-document" := by
  rcases Scanner.exists_of_scan_append found with ⟨_, _, _, begun, ends, rfl⟩
  rcases Scanner.exists_of_scan_append begun with ⟨_, _, _, opening, vendors, rfl⟩
  rcases Scanner.of_scan_literal opening with ⟨rfl, -⟩
  rcases Scanner.of_scan_literal ends with ⟨rfl, -⟩
  rcases Scanner.of_scan_optional vendors with vendors | ⟨rfl, -⟩
  · rcases Scanner.of_scan_literal vendors with ⟨rfl, -⟩
    exact .inr rfl
  · exact .inl rfl

end Keywords

/-! ## Each terminal -/

/-- What a terminal recognises. -/
def Terminal.Recognises : Terminal → Text → Prop
  | .prelude, piece => BeginsApart ['{', '}', ';', '@'] piece ∧ rawSpan.Whole piece
  | .value, piece => BeginsApart ['{', '}', ';'] piece ∧ rawSpan.Whole piece
  | .keyframesKeyword, piece => IsKeyframesKeyword piece
  | .property, piece => IsProperty piece
  | .string, piece => IsString piece
  | .documentKeyword, piece => piece = "@document" ∨ piece = "@-moz-document"
  | .nameSpaceKeyword, piece => piece = "@namespace"
  | .fontFaceKeyword, piece => piece = "@font-face"
  | .supportsKeyword, piece => piece = "@supports"
  | .charsetKeyword, piece => piece = "@charset"
  | .mediaKeyword, piece => piece = "@media"
  | .pageKeyword, piece => piece = "@page"
  | .colon, piece => piece = [':']
  | .openBrace, piece => piece = ['{']
  | .closeBrace, piece => piece = ['}']
  | .semicolon, piece => piece = [';']

/-- What has to follow so that the piece of a terminal ends. -/
def Terminal.Ends : Terminal → Text → Prop
  | .prelude, rest | .value, rest => rawSpan.Ends rest
  | .property, rest => rest.Leaves continuesName
  | _, _ => True

/-- The keywords that rules begin with. -/
def Terminal.keywords : List Terminal :=
  [.keyframesKeyword, .documentKeyword, .nameSpaceKeyword, .fontFaceKeyword, .supportsKeyword,
    .charsetKeyword, .mediaKeyword, .pageKeyword]

/-- The signs of blocks, rules and declarations. -/
def Terminal.signs : List Terminal := [.openBrace, .closeBrace, .semicolon]

section Pieces

variable {terminal : Terminal} {text piece rest : Text}

theorem recognises_of_scan (found : terminal.scanner.scan text = some (piece, rest)) :
    terminal.Recognises piece := by
  match terminal with
  | .prelude =>
      rw [Terminal.scanner_prelude] at found
      exact of_scan_raw (by decide) (by intro quote; cases quote <;> decide) found
  | .value =>
      rw [Terminal.scanner_value] at found
      exact of_scan_raw (by decide) (by intro quote; cases quote <;> decide) found
  | .keyframesKeyword => exact of_scan_keyframesKeyword found
  | .property => exact (of_scan_property found).1
  | .string => exact of_scan_string found
  | .documentKeyword => exact of_scan_documentKeyword found
  | .nameSpaceKeyword | .fontFaceKeyword | .supportsKeyword | .charsetKeyword | .mediaKeyword
  | .pageKeyword | .colon | .openBrace | .closeBrace | .semicolon =>
      exact (Scanner.of_scan_literal found).1

/-- A piece is scanned again before anything that ends it. -/
theorem scan_of_recognises (recognises : terminal.Recognises piece) (ends : terminal.Ends rest) :
    terminal.scanner.scan (piece ++ rest) = some (piece, rest) := by
  match terminal, recognises with
  | .prelude, recognises =>
      rw [Terminal.scanner_prelude]
      exact scan_raw (by decide) recognises.1 recognises.2 ends
  | .value, recognises =>
      rw [Terminal.scanner_value]
      exact scan_raw (by decide) recognises.1 recognises.2 ends
  | .keyframesKeyword, recognises => exact scan_keyframesKeyword recognises rest
  | .property, recognises => exact scan_property recognises ends
  | .string, recognises => exact scan_string_of_isString recognises rest
  | .documentKeyword, recognises => exact scan_documentKeyword recognises rest
  | .nameSpaceKeyword, rfl | .fontFaceKeyword, rfl | .supportsKeyword, rfl
  | .charsetKeyword, rfl | .mediaKeyword, rfl | .pageKeyword, rfl | .colon, rfl
  | .openBrace, rfl | .closeBrace, rfl | .semicolon, rfl =>
      exact Scanner.scan_literal_append _ rest

theorem exists_at_of_keyword (keyword : terminal ∈ Terminal.keywords)
    (recognises : terminal.Recognises piece) : ∃ name, piece = '@' :: name := by
  match terminal, recognises with
  | .keyframesKeyword, ⟨vendor, equal, _⟩ => exact ⟨_, equal⟩
  | .documentKeyword, recognises =>
      rcases recognises with rfl | rfl
      · exact ⟨"document", rfl⟩
      · exact ⟨"-moz-document", rfl⟩
  | .nameSpaceKeyword, rfl => exact ⟨"namespace", rfl⟩
  | .fontFaceKeyword, rfl => exact ⟨"font-face", rfl⟩
  | .supportsKeyword, rfl => exact ⟨"supports", rfl⟩
  | .charsetKeyword, rfl => exact ⟨"charset", rfl⟩
  | .mediaKeyword, rfl => exact ⟨"media", rfl⟩
  | .pageKeyword, rfl => exact ⟨"page", rfl⟩
  | .prelude, _ | .value, _ | .property, _ | .string, _ | .colon, _ | .openBrace, _
  | .closeBrace, _ | .semicolon, _ => exact absurd keyword (by decide)

/-- No piece begins with a blank. -/
theorem exists_of_recognises (recognises : terminal.Recognises piece) :
    ∃ first others, piece = first :: others ∧ isBlank first = false := by
  by_cases keyword : terminal ∈ Terminal.keywords
  · rcases exists_at_of_keyword keyword recognises with ⟨name, equal⟩
    exact ⟨'@', name, equal, by decide⟩
  · match terminal, recognises with
    | .prelude, ⟨⟨first, others, equal, nonblank, _⟩, _⟩
    | .value, ⟨⟨first, others, equal, nonblank, _⟩, _⟩ => exact ⟨first, others, equal, nonblank⟩
    | .property, recognises => exact exists_of_isProperty recognises
    | .string, ⟨quote, body, equal, _⟩ =>
        exact ⟨quote.character, _, equal, by cases quote <;> decide⟩
    | .colon, rfl | .openBrace, rfl | .closeBrace, rfl | .semicolon, rfl =>
        exact ⟨_, [], rfl, by decide⟩
    | .keyframesKeyword, _ | .documentKeyword, _ | .nameSpaceKeyword, _ | .fontFaceKeyword, _
    | .supportsKeyword, _ | .charsetKeyword, _ | .mediaKeyword, _ | .pageKeyword, _ =>
        exact absurd (by decide) keyword

theorem ne_nil_of_recognises (recognises : terminal.Recognises piece) : piece ≠ [] := by
  rcases exists_of_recognises recognises with ⟨first, others, rfl, -⟩
  exact List.cons_ne_nil _ _

/-- Only raw text begins with a slash. -/
theorem eq_of_recognises_slash (recognises : terminal.Recognises ['/']) :
    terminal = .prelude ∨ terminal = .value := by
  by_cases keyword : terminal ∈ Terminal.keywords
  · rcases exists_at_of_keyword keyword recognises with ⟨name, equal⟩
    exact absurd (List.cons.inj equal).1 (by decide)
  · match terminal, recognises with
    | .prelude, _ => exact .inl rfl
    | .value, _ => exact .inr rfl
    | .property, ⟨hyphens, name, equal, hyphenated, first, others, named, starts, _⟩ =>
        subst named
        rcases hyphenated with rfl | rfl | rfl
        · rw [← (List.cons.inj equal).1] at starts
          exact absurd starts (by decide)
        · exact absurd (List.cons.inj equal).1 (by decide)
        · exact absurd (List.cons.inj equal).1 (by decide)
    | .string, ⟨quote, body, equal, _⟩ =>
        exact absurd (List.cons.inj equal).1 (by cases quote <;> decide)
    | .colon, equal | .openBrace, equal | .closeBrace, equal | .semicolon, equal =>
        exact absurd (List.cons.inj equal).1 (by decide)
    | .keyframesKeyword, _ | .documentKeyword, _ | .nameSpaceKeyword, _ | .fontFaceKeyword, _
    | .supportsKeyword, _ | .charsetKeyword, _ | .mediaKeyword, _ | .pageKeyword, _ =>
        exact absurd (by decide) keyword

/-- A piece opens no comment with what ends it. -/
theorem not_prefix_of_recognises (recognises : terminal.Recognises piece)
    (uncommented : Uncommented piece) (ends : terminal.Ends rest) :
    ¬ commentOpen <+: piece ++ rest := by
  rcases exists_of_recognises recognises with ⟨first, others, rfl, -⟩
  intro opens
  rw [commentOpen, List.cons_append, List.cons_prefix_cons] at opens
  rcases opens with ⟨rfl, star⟩
  cases others with
  | nil =>
      -- Behind a slash alone, what ends raw text is no star.
      have raw : rawSpan.Ends rest := by
        rcases eq_of_recognises_slash recognises with rfl | rfl
        · exact ends
        · exact ends
      rcases raw with ⟨sign, more, rfl, -, outside, -⟩
      rw [List.nil_append, List.cons_prefix_cons] at star
      exact absurd (star.1 ▸ outside) (by decide)
  | cons second others =>
      rw [List.cons_append, List.cons_prefix_cons] at star
      exact (uncommented_cons.mp uncommented).2 ⟨rfl, by rw [List.head?_cons, star.1]⟩

theorem skipGap_piece (recognises : terminal.Recognises piece) (uncommented : Uncommented piece)
    (ends : terminal.Ends rest) : skipGap (piece ++ rest) = piece ++ rest := by
  refine skipGap_eq_self ?_ (not_prefix_of_recognises recognises uncommented ends)
  rcases exists_of_recognises recognises with ⟨first, others, rfl, nonblank⟩
  exact leaves_isSpace_of_not_isBlank nonblank _

theorem getLast?_ne_slash_of_recognises (recognises : terminal.Recognises piece)
    (notRaw : terminal ≠ .prelude ∧ terminal ≠ .value) : piece.getLast? ≠ some '/' := by
  intro slash
  match terminal, recognises with
  | .prelude, _ => exact notRaw.1 rfl
  | .value, _ => exact notRaw.2 rfl
  | .keyframesKeyword, ⟨vendor, equal, _⟩ =>
      have last : ("keyframes" : Text).getLast? = some 's' := by decide
      rw [equal, List.getLast?_cons, List.getLast?_append, last] at slash
      exact absurd (Option.some.inj slash) (by simp)
  | .property, ⟨hyphens, name, equal, hyphenated, form⟩ =>
      have member := List.mem_of_getLast? slash
      rw [equal, List.mem_append] at member
      rcases member with member | member
      · rcases hyphenated with rfl | rfl | rfl <;> exact absurd member (by decide)
      · exact absurd (form.continues (fun _ => continuesName_of_startsName) '/' member) (by decide)
  | .string, ⟨quote, body, equal, _⟩ =>
      rw [equal, ← List.cons_append, List.getLast?_concat] at slash
      exact absurd (Option.some.inj slash) (by cases quote <;> decide)
  | .documentKeyword, recognises =>
      rcases recognises with rfl | rfl
      · exact absurd slash (by decide)
      · exact absurd slash (by decide)
  | .nameSpaceKeyword, rfl | .fontFaceKeyword, rfl | .supportsKeyword, rfl | .charsetKeyword, rfl
  | .mediaKeyword, rfl | .pageKeyword, rfl | .colon, rfl | .openBrace, rfl | .closeBrace, rfl
  | .semicolon, rfl => exact absurd slash (by decide)

/-- A piece opens no comment with what is left behind it. -/
theorem apart_of_scan (found : terminal.scanner.scan text = some (piece, rest)) :
    piece.getLast? = some '/' → rest.head? ≠ some '*' := by
  have star (characters : Text) (raw : (Terminal.rawScanner characters).scan text =
      some (piece, rest)) : rest.head? ≠ some '*' := by
    intro begins
    have leaves := leaves_of_scan_raw (fun character (star : (character == '*') = true) => by
      rw [eq_of_beq star]
      rfl) raw
    rcases List.head?_eq_some_iff.mp begins with ⟨others, rfl⟩
    exact absurd (Text.leaves_cons.mp leaves) (by decide)
  intro slash
  by_cases prelude : terminal = .prelude
  · rw [prelude, Terminal.scanner_prelude] at found
    exact star _ found
  · by_cases value : terminal = .value
    · rw [value, Terminal.scanner_value] at found
      exact star _ found
    · have recognises := recognises_of_scan found
      exact absurd slash (getLast?_ne_slash_of_recognises recognises ⟨prelude, value⟩)

end Pieces

end ScopedMarkup.Css.Sheet
