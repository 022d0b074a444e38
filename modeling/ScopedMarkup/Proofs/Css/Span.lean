import ScopedMarkup.Css.Name
import ScopedMarkup.Proofs.Text.Scanner

/-! # Spans

A span is a text in which quoted runs are kept whole, and perhaps parentheses
too, so that the characters that would end it may stand in there. Whether a text
is a whole span is decided character by character, and most characters do not
count. `items_of_whole` and `whole_of_items` tie this to repeated scanning.
-/

namespace ScopedMarkup.Css

/-! ## Quotes -/

inductive Quote where
  | double
  | single
deriving DecidableEq, Repr

namespace Quote

def character : Quote → Char
  | double => '"'
  | single => '\''

def of? (character : Char) : Option Quote :=
  if character = '"' then some double
  else if character = '\'' then some single
  else none

theorem of?_character (quote : Quote) : of? quote.character = some quote := by
  cases quote <;> rfl

theorem eq_character_of_of? {character : Char} {quote : Quote}
    (found : of? character = some quote) : character = quote.character := by
  unfold of? at found
  split at found
  · rename_i equal
    cases found
    exact equal
  · split at found
    · rename_i equal
      cases found
      exact equal
    · simp at found

theorem ne_character_of_of?_eq_none {character : Char} (none : of? character = none)
    (quote : Quote) : character ≠ quote.character := by
  intro equal
  rw [equal, of?_character] at none
  simp at none

end Quote

/-! ## Zones -/

/-- Where a place of a span lies. -/
structure Zone where
  parenthesized : Bool
  quote : Option Quote
deriving DecidableEq, Repr

def Zone.plain : Zone := ⟨false, none⟩

/-- What a span may not hold outside its quoted runs and parentheses, and, where
parentheses are kept whole, what may not stand between them. -/
structure Span where
  outside : Text
  inside : Option Text
  quotes_outside : '"' ∈ outside ∧ '\'' ∈ outside := by decide
  opening_outside : inside.isSome → '(' ∈ outside := by decide
  inside_excludes : ∀ excluded ∈ inside,
    '"' ∈ excluded ∧ '\'' ∈ excluded ∧ ')' ∈ excluded := by decide

namespace Span

variable {span : Span}

/-- The zone behind one more character, unless the span may not hold it there. -/
def step (span : Span) (zone : Zone) (character : Char) : Option Zone :=
  match zone.quote with
  | some quote =>
      some ⟨zone.parenthesized, if character = quote.character then none else some quote⟩
  | none =>
      match Quote.of? character with
      | some quote => some ⟨zone.parenthesized, some quote⟩
      | none =>
          match zone.parenthesized, span.inside with
          | true, some excluded =>
              if character = ')' then some .plain
              else if excluded.contains character then none else some zone
          | true, none => none
          | false, some _ =>
              if character = '(' then some ⟨true, none⟩
              else if span.outside.contains character then none else some zone
          | false, none => if span.outside.contains character then none else some zone

def after? (span : Span) : Zone → Text → Option Zone
  | zone, [] => some zone
  | zone, first :: rest =>
      match span.step zone first with
      | none => none
      | some next => after? span next rest

/-- The text is a span with no quoted run or parenthesis left open. -/
def Whole (span : Span) (text : Text) : Prop := span.after? .plain text = some .plain

theorem whole_nil : span.Whole [] := rfl

theorem after?_append {zone middle : Zone} {left : Text} (right : Text)
    (reached : span.after? zone left = some middle) :
    span.after? zone (left ++ right) = span.after? middle right := by
  induction left generalizing zone with
  | nil =>
      cases reached
      rfl
  | cons first left induction =>
      rw [List.cons_append, after?]
      rw [after?] at reached
      split at reached
      · simp at reached
      · exact induction reached

theorem whole_append {left right : Text} (first : span.Whole left) (second : span.Whole right) :
    span.Whole (left ++ right) := by
  rw [Whole, after?_append right first, second]

theorem after?_cons {zone : Zone} {first : Char} {rest : Text} (next : Zone)
    (reached : span.step zone first = some next) :
    span.after? zone (first :: rest) = span.after? next rest := by
  rw [after?, reached]

/-! ## Characters that do not count -/

/-- A character that ends nothing and begins nothing. -/
def Ordinary (span : Span) (character : Char) : Prop :=
  Quote.of? character = none ∧ character ∉ span.outside ∧ character ≠ ')' ∧
    ∀ excluded ∈ span.inside, character ∉ excluded

theorem step_of_ordinary {character : Char} (ordinary : span.Ordinary character) {zone : Zone}
    (fits : zone.parenthesized = true → span.inside.isSome) :
    span.step zone character = some zone := by
  rcases ordinary with ⟨noQuote, notOutside, notClosing, notInside⟩
  rcases zone with ⟨parenthesized, quote⟩
  cases quote with
  | some quote => simp [step, Quote.ne_character_of_of?_eq_none noQuote quote]
  | none =>
      cases inside : span.inside with
      | none =>
          cases parenthesized with
          | true => simp [inside] at fits
          | false => simp [step, noQuote, inside, notOutside]
      | some excluded =>
          have notExcluded := notInside excluded inside
          cases parenthesized with
          | true => simp [step, noQuote, inside, notClosing, notExcluded]
          | false =>
              have notOpening : character ≠ '(' := by
                intro equal
                exact notOutside (equal ▸ span.opening_outside (by simp [inside]))
              simp [step, noQuote, inside, notOpening, notOutside]

theorem parenthesized_of_step {zone next : Zone} {character : Char}
    (reached : span.step zone character = some next)
    (fits : zone.parenthesized = true → span.inside.isSome) :
    next.parenthesized = true → span.inside.isSome := by
  unfold step at reached
  intro parenthesized
  grind [Zone.plain]

theorem whole_of_ordinary {text : Text} (ordinary : ∀ character ∈ text, span.Ordinary character) :
    span.Whole text := by
  induction text with
  | nil => exact whole_nil
  | cons first rest induction =>
      have stays : span.step .plain first = some .plain :=
        step_of_ordinary (ordinary first List.mem_cons_self) (by simp [Zone.plain])
      rw [Whole, after?_cons _ stays]
      exact induction fun character member => ordinary character (List.mem_cons_of_mem _ member)

/-- Whether a text is a whole span depends only on the characters that count. -/
theorem after?_filter {counts : Char → Bool} (text : Text) (zone : Zone)
    (ordinary : ∀ character, counts character = false → span.Ordinary character)
    (fits : zone.parenthesized = true → span.inside.isSome) :
    span.after? zone (text.filter counts) = span.after? zone text := by
  induction text generalizing zone with
  | nil => rfl
  | cons first rest induction =>
      cases counted : counts first with
      | true =>
          rw [List.filter_cons_of_pos counted, after?, after?]
          cases reached : span.step zone first with
          | none => rfl
          | some next => exact induction next (parenthesized_of_step reached fits)
      | false =>
          rw [List.filter_cons_of_neg (by simp [counted]),
            after?_cons _ (step_of_ordinary (ordinary first counted) fits)]
          exact induction zone fits

theorem whole_iff_of_filter_eq {counts : Char → Bool} {left right : Text}
    (ordinary : ∀ character, counts character = false → span.Ordinary character)
    (equal : left.filter counts = right.filter counts) : span.Whole left ↔ span.Whole right := by
  rw [Whole, Whole, ← after?_filter left .plain ordinary (by simp [Zone.plain]),
    ← after?_filter right .plain ordinary (by simp [Zone.plain]), equal]

/-- Blanks do not count, if the span may hold them anywhere. -/
theorem whole_iff_of_solid_eq {left right : Text}
    (outside : (span.outside.all fun character => !isBlank character) = true)
    (inside : (span.inside.all fun excluded => excluded.all fun character =>
      !isBlank character) = true)
    (equal : left.solid = right.solid) : span.Whole left ↔ span.Whole right := by
  refine whole_iff_of_filter_eq ?_ equal
  intro character blank
  have blank : isBlank character = true := by simpa using blank
  have absent {characters : Text}
      (nonblank : (characters.all fun character => !isBlank character) = true) :
      character ∉ characters := by
    intro member
    have outside := List.all_eq_true.mp nonblank character member
    rw [blank] at outside
    simp at outside
  refine ⟨?_, absent outside, ?_, fun excluded member => absent ?_⟩
  · cases found : Quote.of? character with
    | none => rfl
    | some quote =>
        rw [Quote.eq_character_of_of? found] at blank
        cases quote <;> exact absurd blank (by decide)
  · rintro rfl
    exact absurd blank (by decide)
  · rw [Option.mem_def] at member
    rw [member] at inside
    exact inside

/-! ## What a span is made of -/

theorem exists_of_after?_quoted {parenthesized : Bool} {quote : Quote} {text : Text} {last : Zone}
    (reached : span.after? ⟨parenthesized, some quote⟩ text = some last)
    (closed : last.quote = none) :
    ∃ body rest, text = body ++ quote.character :: rest ∧ quote.character ∉ body ∧
      span.after? ⟨parenthesized, none⟩ rest = some last := by
  induction text with
  | nil =>
      cases reached
      simp at closed
  | cons first text induction =>
      rw [after?] at reached
      simp only [step] at reached
      by_cases equal : first = quote.character
      · rw [if_pos equal] at reached
        exact ⟨[], text, by rw [equal]; rfl, List.not_mem_nil, reached⟩
      · rw [if_neg equal] at reached
        rcases induction reached with ⟨body, rest, rfl, absent, remaining⟩
        refine ⟨first :: body, rest, rfl, ?_, remaining⟩
        intro member
        rcases List.mem_cons.mp member with same | member
        · exact equal same.symm
        · exact absent member

/-- The span of what stands between parentheses. -/
def between (excluded : Text) (quotes : '"' ∈ excluded ∧ '\'' ∈ excluded) : Span :=
  ⟨excluded, none, quotes, by simp, by simp⟩

theorem exists_of_after?_parenthesized {excluded text : Text} {quote : Option Quote}
    (inside : span.inside = some excluded) (quotes : '"' ∈ excluded ∧ '\'' ∈ excluded)
    (reached : span.after? ⟨true, quote⟩ text = some .plain) :
    ∃ body rest, text = body ++ ')' :: rest ∧
      (between excluded quotes).after? ⟨false, quote⟩ body = some .plain ∧ span.Whole rest := by
  induction text generalizing quote with
  | nil => simp [after?, Zone.plain] at reached
  | cons first text induction =>
      rw [after?] at reached
      cases quote with
      | some quote =>
          simp only [step] at reached
          rcases induction reached with ⟨body, rest, rfl, closed, remaining⟩
          exact ⟨first :: body, rest, rfl, closed, remaining⟩
      | none =>
          cases found : Quote.of? first with
          | some quote =>
              simp only [step, found] at reached
              rcases induction reached with ⟨body, rest, rfl, closed, remaining⟩
              refine ⟨first :: body, rest, rfl, ?_, remaining⟩
              rw [after?_cons ⟨false, some quote⟩ (by simp [step, found])]
              exact closed
          | none =>
              simp only [step, found, inside] at reached
              by_cases ends : first = ')'
              · rw [if_pos ends] at reached
                exact ⟨[], text, by rw [ends]; rfl, rfl, reached⟩
              · rw [if_neg ends] at reached
                by_cases member : first ∈ excluded
                · simp [member] at reached
                · simp only [List.contains_eq_mem, member, decide_false, Bool.false_eq_true,
                    if_false] at reached
                  rcases induction reached with ⟨body, rest, rfl, closed, remaining⟩
                  refine ⟨first :: body, rest, rfl, ?_, remaining⟩
                  rw [after?_cons ⟨false, none⟩]
                  · exact closed
                  · simp [step, found, between, member]

theorem after?_quoted (span : Span) {quote : Quote} {body : Text} (parenthesized : Bool)
    (absent : quote.character ∉ body) :
    span.after? ⟨parenthesized, none⟩ (quote.character :: (body ++ [quote.character])) =
      some ⟨parenthesized, none⟩ := by
  rw [after?_cons ⟨parenthesized, some quote⟩ (by simp [step, Quote.of?_character])]
  induction body with
  | nil => simp [after?, step]
  | cons first body induction =>
      rcases not_or.mp (mt List.mem_cons.mpr absent) with ⟨different, absent⟩
      rw [List.cons_append, after?_cons ⟨parenthesized, some quote⟩]
      · exact induction absent
      · simp [step, Ne.symm different]

theorem after?_of_between {excluded body : Text} {quote : Option Quote} {last : Zone}
    (inside : span.inside = some excluded) (quotes : '"' ∈ excluded ∧ '\'' ∈ excluded)
    (closing : ')' ∈ excluded)
    (reached : (between excluded quotes).after? ⟨false, quote⟩ body = some last) :
    span.after? ⟨true, quote⟩ body = some ⟨true, last.quote⟩ := by
  induction body generalizing quote with
  | nil =>
      cases reached
      rfl
  | cons first body induction =>
      rw [after?] at reached
      cases quote with
      | some quote =>
          simp only [step] at reached
          rw [after?_cons ⟨true, _⟩ rfl]
          exact induction reached
      | none =>
          cases found : Quote.of? first with
          | some quote =>
              simp only [step, found] at reached
              rw [after?_cons ⟨true, some quote⟩ (by simp [step, found])]
              exact induction reached
          | none =>
              simp only [step, found, between] at reached
              by_cases member : first ∈ excluded
              · simp [member] at reached
              · simp only [List.contains_eq_mem, member, decide_false, Bool.false_eq_true,
                  if_false] at reached
                have notClosing : first ≠ ')' := fun equal => member (equal ▸ closing)
                rw [after?_cons ⟨true, none⟩]
                · exact induction reached
                · simp [step, found, inside, notClosing, member]

/-! ## Scanning spans -/

/-- A parenthesis with none of these characters in it, outside its quoted runs. -/
def parenthesis (excluded : Text) : Scanner :=
  .literal ['('] ++ .many (quotedOrOutside excluded) ++ .literal [')']

/-- What a span is a repetition of. -/
def item (span : Span) : Scanner :=
  match span.inside with
  | none => quotedOrOutside span.outside
  | some excluded => parenthesis excluded <|> quotedOrOutside span.outside

theorem leaves_quote_of_of?_eq_none {character quote : Char} {rest : Text}
    (noQuote : Quote.of? character = none) (isQuote : quote = '"' ∨ quote = '\'') :
    Text.Leaves (· = quote) (character :: rest) := by
  rw [Text.leaves_cons, decide_eq_false_iff_not]
  rcases isQuote with rfl | rfl
  · exact Quote.ne_character_of_of?_eq_none noQuote .double
  · exact Quote.ne_character_of_of?_eq_none noQuote .single

theorem scan_string_eq_none {character : Char} {rest : Text}
    (noQuote : Quote.of? character = none) : Scanner.string.scan (character :: rest) = none := by
  rw [Scanner.string, Scanner.scan_orElse_of_second]
  · exact Scanner.scan_append_eq_none
      (Scanner.scan_literal_eq_none (leaves_quote_of_of?_eq_none noQuote (.inr rfl)))
  · exact Scanner.scan_append_eq_none
      (Scanner.scan_literal_eq_none (leaves_quote_of_of?_eq_none noQuote (.inl rfl)))

theorem scan_string {quote : Quote} {body : Text} (rest : Text)
    (absent : quote.character ∉ body) :
    Scanner.string.scan (quote.character :: (body ++ quote.character :: rest)) =
      some (quote.character :: (body ++ [quote.character]), rest) := by
  cases quote with
  | double => exact Scanner.scan_orElse_of_first (Scanner.scan_quotedRun absent)
  | single =>
      rw [Scanner.string, Scanner.scan_orElse_of_second]
      · exact Scanner.scan_quotedRun absent
      · exact Scanner.scan_append_eq_none
          (Scanner.scan_literal_eq_none (Text.leaves_cons.mpr (by decide)))

theorem exists_of_scan_string {text piece rest : Text}
    (found : Scanner.string.scan text = some (piece, rest)) :
    ∃ (quote : Quote) (body : Text), quote.character ∉ body ∧
      piece = quote.character :: (body ++ [quote.character]) := by
  rcases Scanner.scan_of_scan_orElse found with found | found
  · exact ⟨.double, Scanner.exists_of_scan_quotedRun found⟩
  · exact ⟨.single, Scanner.exists_of_scan_quotedRun found⟩

theorem scan_quotedOrOutside_cons {excluded : Text} {character : Char} (rest : Text)
    (noQuote : Quote.of? character = none) (outside : character ∉ excluded) :
    (quotedOrOutside excluded).scan (character :: rest) = some ([character], rest) := by
  rw [quotedOrOutside, Scanner.scan_orElse_of_second (scan_string_eq_none noQuote),
    Scanner.scan_character_cons]
  simp [outside]

theorem scan_quotedOrOutside_eq_none {excluded : Text} {character : Char} (rest : Text)
    (noQuote : Quote.of? character = none) (member : character ∈ excluded) :
    (quotedOrOutside excluded).scan (character :: rest) = none := by
  rw [quotedOrOutside, Scanner.scan_orElse_of_second (scan_string_eq_none noQuote)]
  exact Scanner.scan_character_eq_none (Text.leaves_cons.mpr (by simp [member]))

theorem scan_parenthesis_eq_none {excluded : Text} {character : Char} (rest : Text)
    (different : character ≠ '(') : (parenthesis excluded).scan (character :: rest) = none := by
  refine Scanner.scan_append_eq_none (Scanner.scan_append_eq_none ?_)
  exact Scanner.scan_literal_eq_none (Text.leaves_cons.mpr (by simpa using different))

theorem scan_item_cons {character : Char} (rest : Text) (noQuote : Quote.of? character = none)
    (outside : character ∉ span.outside) :
    span.item.scan (character :: rest) = some ([character], rest) := by
  unfold item
  cases inside : span.inside with
  | none => exact scan_quotedOrOutside_cons rest noQuote outside
  | some excluded =>
      have different : character ≠ '(' := fun equal =>
        outside (equal ▸ span.opening_outside (by simp [inside]))
      rw [Scanner.scan_orElse_of_second (scan_parenthesis_eq_none rest different)]
      exact scan_quotedOrOutside_cons rest noQuote outside

theorem scan_item_string {quote : Quote} {body : Text} (span : Span) (rest : Text)
    (absent : quote.character ∉ body) :
    span.item.scan (quote.character :: (body ++ quote.character :: rest)) =
      some (quote.character :: (body ++ [quote.character]), rest) := by
  have found (excluded : Text) :
      (quotedOrOutside excluded).scan (quote.character :: (body ++ quote.character :: rest)) =
        some (quote.character :: (body ++ [quote.character]), rest) :=
    Scanner.scan_orElse_of_first (scan_string rest absent)
  unfold item
  cases inside : span.inside with
  | none => exact found span.outside
  | some excluded =>
      rw [Scanner.scan_orElse_of_second]
      · exact found span.outside
      · exact scan_parenthesis_eq_none _ (by cases quote <;> decide)

/-- A character that ends a span: one that it may not hold, and that begins
neither a quoted run nor a parenthesis. -/
def Ends (span : Span) (text : Text) : Prop :=
  ∃ character rest, text = character :: rest ∧ Quote.of? character = none ∧
    character ∈ span.outside ∧ (span.inside.isSome → character ≠ '(')

theorem scan_item_eq_none {text : Text} (ends : span.Ends text) : span.item.scan text = none := by
  rcases ends with ⟨character, rest, rfl, noQuote, member, notOpening⟩
  unfold item
  cases inside : span.inside with
  | none => exact scan_quotedOrOutside_eq_none rest noQuote member
  | some excluded =>
      have different := notOpening (by simp [inside])
      rw [Scanner.scan_orElse_of_second (scan_parenthesis_eq_none rest different)]
      exact scan_quotedOrOutside_eq_none rest noQuote member

/-- Each parenthesis that is kept whole is scanned up to its end. -/
def ScansParentheses (span : Span) : Prop :=
  ∀ excluded ∈ span.inside, ∀ quotes (body rest : Text), (between excluded quotes).Whole body →
    (parenthesis excluded).scan ('(' :: (body ++ ')' :: rest)) =
      some ('(' :: (body ++ [')']), rest)

theorem scan_item_parenthesis {excluded inner rest : Text}
    (parentheses : span.ScansParentheses) (inside : span.inside = some excluded)
    (quotes : '"' ∈ excluded ∧ '\'' ∈ excluded) (closed : (between excluded quotes).Whole inner) :
    span.item.scan ('(' :: (inner ++ ')' :: rest)) = some ('(' :: (inner ++ [')']), rest) := by
  unfold item
  rw [inside]
  exact Scanner.scan_orElse_of_first (parentheses excluded inside quotes inner rest closed)

/-- What a whole span begins with: a quoted run, a parenthesis that is kept whole, or a
character that stands for itself. -/
theorem whole_cons_cases {first : Char} {body : Text} (whole : span.Whole (first :: body)) :
    (∃ (quote : Quote) (inner following : Text), first = quote.character ∧
      body = inner ++ quote.character :: following ∧ quote.character ∉ inner ∧
      span.Whole following) ∨
    (∃ excluded quotes, ∃ inner following : Text, span.inside = some excluded ∧ first = '(' ∧
      body = inner ++ ')' :: following ∧ (between excluded quotes).Whole inner ∧
      span.Whole following) ∨
    Quote.of? first = none ∧ first ∉ span.outside ∧ span.Whole body := by
  rw [Whole, after?] at whole
  cases found : Quote.of? first with
  | some quote =>
      simp only [step, Zone.plain, found] at whole
      rcases exists_of_after?_quoted whole rfl with ⟨inner, following, split, absent, remaining⟩
      exact .inl ⟨quote, inner, following, Quote.eq_character_of_of? found, split, absent,
        remaining⟩
  | none =>
      cases inside : span.inside with
      | none =>
          simp only [step, Zone.plain, found, inside] at whole
          by_cases member : first ∈ span.outside
          · simp [member] at whole
          · exact .inr (.inr ⟨rfl, member, by simpa [member, Whole, Zone.plain] using whole⟩)
      | some excluded =>
          rcases span.inside_excludes excluded inside with ⟨double, single, -⟩
          simp only [step, Zone.plain, found, inside] at whole
          by_cases opening : first = '('
          · rw [if_pos opening] at whole
            rcases exists_of_after?_parenthesized inside ⟨double, single⟩ whole with
              ⟨inner, following, split, closed, remaining⟩
            exact .inr (.inl ⟨excluded, ⟨double, single⟩, inner, following, rfl, opening, split,
              closed, remaining⟩)
          · rw [if_neg opening] at whole
            by_cases member : first ∈ span.outside
            · simp [member] at whole
            · exact .inr (.inr ⟨rfl, member, by simpa [member, Whole, Zone.plain] using whole⟩)

theorem items_of_scansParentheses {body rest : Text} (parentheses : span.ScansParentheses)
    (whole : span.Whole body) (refused : span.item.scan rest = none) :
    Scanner.items span.item (body ++ rest) = (body, rest) := by
  cases body with
  | nil => exact Scanner.items_of_scan_eq_none refused
  | cons first body =>
      rcases whole_cons_cases whole with
        ⟨quote, inner, following, rfl, rfl, absent, remaining⟩ |
        ⟨excluded, quotes, inner, following, inside, rfl, rfl, closed, remaining⟩ |
        ⟨noQuote, outside, remaining⟩
      · have more := items_of_scansParentheses parentheses remaining refused
        have scanned := scan_item_string span (following ++ rest) absent
        simpa using Scanner.items_append scanned (List.cons_ne_nil _ _) more
      · have more := items_of_scansParentheses parentheses remaining refused
        have scanned := @scan_item_parenthesis _ _ _ (following ++ rest) parentheses inside quotes
          closed
        simpa using Scanner.items_append scanned (List.cons_ne_nil _ _) more
      · have more := items_of_scansParentheses parentheses remaining refused
        have scanned := scan_item_cons (body ++ rest) noQuote outside
        exact Scanner.items_append scanned (List.cons_ne_nil _ _) more
termination_by body.length
decreasing_by
  all_goals simp_all
  all_goals omega

/-- What stands between the parentheses of a span, with what ends it. -/
theorem scan_parenthesis {excluded body rest : Text} (quotes : '"' ∈ excluded ∧ '\'' ∈ excluded)
    (closing : ')' ∈ excluded) (whole : (between excluded quotes).Whole body) :
    (parenthesis excluded).scan ('(' :: (body ++ ')' :: rest)) =
      some ('(' :: (body ++ [')']), rest) := by
  have ends : (between excluded quotes).Ends (')' :: rest) :=
    ⟨')', rest, rfl, by decide, closing, by simp [between]⟩
  have noParentheses : (between excluded quotes).ScansParentheses := by
    simp [ScansParentheses, between]
  have inner := items_of_scansParentheses noParentheses whole (scan_item_eq_none ends)
  have filled : (Scanner.many (quotedOrOutside excluded)).scan (body ++ ')' :: rest) =
      some (body, ')' :: rest) := congrArg some inner
  have opened := Scanner.scan_append_cons (Scanner.scan_literal_cons '(' _) filled
  exact Scanner.scan_append opened (Scanner.scan_literal_cons ')' rest)

/-- A whole span is scanned up to its end. -/
theorem items_of_whole {body rest : Text} (whole : span.Whole body)
    (refused : span.item.scan rest = none) :
    Scanner.items span.item (body ++ rest) = (body, rest) := by
  refine items_of_scansParentheses ?_ whole refused
  intro excluded inside quotes inner following closed
  exact scan_parenthesis quotes (span.inside_excludes excluded inside).2.2 closed

/-! ## What was scanned is a whole span -/

theorem whole_of_scan_quotedOrOutside {text piece rest : Text}
    (found : (quotedOrOutside span.outside).scan text = some (piece, rest)) :
    span.Whole piece := by
  rcases Scanner.scan_of_scan_orElse found with found | found
  · rcases exists_of_scan_string found with ⟨quote, body, absent, rfl⟩
    exact after?_quoted span false absent
  · rcases Scanner.exists_of_scan_character found with ⟨single, rfl, -, outside⟩
    have absent : single ∉ span.outside := by simpa using outside
    have noQuote : Quote.of? single = none := by
      unfold Quote.of?
      have double : single ≠ '"' := fun equal => absent (equal ▸ span.quotes_outside.1)
      have quote : single ≠ '\'' := fun equal => absent (equal ▸ span.quotes_outside.2)
      simp [double, quote]
    rw [Whole, after?_cons .plain ?_]
    · rfl
    · cases inside : span.inside with
      | none => simp [step, Zone.plain, noQuote, inside, absent]
      | some excluded =>
          have opening : single ≠ '(' := fun equal =>
            absent (equal ▸ span.opening_outside (by simp [inside]))
          simp [step, Zone.plain, noQuote, inside, absent, opening]

theorem whole_of_items {text : Text}
    (one : ∀ {text piece rest : Text}, span.item.scan text = some (piece, rest) →
      span.Whole piece) : span.Whole (Scanner.items span.item text).1 := by
  fun_induction Scanner.items span.item text with
  | case1 => exact whole_nil
  | case2 => exact whole_nil
  | case3 text first piece rest found more remaining equal induction =>
      rw [equal] at induction
      exact whole_append (one found) induction

theorem whole_of_scan_item {text piece rest : Text}
    (found : span.item.scan text = some (piece, rest)) : span.Whole piece := by
  unfold item at found
  cases inside : span.inside with
  | none =>
      rw [inside] at found
      exact whole_of_scan_quotedOrOutside found
  | some excluded =>
      rcases span.inside_excludes excluded inside with ⟨double, single, closing⟩
      rw [inside] at found
      rcases Scanner.scan_of_scan_orElse found with found | found
      · rcases Scanner.exists_of_scan_append found with ⟨front, _, _, begins, ends, rfl⟩
        rcases Scanner.exists_of_scan_append begins with ⟨_, inner, body, opens, many, rfl⟩
        rcases Scanner.of_scan_literal opens with ⟨rfl, -⟩
        rcases Scanner.of_scan_literal ends with ⟨rfl, -⟩
        have closed : (between excluded ⟨double, single⟩).Whole body := by
          have whole : (between excluded ⟨double, single⟩).Whole
              (Scanner.items (quotedOrOutside excluded) inner).1 :=
            whole_of_items whole_of_scan_quotedOrOutside
          rw [Scanner.scan_many, Option.some.injEq] at many
          rwa [many] at whole
        rw [Whole, List.append_assoc, List.singleton_append,
          after?_cons ⟨true, none⟩ (by simp [step, Zone.plain, inside]; decide),
          after?_append [')'] (after?_of_between inside ⟨double, single⟩ closing closed)]
        simp [after?, step, Zone.plain, inside, Quote.of?]
      · exact whole_of_scan_quotedOrOutside found

end Span

end ScopedMarkup.Css
