import ScopedMarkup.Proofs.Css.Selector.Terminal

/-! # Simple selectors from pieces

A piece that a terminal recognised makes a simple selector that can be written,
but for square brackets that hold no attribute selector. Its text differs from
the piece in blanks only.
-/

namespace ScopedMarkup.Css.Selector

open Terminal

/-! ## The parts of a piece -/

section Pieces

variable {text piece rest : Text}

theorem of_scan_nameFrom {starts : Char → Bool}
    (found : (Scanner.character starts ++ Scanner.run continuesName).scan text =
      some (piece, rest)) :
    NameFrom starts piece ∧ rest.Leaves continuesName := by
  rcases Scanner.exists_of_scan_append found with ⟨_, middle, others, begins, goesOn, rfl⟩
  rcases Scanner.exists_of_scan_character begins with ⟨first, rfl, -, start⟩
  rcases Scanner.of_scan_run goesOn with ⟨-, continuing, leaves⟩
  exact ⟨⟨first, others, rfl, start, continuing⟩, leaves⟩

theorem exists_of_scan_pseudoScanner (found : pseudoScanner.scan text = some (piece, rest)) :
    ∃ separator name, piece = separator ++ name ∧ IsColons separator ∧
      NameFrom startsPseudo name ∧ rest.Leaves continuesName := by
  rw [pseudoScanner_eq, Scanner.scan_append_assoc] at found
  rcases Scanner.exists_of_scan_append found with ⟨separator, middle, name, begins, goesOn, rfl⟩
  rcases of_scan_nameFrom goesOn with ⟨form, leaves⟩
  refine ⟨separator, name, rfl, ?_, form, leaves⟩
  rcases Scanner.scan_of_scan_orElse begins with begins | begins
  · exact .inr (Scanner.of_scan_literal begins).1
  · exact .inl (Scanner.of_scan_literal begins).1

theorem exists_of_scan_className (found : (scanner .className).scan text = some (piece, rest)) :
    ∃ hyphen name, piece = '.' :: (hyphen ++ name) ∧ (hyphen = [] ∨ hyphen = ['-']) ∧
      NameFrom startsName name ∧ rest.Leaves continuesName := by
  rw [scanner_className] at found
  rcases Scanner.exists_of_scan_append found with ⟨_, _, name, begins, goesOn, rfl⟩
  rcases Scanner.exists_of_scan_append begins with ⟨_, _, hyphen, opens, hyphenated, rfl⟩
  rcases Scanner.of_scan_literal opens with ⟨rfl, -⟩
  rcases of_scan_nameFrom goesOn with ⟨form, leaves⟩
  refine ⟨hyphen, name, rfl, ?_, form, leaves⟩
  rcases Scanner.of_scan_optional hyphenated with hyphenated | ⟨empty, -⟩
  · exact .inr (Scanner.of_scan_literal hyphenated).1
  · exact .inl empty

theorem exists_of_scan_id (found : (scanner .id).scan text = some (piece, rest)) :
    ∃ name, piece = '#' :: name ∧ NameFrom continuesName name ∧ rest.Leaves continuesName := by
  rw [scanner_id, Scanner.scan_append_assoc] at found
  rcases Scanner.exists_of_scan_append found with ⟨_, _, name, opens, goesOn, rfl⟩
  rcases Scanner.of_scan_literal opens with ⟨rfl, -⟩
  rcases of_scan_nameFrom goesOn with ⟨form, leaves⟩
  exact ⟨name, rfl, form, leaves⟩

/-- What stood between an opening and a closing sign was a whole span. -/
theorem exists_of_scan_span {opening : Scanner} {closing : Text} {span : Span}
    (found : (opening ++ .many span.item ++ .literal closing).scan text = some (piece, rest)) :
    ∃ front middle body, opening.scan text = some (front, middle) ∧
      piece = front ++ body ++ closing ∧ span.Whole body := by
  rcases Scanner.exists_of_scan_append found with ⟨_, _, _, begins, ends, rfl⟩
  rcases Scanner.exists_of_scan_append begins with ⟨front, middle, body, opens, filled, rfl⟩
  rcases Scanner.of_scan_literal ends with ⟨rfl, -⟩
  refine ⟨front, middle, body, opens, rfl, ?_⟩
  have whole : span.Whole (Scanner.items span.item middle).1 :=
    Span.whole_of_items Span.whole_of_scan_item
  rw [Scanner.scan_many, Option.some.injEq] at filled
  rwa [filled] at whole

theorem exists_of_scan_brackets (found : (scanner .attribute).scan text = some (piece, rest)) :
    ∃ body, piece = '[' :: (body ++ [']']) ∧ bracketSpan.Whole body := by
  rw [scanner_attribute] at found
  rcases exists_of_scan_span found with ⟨front, _, body, opens, rfl, whole⟩
  rcases Scanner.of_scan_literal opens with ⟨rfl, -⟩
  exact ⟨body, rfl, whole⟩

theorem exists_of_scan_function (found : (scanner .function).scan text = some (piece, rest)) :
    ∃ separator name argument, piece = separator ++ name ++ '(' :: (argument ++ [')']) ∧
      IsColons separator ∧ NameFrom startsPseudo name ∧ argumentSpan.Whole argument := by
  rw [scanner_function] at found
  rcases exists_of_scan_span found with ⟨_, _, argument, opens, rfl, whole⟩
  rcases Scanner.exists_of_scan_append opens with ⟨_, _, _, named, opened, rfl⟩
  rcases Scanner.of_scan_literal opened with ⟨rfl, -⟩
  rcases exists_of_scan_pseudoScanner named with ⟨separator, name, rfl, colons, form, -⟩
  exact ⟨separator, name, argument, by simp, colons, form, whole⟩

end Pieces

/-! ## Negations -/

theorem isAlpha_of_isAlpha_toLower {character : Char} (lower : character.toLower.isAlpha = true) :
    character.isAlpha = true := by
  cases upper : character.isUpper with
  | true =>
      change (character.isUpper || character.isLower) = true
      rw [upper, Bool.true_or]
  | false =>
      have unchanged : character.toLower = character :=
        dif_neg fun inside => of_decide_eq_false upper inside
      rwa [unchanged] at lower

/-- The word that opens a negation is a name. -/
theorem continuesName_of_negation {word : Text}
    (negation : word.map Char.toLower = ['n', 'o', 't']) :
    ∀ character ∈ word, continuesName character = true := by
  intro character member
  have lower : character.toLower ∈ ['n', 'o', 't'] :=
    negation ▸ List.mem_map_of_mem (f := Char.toLower) member
  have letters : (['n', 'o', 't'].all Char.isAlpha) = true := by decide
  have letter := isAlpha_of_isAlpha_toLower (List.all_eq_true.mp letters _ lower)
  exact continuesName_of_startsName (by simp [startsName, letter])

theorem scan_caseless {word expected rest : Text} (equal : word.map Char.toLower = expected) :
    (Scanner.caseless expected).scan (word ++ rest) = some (word, rest) := by
  induction expected generalizing word with
  | nil =>
      rw [List.map_eq_nil_iff] at equal
      rw [equal]
      exact Scanner.scan_literal_append [] rest
  | cons letter expected induction =>
      cases word with
      | nil => simp at equal
      | cons first others =>
          rcases List.cons.inj equal with ⟨lower, further⟩
          refine Scanner.scan_append_cons ?_ (induction further)
          rw [List.cons_append, Scanner.scan_character_cons, if_pos (by simpa using lower)]

theorem of_scan_caseless {text piece rest expected : Text}
    (found : (Scanner.caseless expected).scan text = some (piece, rest)) :
    piece.map Char.toLower = expected := by
  induction expected generalizing text piece with
  | nil => rw [(Scanner.of_scan_literal found).1, List.map_nil]
  | cons letter expected induction =>
      rcases Scanner.exists_of_scan_append found with ⟨_, _, _, begins, goesOn, rfl⟩
      rcases Scanner.exists_of_scan_character begins with ⟨first, rfl, -, lower⟩
      rw [List.map_append, induction goesOn, List.map_cons, of_decide_eq_true lower]
      rfl

theorem scan_negationOpen {word blanks rest : Text}
    (negation : word.map Char.toLower = ['n', 'o', 't']) (blank : blanks.Blank)
    (leaves : rest.Leaves isBlank) :
    (scanner .negationOpen).scan (':' :: (word ++ '(' :: (blanks ++ rest))) =
      some (':' :: (word ++ '(' :: blanks), rest) := by
  have spelled : (Scanner.caseless ['n', 'o', 't']).scan (word ++ '(' :: (blanks ++ rest)) =
      some (word, '(' :: (blanks ++ rest)) := scan_caseless negation
  have named := Scanner.scan_append (Scanner.scan_literal_cons ':' _) spelled
  have opened := Scanner.scan_append named (Scanner.scan_literal_cons '(' _)
  have padded := Scanner.scan_append opened (Scanner.scan_run blank leaves)
  rw [scanner_negationOpen]
  refine padded.trans ?_
  simp

theorem exists_of_scan_negationOpen {text piece rest : Text}
    (found : (scanner .negationOpen).scan text = some (piece, rest)) :
    ∃ word blanks : Text, piece = ':' :: (word ++ '(' :: blanks) ∧
      word.map Char.toLower = ['n', 'o', 't'] ∧ blanks.Blank ∧ rest.Leaves isBlank := by
  rw [scanner_negationOpen] at found
  rcases Scanner.exists_of_scan_append found with ⟨_, _, blanks, begins, padded, rfl⟩
  rcases Scanner.exists_of_scan_append begins with ⟨_, _, _, named, opened, rfl⟩
  rcases Scanner.exists_of_scan_append named with ⟨_, _, word, colon, word, rfl⟩
  rcases Scanner.of_scan_literal colon with ⟨rfl, -⟩
  rcases Scanner.of_scan_literal opened with ⟨rfl, -⟩
  rcases Scanner.of_scan_run padded with ⟨-, blank, leaves⟩
  exact ⟨_, blanks, by simp, of_scan_caseless word, blank, leaves⟩

/-! ## The simple selector of a piece -/

/-- The piece before this rest makes this simple selector. -/
structure Makes (piece rest : Text) (part : Simple) : Prop where
  written : part.Written
  solid : piece.solid = part.render.solid
  leaves : part.endsName = true → rest.Leaves continuesName

theorem bracketSpan_whole_iff {left right : Text} (equal : left.solid = right.solid) :
    bracketSpan.Whole left ↔ bracketSpan.Whole right :=
  Span.whole_iff_of_solid_eq (by decide) (by decide) equal

theorem argumentSpan_whole_iff {left right : Text} (equal : left.solid = right.solid) :
    argumentSpan.Whole left ↔ argumentSpan.Whole right :=
  Span.whole_iff_of_solid_eq (by decide) (by decide) equal

theorem makes_of_attribute? {body rest : Text} {part : Simple} (whole : bracketSpan.Whole body)
    (read : Token.attribute? ('[' :: (body ++ [']'])) = some part) :
    Makes ('[' :: (body ++ [']'])) rest part := by
  have enclosed {inner : Text} (equal : body.solid = inner.solid) :
      Text.solid ('[' :: (body ++ [']'])) = Text.solid ('[' :: (inner ++ [']'])) := by
    rw [Text.solid_enclosed, Text.solid_enclosed, equal]
  rcases exists_of_attribute? read with ⟨name, form, first, second, firstBlank, secondBlank, cases⟩
  rcases cases with ⟨rfl, split⟩ | ⟨operator, known, value, rfl, split⟩
  · have equal : body.solid = name.solid := by
      rw [split, Text.solid_pad firstBlank secondBlank]
    exact ⟨.bareBrackets form ((bracketSpan_whole_iff equal).mp whole), enclosed equal,
      by simp [Simple.endsName]⟩
  · have equal : body.solid = (name ++ operator ++ Text.trim value).solid := by
      rw [split, Text.solid_append, Text.solid_append, Text.solid_pad firstBlank secondBlank]
      simp
    refine ⟨.brackets form known (Text.trimmed_trim value) ((bracketSpan_whole_iff equal).mp whole),
      ?_, by simp [Simple.endsName]⟩
    rw [enclosed equal]
    simp [Simple.render]

theorem makes_of_function {separator name argument rest : Text} (colons : IsColons separator)
    (form : NameFrom startsPseudo name) (noNegation : ¬ ReadsAsNegation separator name)
    (whole : argumentSpan.Whole argument) :
    Makes (separator ++ name ++ '(' :: (argument ++ [')'])) rest
      (.function separator name (Text.trim argument)) := by
  have equal := Text.solid_trim argument
  refine ⟨.function colons form noNegation (Text.trimmed_trim argument)
    ((argumentSpan_whole_iff equal).mpr whole), ?_, by simp [Simple.endsName]⟩
  rw [Simple.render, List.append_assoc _ ('(' :: _), List.cons_append, Text.solid_append,
    Text.solid_append _ ('(' :: _), Text.solid_enclosed, Text.solid_enclosed, equal]

/-- A name in front of a parenthesis reads as no negation where none opens. -/
theorem not_readsAsNegation {separator name inside : Text}
    (first : ∀ piece rest, (scanner .negationOpen).scan (separator ++ name ++ '(' :: inside) ≠
      some (piece, rest)) : ¬ ReadsAsNegation separator name := by
  rintro ⟨rfl, negation⟩
  rcases Text.exists_blank_trimStart inside with ⟨blanks, blank, split⟩
  have leaves : Text.Leaves isBlank (Text.trimStart inside) := Text.leaves_dropWhile isBlank inside
  have opens := scan_negationOpen negation blank leaves
  rw [← split] at opens
  exact first _ _ opens

/-- What stands between square brackets makes an attribute selector or is malformed. -/
theorem makes_of_scan_brackets {text piece rest : Text}
    (found : (scanner .attribute).scan text = some (piece, rest)) :
    (∃ part, Token.ofTerminal .attribute piece = .simple part ∧ Makes piece rest part ∧
      part.isType = false) ∨
    Token.ofTerminal .attribute piece = .malformed piece := by
  rcases exists_of_scan_brackets found with ⟨body, rfl, whole⟩
  cases read : Token.attribute? ('[' :: (body ++ [']'])) with
  | none => exact .inr (by simp [Token.ofTerminal, read])
  | some part =>
      refine .inl ⟨part, ofTerminal_attribute read, makes_of_attribute? whole read, ?_⟩
      rcases exists_of_attribute? read with ⟨_, -, _, _, -, -, ⟨rfl, -⟩ | ⟨_, -, _, rfl, -⟩⟩ <;> rfl

/-- The terminals of simple selectors. -/
def Terminal.isSimple : Terminal → Bool
  | .function | .attribute | .className | .pseudo | .type | .id | .any => true
  | _ => false

/-- A simple selector, or square brackets that hold none. The text of a
functional pseudo must not open a negation, which would come first. -/
theorem makes_of_scan {terminal : Terminal} {text piece rest : Text}
    (found : terminal.scanner.scan text = some (piece, rest)) (simple : terminal.isSimple = true)
    (first : terminal = .function → ∀ piece rest,
      (scanner .negationOpen).scan text ≠ some (piece, rest)) :
    (∃ part, Token.ofTerminal terminal piece = .simple part ∧ Makes piece rest part ∧
      (part.isType = true → ¬ text.Leaves continuesName)) ∨
    Token.ofTerminal terminal piece = .malformed piece := by
  match terminal, simple with
  | .any, _ =>
      rcases Scanner.of_scan_literal found with ⟨rfl, -⟩
      exact .inl ⟨.any, rfl, ⟨.any, rfl, by simp [Simple.endsName]⟩, by simp [Simple.isType]⟩
  | .type, _ =>
      have equal := (scanner .type).splits found
      rcases of_scan_nameFrom found with ⟨form, leaves⟩
      refine .inl ⟨.type piece, rfl, ⟨.type form, rfl, fun _ => leaves⟩, fun _ goesOn => ?_⟩
      rcases form with ⟨character, others, rfl, start, -⟩
      rw [← equal, List.cons_append, Text.leaves_cons,
        continuesName_of_startsName start] at goesOn
      simp at goesOn
  | .className, _ =>
      rcases exists_of_scan_className found with ⟨hyphen, name, rfl, hyphens, form, leaves⟩
      exact .inl ⟨.className (hyphen ++ name), rfl,
        ⟨.className hyphens form, rfl, fun _ => leaves⟩, by simp [Simple.isType]⟩
  | .id, _ =>
      rcases exists_of_scan_id found with ⟨name, rfl, form, leaves⟩
      exact .inl ⟨.id name, rfl, ⟨.id form, rfl, fun _ => leaves⟩, by simp [Simple.isType]⟩
  | .pseudo, _ =>
      rcases exists_of_scan_pseudoScanner found with ⟨separator, name, rfl, colons, form, leaves⟩
      exact .inl ⟨.pseudo separator name, congrArg Token.simple (pseudo_pieces colons form),
        ⟨.pseudo colons form, rfl, fun _ => leaves⟩, by simp [Simple.isType]⟩
  | .attribute, _ =>
      rcases makes_of_scan_brackets found with ⟨part, made, makes, other⟩ | malformed
      · exact .inl ⟨part, made, makes, fun isType => absurd (other.symm.trans isType)
          Bool.noConfusion⟩
      · exact .inr malformed
  | .function, _ =>
      have equal := (scanner .function).splits found
      rcases exists_of_scan_function found with
        ⟨separator, name, argument, rfl, colons, form, whole⟩
      have written : text = separator ++ name ++ '(' :: (argument ++ ')' :: rest) := by
        simpa using equal.symm
      exact .inl ⟨.function separator name (Text.trim argument),
        congrArg Token.simple (function_pieces colons form argument),
        makes_of_function colons form (not_readsAsNegation (written ▸ first rfl)) whole,
        by simp [Simple.isType]⟩

end ScopedMarkup.Css.Selector
