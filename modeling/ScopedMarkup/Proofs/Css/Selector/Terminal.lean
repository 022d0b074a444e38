import ScopedMarkup.Proofs.Css.Selector.Form

/-! # The terminals of selectors

What each terminal recognises where the text of its token stands, what it refuses
elsewhere, and what is known of a piece that it recognised.
-/

namespace ScopedMarkup.Css.Selector

open Terminal

/-! ## The terminals, with their signs written out -/

namespace Terminal

theorem scanner_negationOpen : scanner .negationOpen =
    .literal [':'] ++ .caseless ['n', 'o', 't'] ++ .literal ['('] ++ .blanks := rfl

theorem pseudoScanner_eq : pseudoScanner =
    (Scanner.literal [':', ':'] <|> Scanner.literal [':']) ++ .character startsPseudo ++
      .run continuesName := rfl

theorem scanner_function : scanner .function =
    pseudoScanner ++ .literal ['('] ++ .many argumentSpan.item ++ .literal [')'] := rfl

theorem scanner_attribute : scanner .attribute =
    .literal ['['] ++ .many bracketSpan.item ++ .literal [']'] := rfl

theorem scanner_className : scanner .className =
    .literal ['.'] ++ .optional (.literal ['-']) ++ name := rfl

theorem scanner_id : scanner .id =
    .literal ['#'] ++ .character continuesName ++ .run continuesName := rfl

theorem scanner_negationClose : scanner .negationClose = .blanks ++ .literal [')'] := rfl

/-- The sign that a terminal begins with, after the blanks that it takes along. -/
def sign? : Terminal → Option Char
  | .negationOpen | .function | .pseudo => some ':'
  | .adjacent => some '+'
  | .child => some '>'
  | .comma => some ','
  | .sibling => some '~'
  | .negationClose => some ')'
  | .attribute => some '['
  | .className => some '.'
  | .id => some '#'
  | .any => some '*'
  | .type | .descendant => none

/-- The terminals that take the blanks before their sign along. -/
def isPadded : Terminal → Bool
  | .adjacent | .child | .comma | .sibling | .negationClose => true
  | _ => false

end Terminal

/-! ## Refusals -/

section Refusals

variable {terminal : Terminal} {sign first : Char} {blanks text rest : Text}

theorem scan_eq_none_of_leaves_sign (signed : terminal.sign? = some sign)
    (unpadded : terminal.isPadded = false) (leaves : text.Leaves (· = sign)) :
    terminal.scanner.scan text = none := by
  have refused : (Scanner.literal [sign]).scan text = none := Scanner.scan_literal_eq_none leaves
  have colonRefused (colon : sign = ':') : pseudoScanner.scan text = none := by
    subst colon
    rw [pseudoScanner_eq]
    refine Scanner.scan_append_eq_none (Scanner.scan_append_eq_none ?_)
    rw [Scanner.scan_orElse_of_second (Scanner.scan_literal_eq_none leaves)]
    exact refused
  match terminal, sign, signed, unpadded, refused, colonRefused with
  | .negationOpen, _, rfl, _, refused, _ =>
      exact Scanner.scan_append_eq_none (Scanner.scan_append_eq_none
        (Scanner.scan_append_eq_none refused))
  | .function, _, rfl, _, _, refused =>
      exact Scanner.scan_append_eq_none (Scanner.scan_append_eq_none
        (Scanner.scan_append_eq_none (refused rfl)))
  | .attribute, _, rfl, _, refused, _
  | .className, _, rfl, _, refused, _
  | .id, _, rfl, _, refused, _ =>
      exact Scanner.scan_append_eq_none (Scanner.scan_append_eq_none refused)
  | .pseudo, _, rfl, _, _, refused => exact refused rfl
  | .any, _, rfl, _, refused, _ => exact refused

theorem scan_blanks (rest : Text) (blank : blanks.Blank) (nonblank : isBlank first = false) :
    Scanner.blanks.scan (blanks ++ first :: rest) = some (blanks, first :: rest) :=
  Scanner.scan_run blank (Text.leaves_cons.mpr nonblank)

theorem scan_eq_none_of_padded (signed : terminal.sign? = some sign)
    (padded : terminal.isPadded = true) (blank : blanks.Blank) (nonblank : isBlank first = false)
    (different : first ≠ sign) : terminal.scanner.scan (blanks ++ first :: rest) = none := by
  have begins := scan_blanks rest blank nonblank
  have refused : (Scanner.literal [sign]).scan (first :: rest) = none :=
    Scanner.scan_literal_eq_none (Text.leaves_cons.mpr (by simpa using different))
  have alone := Scanner.scan_append_eq_none_of_second begins refused
  match terminal, sign, signed, padded, alone with
  | .negationClose, _, rfl, _, alone => exact alone
  | .adjacent, _, rfl, _, alone
  | .child, _, rfl, _, alone
  | .comma, _, rfl, _, alone
  | .sibling, _, rfl, _, alone => exact Scanner.scan_append_eq_none alone

theorem scan_type_eq_none (leaves : text.Leaves startsName) :
    (scanner .type).scan text = none :=
  Scanner.scan_append_eq_none (Scanner.scan_character_eq_none leaves)

/-- A terminal is refused where something else than its sign comes next. -/
theorem scan_eq_none_of_ne_sign (signed : terminal.sign? = some sign)
    (nonblank : isBlank first = false) (different : first ≠ sign) :
    terminal.scanner.scan (first :: rest) = none := by
  cases padded : terminal.isPadded with
  | false =>
      exact scan_eq_none_of_leaves_sign signed padded
        (Text.leaves_cons.mpr (by simpa using different))
  | true =>
      have blank : Text.Blank [] := Text.blank_nil
      exact scan_eq_none_of_padded signed padded blank nonblank different

end Refusals

/-! ## The text of a simple selector -/

/-- What would go on with a name, or make it the name of a function. -/
def goesOnName (character : Char) : Bool := continuesName character || character = '('

theorem leaves_continuesName {rest : Text} (leaves : rest.Leaves goesOnName) :
    rest.Leaves continuesName := by
  intro first member
  have outside := leaves first member
  simp only [goesOnName, Bool.or_eq_false_iff] at outside
  exact outside.1

theorem leaves_opening {rest : Text} (leaves : rest.Leaves goesOnName) :
    rest.Leaves (· = '(') := by
  intro first member
  have outside := leaves first member
  simp only [goesOnName, Bool.or_eq_false_iff] at outside
  exact outside.2

theorem scan_nameFrom {starts : Char → Bool} {found rest : Text} (form : NameFrom starts found)
    (leaves : rest.Leaves continuesName) :
    (Scanner.character starts ++ Scanner.run continuesName).scan (found ++ rest) =
      some (found, rest) := by
  rcases form with ⟨first, others, rfl, start, continuing⟩
  refine Scanner.scan_append_cons ?_ (Scanner.scan_run continuing leaves)
  rw [List.cons_append, Scanner.scan_character_cons, if_pos start]

theorem scan_pseudoScanner {separator found rest : Text} (colons : IsColons separator)
    (form : NameFrom startsPseudo found) (leaves : rest.Leaves continuesName) :
    pseudoScanner.scan (separator ++ found ++ rest) = some (separator ++ found, rest) := by
  have separated : (Scanner.literal [':', ':'] <|> Scanner.literal [':']).scan
      (separator ++ (found ++ rest)) = some (separator, found ++ rest) := by
    rcases colons with rfl | rfl
    · rcases form with ⟨first, others, rfl, start, -⟩
      have different : first ≠ ':' := by
        rintro rfl
        exact absurd start (by decide)
      rw [Scanner.scan_orElse_of_second]
      · exact Scanner.scan_literal_cons ':' _
      · simp [Scanner.literal, Text.after?, different]
    · exact Scanner.scan_orElse_of_first (Scanner.scan_literal_append [':', ':'] _)
  rcases form with ⟨first, others, rfl, start, continuing⟩
  rw [pseudoScanner_eq, List.append_assoc]
  have started : (Scanner.character startsPseudo).scan (first :: others ++ rest) =
      some ([first], others ++ rest) := by
    rw [List.cons_append, Scanner.scan_character_cons, if_pos start]
  have front := Scanner.scan_append separated started
  have whole := Scanner.scan_append front (Scanner.scan_run continuing leaves)
  rwa [List.append_assoc] at whole

theorem scan_function {separator found argument : Text} (rest : Text) (colons : IsColons separator)
    (form : NameFrom startsPseudo found) (whole : argumentSpan.Whole argument) :
    (scanner .function).scan (separator ++ found ++ '(' :: (argument ++ ')' :: rest)) =
      some (separator ++ found ++ '(' :: (argument ++ [')']), rest) := by
  have ends : argumentSpan.Ends (')' :: rest) := ⟨')', rest, rfl, by decide⟩
  have items : (Scanner.many argumentSpan.item).scan (argument ++ ')' :: rest) =
      some (argument, ')' :: rest) :=
    congrArg some (Span.items_of_whole whole (Span.scan_item_eq_none ends))
  have leaves : Text.Leaves continuesName ('(' :: (argument ++ ')' :: rest)) :=
    Text.leaves_cons.mpr (by decide)
  have named := scan_pseudoScanner colons form leaves
  have opened := Scanner.scan_append named (Scanner.scan_literal_cons '(' _)
  have filled := Scanner.scan_append opened items
  have closed := Scanner.scan_append filled (Scanner.scan_literal_cons ')' rest)
  rw [scanner_function, closed]
  simp

theorem scan_brackets {body : Text} (rest : Text) (whole : bracketSpan.Whole body) :
    (scanner .attribute).scan ('[' :: (body ++ ']' :: rest)) =
      some ('[' :: (body ++ [']']), rest) := by
  have ends : bracketSpan.Ends (']' :: rest) := ⟨']', rest, rfl, by decide⟩
  have items : (Scanner.many bracketSpan.item).scan (body ++ ']' :: rest) =
      some (body, ']' :: rest) :=
    congrArg some (Span.items_of_whole whole (Span.scan_item_eq_none ends))
  have filled := Scanner.scan_append (Scanner.scan_literal_cons '[' (body ++ ']' :: rest)) items
  have closed := Scanner.scan_append filled (Scanner.scan_literal_cons ']' rest)
  rw [scanner_attribute, closed]
  rfl

theorem scan_hyphen {hyphen found rest : Text} (hyphens : hyphen = [] ∨ hyphen = ['-'])
    (form : NameFrom startsName found) :
    (Scanner.optional (.literal ['-'])).scan (hyphen ++ (found ++ rest)) =
      some (hyphen, found ++ rest) := by
  rcases hyphens with rfl | rfl
  · rcases form with ⟨first, others, rfl, start, -⟩
    have different : first ≠ '-' := by
      rintro rfl
      exact absurd start (by decide)
    exact Scanner.scan_optional_of_none (Scanner.scan_literal_eq_none
      (Text.leaves_cons.mpr (by simpa using different)))
  · exact Scanner.scan_optional (Scanner.scan_literal_cons '-' _)

theorem scan_className {hyphen found rest : Text} (hyphens : hyphen = [] ∨ hyphen = ['-'])
    (form : NameFrom startsName found) (leaves : rest.Leaves continuesName) :
    (scanner .className).scan ('.' :: (hyphen ++ found) ++ rest) =
      some ('.' :: (hyphen ++ found), rest) := by
  have dotted := Scanner.scan_append
    (Scanner.scan_literal_cons '.' (hyphen ++ (found ++ rest))) (scan_hyphen hyphens form)
  have whole := Scanner.scan_append dotted (scan_nameFrom form leaves)
  rw [scanner_className, List.cons_append, List.append_assoc]
  exact whole

/-! ## What stands between square brackets -/

/-- The attribute selector with this name, by what follows the name and blanks. -/
def attributeAfter? (name : Text) : Text → Option Simple
  | [] => some (.attribute name none none)
  | '=' :: value => some (.attribute name (some ['=']) (some (Text.trim value)))
  | sign :: '=' :: value =>
      if ['~', '|', '^', '$', '*'].contains sign then
        some (.attribute name (some [sign, '=']) (some (Text.trim value)))
      else none
  | _ => none

theorem attribute?_brackets (body : Text) :
    Token.attribute? ('[' :: (body ++ [']'])) =
      let name := body.trimStart.takeWhile fun found => !Token.endsAttributeName found
      let rest := body.trimStart.dropWhile fun found => !Token.endsAttributeName found
      if name = [] then none else attributeAfter? name (Text.trimStart rest) := by
  unfold Token.attribute?
  rw [List.drop_one, List.tail_cons, List.dropLast_concat]
  rfl

theorem leaves_isBlank_of_attributeName {name : Text} (form : IsAttributeName name) (tail : Text) :
    (name ++ tail).Leaves isBlank := by
  rcases form with ⟨nonempty, inside⟩
  cases name with
  | nil => exact absurd rfl nonempty
  | cons first others =>
      have outside := inside first List.mem_cons_self
      simp only [Token.endsAttributeName, Bool.or_eq_false_iff] at outside
      exact Text.leaves_cons.mpr outside.1

theorem attribute?_name_append {name tail : Text} (form : IsAttributeName name)
    (ends : tail.Leaves fun found => !Token.endsAttributeName found)
    (nonblank : tail.Leaves isBlank) :
    Token.attribute? ('[' :: ((name ++ tail) ++ [']'])) = attributeAfter? name tail := by
  have inside : ∀ character ∈ name, (!Token.endsAttributeName character) = true := by
    intro character member
    rw [form.2 character member]
    rfl
  rw [attribute?_brackets, Text.trimStart_eq_of_leaves (leaves_isBlank_of_attributeName form tail),
    Text.takeWhile_append_of_leaves inside ends, Text.dropWhile_append_of_leaves inside ends]
  simp only [form.1, if_false, Text.trimStart_eq_of_leaves nonblank]

theorem attribute?_operator {name operator value : Text} (form : IsAttributeName name)
    (known : operator ∈ operators) (trimmed : value.Trimmed) :
    Token.attribute? ('[' :: ((name ++ operator ++ value) ++ [']'])) =
      some (.attribute name (some operator) (some value)) := by
  have starts : (operator ++ value).Leaves (fun found => !Token.endsAttributeName found) ∧
      (operator ++ value).Leaves isBlank := by
    simp only [operators, List.mem_cons, List.not_mem_nil, or_false] at known
    rcases known with rfl | rfl | rfl | rfl | rfl | rfl <;>
      exact ⟨Text.leaves_cons.mpr (by decide), Text.leaves_cons.mpr (by decide)⟩
  rw [List.append_assoc name, attribute?_name_append form starts.1 starts.2]
  simp only [operators, List.mem_cons, List.not_mem_nil, or_false] at known
  rcases known with rfl | rfl | rfl | rfl | rfl | rfl <;>
    simp [attributeAfter?, Text.trim_eq_of_trimmed trimmed]

/-- Behind the name stands nothing, or an operator and a value. -/
theorem of_attributeAfter? {name rest : Text} {part : Simple}
    (found : attributeAfter? name rest = some part) :
    part = .attribute name none none ∧ rest = [] ∨
      ∃ operator ∈ operators, ∃ value,
        part = .attribute name (some operator) (some (Text.trim value)) ∧
        rest = operator ++ value := by
  unfold attributeAfter? at found
  split at found
  · exact .inl ⟨(Option.some.inj found).symm, rfl⟩
  · rename_i value
    exact .inr ⟨['='], by decide, value, (Option.some.inj found).symm, rfl⟩
  · rename_i sign value _
    split at found
    · rename_i known
      exact .inr ⟨[sign, '='], by simpa [operators] using known, value,
        (Option.some.inj found).symm, rfl⟩
    · cases found
  · cases found

/-- The parts of an attribute selector, with the blanks between them. -/
theorem exists_of_attribute? {body : Text} {part : Simple}
    (found : Token.attribute? ('[' :: (body ++ [']'])) = some part) :
    ∃ name, IsAttributeName name ∧ ∃ first second, first.Blank ∧ second.Blank ∧
      (part = .attribute name none none ∧ body = first ++ name ++ second ∨
        ∃ operator ∈ operators, ∃ value,
          part = .attribute name (some operator) (some (Text.trim value)) ∧
          body = first ++ name ++ second ++ operator ++ value) := by
  rcases body.exists_blank_trimStart with ⟨first, firstBlank, bodySplit⟩
  rw [attribute?_brackets] at found
  simp only at found
  split at found
  · cases found
  · rename_i nonempty
    let name := body.trimStart.takeWhile fun found => !Token.endsAttributeName found
    let rest := body.trimStart.dropWhile fun found => !Token.endsAttributeName found
    have split : body.trimStart = name ++ rest := List.takeWhile_append_dropWhile.symm
    have form : IsAttributeName name := by
      refine ⟨nonempty, ?_⟩
      intro character member
      have inside := List.all_eq_true.mp List.all_takeWhile character member
      simpa using inside
    rcases Text.exists_blank_trimStart rest with ⟨second, secondBlank, restSplit⟩
    have whole : body = first ++ name ++ second ++ Text.trimStart rest := by
      rw [List.append_assoc, List.append_assoc, ← restSplit, ← split]
      exact bodySplit
    refine ⟨name, form, first, second, firstBlank, secondBlank, ?_⟩
    rcases of_attributeAfter? found with ⟨equal, ended⟩ | ⟨operator, known, value, equal, goesOn⟩
    · exact .inl ⟨equal, by rw [whole, ended, List.append_nil]⟩
    · exact .inr ⟨operator, known, value, equal, by rw [whole, goesOn, ← List.append_assoc]⟩

/-! ## The token of a simple selector -/

namespace Terminal

/-- The terminal that recognises the text of a simple selector. -/
def ofPart : Simple → Terminal
  | .any => .any
  | .type _ => .type
  | .className _ => .className
  | .id _ => .id
  | .attribute .. => .attribute
  | .pseudo .. => .pseudo
  | .function .. => .function

end Terminal

theorem splitColons_append {separator found : Text} (colons : IsColons separator)
    (form : NameFrom startsPseudo found) (tail : Text) :
    Token.splitColons (separator ++ (found ++ tail)) = (separator, found ++ tail) := by
  rcases colons with rfl | rfl
  · rcases form with ⟨first, others, rfl, start, -⟩
    have different : first ≠ ':' := by
      rintro rfl
      exact absurd start (by decide)
    simp only [List.cons_append, List.nil_append]
    unfold Token.splitColons
    split
    · rename_i equal
      exact absurd (List.cons.inj (List.cons.inj equal).2).1 different
    · rfl
  · rfl

theorem NameFrom.not_mem_opening {found : Text} (form : NameFrom startsPseudo found) :
    ∀ character ∈ found, (character ≠ '(') = true := by
  intro character member
  have continues := form.continues (fun _ => continuesName_of_startsPseudo) character member
  have different : character ≠ '(' := by
    rintro rfl
    exact absurd continues (by decide)
  simp [different]

theorem function_pieces {separator found : Text} (colons : IsColons separator)
    (form : NameFrom startsPseudo found) (argument : Text) :
    Token.function (separator ++ found ++ '(' :: (argument ++ [')'])) =
      .function separator found (Text.trim argument) := by
  have inside : ∀ character ∈ found, decide (character ≠ '(') = true := by
    intro character member
    simpa using NameFrom.not_mem_opening form character member
  have ends : Text.Leaves (fun found => decide (found ≠ '(')) ('(' :: (argument ++ [')'])) :=
    Text.leaves_cons.mpr (by decide)
  unfold Token.function
  rw [List.append_assoc, splitColons_append colons form]
  simp only [Text.takeWhile_append_of_leaves inside ends,
    Text.dropWhile_append_of_leaves inside ends, List.drop_one, List.tail_cons,
    List.dropLast_concat]

theorem pseudo_pieces {separator found : Text} (colons : IsColons separator)
    (form : NameFrom startsPseudo found) :
    Token.pseudo (separator ++ found) = .pseudo separator found := by
  have split := splitColons_append colons form []
  rw [List.append_nil] at split
  rw [Token.pseudo, split]

theorem ofTerminal_attribute {text : Text} {part : Simple}
    (read : Token.attribute? text = some part) :
    Token.ofTerminal .attribute text = .simple part := by
  simp [Token.ofTerminal, read]

/-- The text of a simple selector is recognised whole, as that selector. -/
theorem scan_render {part : Simple} (written : part.Written) {rest : Text}
    (apart : part.endsName = true → rest.Leaves goesOnName) :
    (Terminal.ofPart part).scanner.scan (part.render ++ rest) = some (part.render, rest) ∧
      Token.ofTerminal (.ofPart part) part.render = .simple part := by
  cases written with
  | any => exact ⟨Scanner.scan_literal_cons '*' rest, rfl⟩
  | type form => exact ⟨scan_nameFrom form (leaves_continuesName (apart rfl)), rfl⟩
  | className hyphens form =>
      exact ⟨scan_className hyphens form (leaves_continuesName (apart rfl)), rfl⟩
  | id form =>
      refine ⟨?_, rfl⟩
      change (scanner .id).scan _ = _
      rw [scanner_id, Scanner.scan_append_assoc]
      exact Scanner.scan_append (Scanner.scan_literal_cons '#' _)
        (scan_nameFrom form (leaves_continuesName (apart rfl)))
  | @bareBrackets name form whole =>
      have found := scan_brackets rest whole
      have read := attribute?_name_append form (Text.leaves_nil _) (Text.leaves_nil _)
      rw [List.append_nil] at read
      refine ⟨?_, ?_⟩
      · change (scanner .attribute).scan _ = _
        simpa [Simple.render] using found
      · exact ofTerminal_attribute read
  | @brackets name operator value form known trimmed whole =>
      have found := scan_brackets rest whole
      have read := attribute?_operator form known trimmed
      have text : (Simple.attribute name (some operator) (some value)).render =
          '[' :: ((name ++ operator ++ value) ++ [']']) := by
        simp [Simple.render]
      rw [text]
      refine ⟨?_, ?_⟩
      · change (scanner .attribute).scan _ = _
        simpa using found
      · exact ofTerminal_attribute read
  | pseudo colons form =>
      refine ⟨scan_pseudoScanner colons form (leaves_continuesName (apart rfl)), ?_⟩
      exact congrArg Token.simple (pseudo_pieces colons form)
  | @function separator name argument colons form _ trimmed whole =>
      have found := scan_function rest colons form whole
      have text : (Simple.function separator name argument).render =
          separator ++ name ++ '(' :: (argument ++ [')']) := by
        simp [Simple.render]
      rw [text]
      have read := function_pieces colons form argument
      rw [Text.trim_eq_of_trimmed trimmed] at read
      refine ⟨?_, congrArg Token.simple read⟩
      change (scanner .function).scan _ = _
      simpa using found

end ScopedMarkup.Css.Selector
