import ScopedMarkup.Proofs.Css.Selector.Spelling

/-! # Tokens are recognised

Where a spelling of a token stands, the terminal of that token recognises it, and
every terminal that is tried before is refused.
-/

namespace ScopedMarkup.Css.Selector

open Terminal

/-! ## What is refused before a terminal -/

namespace Terminal

/-- The terminals that are tried before this one. -/
def earlier (terminal : Terminal) : List Terminal := all.takeWhile fun other => other ≠ terminal

/-- The terminal that recognises the spellings of a token. -/
def ofToken : Token → Terminal
  | .simple part => ofPart part
  | .malformed _ => .attribute
  | .combinator .descendant => .descendant
  | .combinator .child => .child
  | .combinator .adjacent => .adjacent
  | .combinator .sibling => .sibling
  | .comma => .comma
  | .negationOpen => .negationOpen
  | .negationClose => .negationClose

theorem isBlank_eq_false_of_sign? {terminal : Terminal} {sign : Char}
    (signed : terminal.sign? = some sign) : isBlank sign = false := by
  cases terminal <;> cases signed <;> decide

end Terminal

section Refusals

variable {terminal : Terminal} {sign first : Char} {before rest : Text}

/-- Before a character that is no blank, a terminal is refused if it neither
begins with that character as its sign nor with a name. -/
theorem scan_eq_none_of_nonblank (nonblank : isBlank first = false)
    (different : terminal.sign? ≠ some first)
    (unnamed : terminal = .type → startsName first = false) :
    terminal.scanner.scan (first :: rest) = none := by
  cases signed : terminal.sign? with
  | some sign =>
      refine scan_eq_none_of_ne_sign signed nonblank ?_
      rintro rfl
      exact different signed
  | none =>
      match terminal, signed with
      | .type, _ => exact scan_type_eq_none (Text.leaves_cons.mpr (unnamed rfl))
      | .descendant, _ =>
          exact Scanner.scan_append_eq_none
            (Scanner.scan_character_eq_none (Text.leaves_cons.mpr nonblank))

theorem leaves_sign_of_blank (signed : terminal.sign? = some sign) (blank : isBlank first = true) :
    Text.Leaves (· = sign) (first :: rest) := by
  rw [Text.leaves_cons, decide_eq_false_iff_not]
  rintro rfl
  rw [isBlank_eq_false_of_sign? signed] at blank
  simp at blank

/-- After any blanks, a terminal is refused before something else than its sign. -/
theorem scan_eq_none_of_blank (signed : terminal.sign? = some sign) (blank : before.Blank)
    (nonblank : isBlank first = false) (different : first ≠ sign) :
    terminal.scanner.scan (before ++ first :: rest) = none := by
  cases before with
  | nil => exact scan_eq_none_of_ne_sign signed nonblank different
  | cons character before =>
      cases padded : terminal.isPadded with
      | true => exact scan_eq_none_of_padded signed padded blank nonblank different
      | false =>
          exact scan_eq_none_of_leaves_sign signed padded
            (leaves_sign_of_blank signed (blank character List.mem_cons_self))

end Refusals

/-! ## Names of pseudos -/

/-- Where a name ends, a negation opens only if the name is the word for it and a
parenthesis follows. -/
theorem scan_negationOpen_eq_none {separator name rest : Text} (colons : IsColons separator)
    (form : NameFrom startsPseudo name) (leaves : rest.Leaves continuesName)
    (noNegation : rest.Leaves (· = '(') ∨ ¬ ReadsAsNegation separator name) :
    (scanner .negationOpen).scan (separator ++ name ++ rest) = none := by
  cases scanned : (scanner .negationOpen).scan (separator ++ name ++ rest) with
  | none => rfl
  | some found =>
      rcases found with ⟨piece, following⟩
      have equal := (scanner .negationOpen).splits scanned
      rcases exists_of_scan_negationOpen scanned with ⟨word, blanks, rfl, negation, -, -⟩
      have letters := continuesName_of_negation negation
      have stops : Text.Leaves continuesName ('(' :: (blanks ++ following)) :=
        Text.leaves_cons.mpr (by decide)
      have continuing := form.continues fun _ => continuesName_of_startsPseudo
      rcases colons with rfl | rfl
      · have split : word ++ '(' :: (blanks ++ following) = name ++ rest := by
          simpa using equal
        have sameName := congrArg (List.takeWhile continuesName) split
        rw [Text.takeWhile_append_of_leaves letters stops,
          Text.takeWhile_append_of_leaves continuing leaves] at sameName
        rw [sameName, List.append_cancel_left_eq] at split
        rcases noNegation with unopened | noNegation
        · rw [← split] at unopened
          simpa using Text.leaves_cons.mp unopened
        · exact absurd ⟨rfl, sameName ▸ negation⟩ noNegation
      · -- A second colon is no letter.
        cases word with
        | nil => simp at negation
        | cons first word =>
            have same : first = ':' := by
              simp only [List.cons_append, List.nil_append, List.cons.injEq] at equal
              exact equal.2.1
            exact absurd (letters first List.mem_cons_self) (by rw [same]; decide)

theorem scan_function_eq_none {separator name rest : Text} (colons : IsColons separator)
    (form : NameFrom startsPseudo name) (leaves : rest.Leaves goesOnName) :
    (scanner .function).scan (separator ++ name ++ rest) = none := by
  have named := scan_pseudoScanner colons form (leaves_continuesName leaves)
  have refused : (Scanner.literal ['(']).scan rest = none :=
    Scanner.scan_literal_eq_none (leaves_opening leaves)
  rw [scanner_function]
  exact Scanner.scan_append_eq_none (Scanner.scan_append_eq_none
    (Scanner.scan_append_eq_none_of_second named refused))

/-! ## Each token is recognised -/

/-- The token's own terminal recognises the piece, and no earlier one anything. -/
structure Recognised (token : Token) (piece rest : Text) : Prop where
  scanned : (Terminal.ofToken token).scanner.scan (piece ++ rest) = some (piece, rest)
  made : Token.ofTerminal (.ofToken token) piece = token
  refused : ∀ other ∈ (Terminal.ofToken token).earlier, other.scanner.scan (piece ++ rest) = none

/-- The part's text begins with a sign of its own, and refuses what comes before
the terminal with that sign. -/
theorem refused_of_sign (terminal : Terminal) (first : Char) {text : Text}
    (nonblank : isBlank first = false)
    (different : ∀ other ∈ terminal.earlier, other.sign? ≠ some first ∧
      (other = .type → startsName first = false)) :
    ∀ other ∈ terminal.earlier, other.scanner.scan (first :: text) = none :=
  fun other member => scan_eq_none_of_nonblank nonblank (different other member).1
    (different other member).2

theorem refused_of_colon {terminal : Terminal} {separator name rest : Text}
    (colons : IsColons separator)
    (colonless : terminal ≠ .negationOpen ∧ terminal ≠ .function ∧ terminal ≠ .pseudo) :
    terminal.scanner.scan (separator ++ name ++ rest) = none := by
  have unsigned : terminal.sign? ≠ some ':' := by
    cases terminal <;> simp_all [sign?]
  rcases colons with rfl | rfl
  · exact scan_eq_none_of_nonblank (by decide) unsigned fun _ => by decide
  · exact scan_eq_none_of_nonblank (by decide) unsigned fun _ => by decide

theorem refused_of_part {part : Simple} (written : part.Written) {rest : Text}
    (apart : part.endsName = true → rest.Leaves goesOnName) :
    ∀ other ∈ (Terminal.ofPart part).earlier, other.scanner.scan (part.render ++ rest) = none := by
  cases written with
  | any => exact refused_of_sign .any '*' (by decide) (by decide)
  | type form =>
      rcases form with ⟨first, others, rfl, start, -⟩
      have unsigned : ∀ other ∈ Terminal.type.earlier,
          other.sign?.all (fun sign => !startsName sign) = true ∧ other ≠ .type := by decide
      refine refused_of_sign .type first (isBlank_eq_false_of_startsName start) ?_
      intro other member
      refine ⟨fun signed => ?_, fun equal => absurd equal (unsigned other member).2⟩
      have unlike := (unsigned other member).1
      rw [signed, Option.all_some, start] at unlike
      simp at unlike
  | className => exact refused_of_sign .className '.' (by decide) (by decide)
  | id => exact refused_of_sign .id '#' (by decide) (by decide)
  | bareBrackets | brackets =>
      exact refused_of_sign .attribute '[' (by decide) (by decide)
  | @pseudo separator name colons form =>
      have leaves := apart rfl
      intro other member
      by_cases negation : other = .negationOpen
      · rw [negation]
        exact scan_negationOpen_eq_none colons form (leaves_continuesName leaves)
          (.inl (leaves_opening leaves))
      · by_cases function : other = .function
        · rw [function]
          exact scan_function_eq_none colons form leaves
        · refine refused_of_colon colons ⟨negation, function, ?_⟩
          rintro rfl
          have absent : Terminal.pseudo ∉ Terminal.pseudo.earlier := by decide
          exact absent member
  | @function separator name argument colons form noNegation _ whole =>
      intro other member
      have negation : other = .negationOpen := by
        have only : ∀ other ∈ Terminal.function.earlier, other = .negationOpen := by decide
        exact only other member
      have leaves : Text.Leaves continuesName ('(' :: (argument ++ ')' :: rest)) :=
        Text.leaves_cons.mpr (by decide)
      have refused := scan_negationOpen_eq_none colons form leaves (.inr noNegation)
      rw [negation]
      simpa [Simple.render] using refused

theorem recognised_simple {part : Simple} (written : part.Written) {rest : Text}
    (apart : part.endsName = true → rest.Leaves goesOnName) :
    Recognised (.simple part) part.render rest :=
  ⟨(scan_render written apart).1, (scan_render written apart).2, refused_of_part written apart⟩

theorem leaves_isBlank_of_beginsWithPart {rest : Text} (begins : BeginsWithPart rest) :
    rest.Leaves isBlank := by
  rcases begins with ⟨first, others, rfl, begins⟩
  exact Text.leaves_cons.mpr (isBlank_eq_false_of_beginsPart begins)

theorem scan_padded {sign : Char} {piece rest : Text} (spells : SpellsSign sign piece)
    (nonblank : isBlank sign = false) (leaves : rest.Leaves isBlank) :
    (padded sign).scan (piece ++ rest) = some (piece, rest) := by
  rcases spells with ⟨before, after, rfl, blankBefore, blankAfter⟩
  have started := scan_blanks (after ++ rest) blankBefore nonblank
  have signed := Scanner.scan_append started (Scanner.scan_literal_cons sign (after ++ rest))
  have padded := Scanner.scan_append signed (Scanner.scan_run blankAfter leaves)
  rw [List.append_assoc, List.singleton_append] at padded
  rw [List.append_assoc, List.cons_append]
  exact padded

/-- Before a sign, with or without blanks, the terminals of other signs are refused. -/
theorem refused_of_spellsSign (terminal : Terminal) {sign : Char} {piece rest : Text}
    (spells : SpellsSign sign piece) (nonblank : isBlank sign = false)
    (different : ∀ other ∈ terminal.earlier, other.sign?.isSome = true ∧ other.sign? ≠ some sign) :
    ∀ other ∈ terminal.earlier, other.scanner.scan (piece ++ rest) = none := by
  rcases spells with ⟨before, after, rfl, blankBefore, -⟩
  intro other member
  rcases different other member with ⟨signed, otherSign⟩
  rcases Option.isSome_iff_exists.mp signed with ⟨found, equal⟩
  rw [List.append_assoc, List.cons_append]
  refine scan_eq_none_of_blank equal blankBefore nonblank ?_
  rintro rfl
  exact otherSign equal

theorem recognised_descendant {piece rest : Text} (blank : piece.Blank) (nonempty : piece ≠ [])
    (begins : BeginsWithPart rest) : Recognised (.combinator .descendant) piece rest := by
  have leaves := leaves_isBlank_of_beginsWithPart begins
  rcases begins with ⟨following, others, rfl, begins⟩
  cases piece with
  | nil => exact absurd rfl nonempty
  | cons first piece =>
      have firstBlank := blank first List.mem_cons_self
      have further : Text.Blank piece := fun character member =>
        blank character (List.mem_cons_of_mem _ member)
      refine ⟨?_, rfl, ?_⟩
      · refine Scanner.scan_append_cons ?_ (Scanner.scan_run further leaves)
        rw [List.cons_append, Scanner.scan_character_cons, if_pos firstBlank]
      · have signs : ∀ other ∈ Terminal.descendant.earlier, (other = .type ∨
            other.sign?.isSome = true) ∧
            (other.isPadded = true → other.sign?.all (fun sign => !beginsPart sign) = true) := by
          decide
        intro other member
        rcases signs other member with ⟨rfl | signed, unlike⟩
        · refine scan_type_eq_none (Text.leaves_cons.mpr ?_)
          cases starts : startsName first with
          | false => rfl
          | true =>
              rw [isBlank_eq_false_of_startsName starts] at firstBlank
              simp at firstBlank
        · rcases Option.isSome_iff_exists.mp signed with ⟨sign, signed⟩
          cases padded : other.isPadded with
          | true =>
              refine scan_eq_none_of_padded signed padded blank (Text.leaves_cons.mp leaves) ?_
              rintro rfl
              have different := unlike padded
              rw [signed, Option.all_some, begins] at different
              simp at different
          | false =>
              exact scan_eq_none_of_leaves_sign signed padded
                (leaves_sign_of_blank signed firstBlank)

theorem recognised_combinator {combinator : Combinator} {piece rest : Text}
    (spells : Spells (.combinator combinator) piece) (begins : BeginsWithPart rest) :
    Recognised (.combinator combinator) piece rest := by
  have leaves := leaves_isBlank_of_beginsWithPart begins
  cases combinator with
  | descendant => exact recognised_descendant spells.1 spells.2 begins
  | child =>
      exact ⟨scan_padded spells (by decide) leaves, rfl,
        refused_of_spellsSign .child spells (by decide) (by decide)⟩
  | adjacent =>
      exact ⟨scan_padded spells (by decide) leaves, rfl,
        refused_of_spellsSign .adjacent spells (by decide) (by decide)⟩
  | sibling =>
      exact ⟨scan_padded spells (by decide) leaves, rfl,
        refused_of_spellsSign .sibling spells (by decide) (by decide)⟩

theorem recognised_comma {piece rest : Text} (spells : Spells .comma piece)
    (begins : BeginsWithPart rest) : Recognised .comma piece rest :=
  ⟨scan_padded spells (by decide) (leaves_isBlank_of_beginsWithPart begins), rfl,
    refused_of_spellsSign .comma spells (by decide) (by decide)⟩

theorem recognised_negationOpen {piece rest : Text} (spells : Spells .negationOpen piece)
    (begins : BeginsWithPart rest) : Recognised .negationOpen piece rest := by
  rcases spells with ⟨blanks, rfl, blank⟩
  have word : ['n', 'o', 't'].map Char.toLower = ['n', 'o', 't'] := by decide
  have scanned := scan_negationOpen word blank (leaves_isBlank_of_beginsWithPart begins)
  refine ⟨scanned, rfl, ?_⟩
  have nothing : Terminal.negationOpen.earlier = [] := by decide
  intro other member
  change other ∈ Terminal.negationOpen.earlier at member
  rw [nothing] at member
  exact absurd member List.not_mem_nil

theorem recognised_negationClose {piece : Text} (rest : Text)
    (spells : Spells .negationClose piece) : Recognised .negationClose piece rest := by
  rcases spells with ⟨blanks, rfl, blank⟩
  have spellsSign : SpellsSign ')' (blanks ++ [')']) := ⟨blanks, [], rfl, blank, Text.blank_nil⟩
  refine ⟨?_, rfl, refused_of_spellsSign .negationClose spellsSign (by decide) (by decide)⟩
  have nonblank : isBlank ')' = false := by decide
  have started := scan_blanks rest blank nonblank
  have closed := Scanner.scan_append started (Scanner.scan_literal_cons ')' rest)
  rw [List.append_assoc]
  exact closed

end ScopedMarkup.Css.Selector
