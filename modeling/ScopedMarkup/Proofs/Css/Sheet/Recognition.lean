import ScopedMarkup.Proofs.Css.Sheet.Move
import ScopedMarkup.Proofs.Css.Sheet.Terminal

/-! # Steps of reading a sheet

When a piece stands next and is awaited, reading goes on behind it. The steps are
put together from the end of a text to its start: each says that a text is read
when what follows its first piece is.
-/

namespace ScopedMarkup.Css.Sheet

/-- Unless it opens a comment, the text is read from here on, and the rules of the
sheet are then these. -/
def Reads (source : Text) (awaited : Awaited) (around : List (Head × Body)) (inside : Body)
    (text : Text) (rules : List (Rule Lexeme)) : Prop :=
  Uncommented text →
    ∀ lastPiece, rulesFrom source ⟨awaited, around, inside, lastPiece⟩ text = .ok rules

section Steps

variable {source : Text} {awaited next : Awaited} {around : List (Head × Body)}
  {inside reached : Body} {rules : List (Rule Lexeme)} {space piece rest text : Text}
  {terminal : Terminal} {action : Lexeme → Move}

/-! ## One step -/

/-- Reading depends only on what follows the gap. -/
theorem rulesFrom_congr {progress : Progress} {left right : Text}
    (equal : skipGap left = skipGap right) :
    rulesFrom source progress left = rulesFrom source progress right := by
  rw [rulesFrom.eq_def source progress left, rulesFrom.eq_def source progress right]
  generalize skipGap left = remaining at equal ⊢
  subst equal
  rfl

theorem Reads.gap (gap : Space space)
    (reads : Reads source awaited around inside text rules) :
    Reads source awaited around inside (space ++ text) rules := by
  intro uncommented lastPiece
  have further := uncommented.of_infix (List.suffix_append space text).isInfix
  have equal : skipGap (space ++ text) = skipGap text := by
    rw [skipGap_eq_dropWhile uncommented, skipGap_eq_dropWhile further,
      List.dropWhile_append_of_pos (List.all_eq_true.mp gap)]
  rw [rulesFrom_congr equal]
  exact reads further lastPiece

/-- A sheet may end where no block is open. -/
theorem reads_nil : Reads source .rule [] inside [] inside.rules := by
  intro uncommented lastPiece
  have skipped : skipGap [] = [] := skipGap_eq_dropWhile uncommented
  rw [rulesFrom.eq_def]
  simp [skipped, Progress.complete]

theorem rulesFrom_of_match {progress next : Progress} {text : Text}
    {found : Scanner.Match (Terminal × (Lexeme → Move))}
    (matched : Scanner.firstMatch? (fun candidate => candidate.1.scanner) (skipGap text)
      progress.awaited.candidates = some found)
    (advanced : progress.advance? (skipGap text)
      (found.kind.2 ⟨found.piece, source.length - (skipGap text).length⟩) = some next) :
    rulesFrom source progress text = rulesFrom source next found.rest := by
  have nonempty : skipGap text ≠ [] := by
    intro empty
    have shorter := Scanner.rest_length_lt_of_firstMatch? matched
    simp [empty] at shorter
  rw [rulesFrom.eq_def]
  simp only
  rw [if_neg nonempty]
  split
  · rename_i none
    rw [matched] at none
    cases none
  · rename_i other same
    rw [matched] at same
    cases same
    rw [advanced]

/-! ## What is tried before a piece -/

/-- The signs of blocks and declarations begin nothing else. -/
theorem scan_sign_eq_none {sign : Char} (isSign : sign ∈ ['{', '}', ';'])
    (different : terminal ∉ Terminal.signs) : terminal.scanner.scan (sign :: rest) = none := by
  simp only [List.mem_cons, List.not_mem_nil, or_false] at isSign
  cases terminal with
  | prelude =>
      rw [Terminal.scanner_prelude]
      rcases isSign with rfl | rfl | rfl
      all_goals exact scan_raw_eq_none rfl (by decide) (by decide)
  | value =>
      rw [Terminal.scanner_value]
      rcases isSign with rfl | rfl | rfl
      all_goals exact scan_raw_eq_none rfl (by decide) (by decide)
  | openBrace | closeBrace | semicolon => exact absurd (by decide) different
  | _ => rcases isSign with rfl | rfl | rfl <;> rfl

theorem refused_of_sign (isSign : terminal ∈ Terminal.signs)
    (recognises : terminal.Recognises piece) (rest : Text) {other : Terminal}
    (earlier : other ∈ Terminal.all.takeWhile fun other => other ≠ terminal) :
    other.scanner.scan (piece ++ rest) = none := by
  match terminal, recognises with
  | .openBrace, rfl =>
      cases other with
      | openBrace | closeBrace | semicolon => exact absurd earlier (by decide)
      | _ => exact scan_sign_eq_none (by simp) (by decide)
  | .closeBrace, rfl =>
      cases other with
      | openBrace => rfl
      | closeBrace | semicolon => exact absurd earlier (by decide)
      | _ => exact scan_sign_eq_none (by simp) (by decide)
  | .semicolon, rfl =>
      cases other with
      | openBrace | closeBrace => rfl
      | semicolon => exact absurd earlier (by decide)
      | _ => exact scan_sign_eq_none (by simp) (by decide)
  | .prelude, _ | .value, _ | .keyframesKeyword, _ | .property, _ | .string, _
  | .documentKeyword, _ | .nameSpaceKeyword, _ | .fontFaceKeyword, _ | .supportsKeyword, _
  | .charsetKeyword, _ | .mediaKeyword, _ | .pageKeyword, _ | .colon, _ =>
      exact absurd isSign (by decide)

/-- No two keywords begin alike. -/
theorem scan_other_keyword_eq_none {other : Terminal} (keyword : terminal ∈ Terminal.keywords)
    (recognises : terminal.Recognises piece) (rest : Text)
    (earlier : other ∈ Terminal.keywords.takeWhile fun other => other ≠ terminal) :
    other.scanner.scan (piece ++ rest) = none := by
  match terminal, recognises with
  | .keyframesKeyword, _ => exact absurd earlier List.not_mem_nil
  | .documentKeyword, recognises =>
      rcases recognises with rfl | rfl
      · cases other <;> first | rfl | exact absurd earlier (by decide)
      · cases other <;> first | rfl | exact absurd earlier (by decide)
  | .nameSpaceKeyword, rfl | .fontFaceKeyword, rfl | .supportsKeyword, rfl
  | .charsetKeyword, rfl | .mediaKeyword, rfl | .pageKeyword, rfl =>
      cases other <;> first | rfl | exact absurd earlier (by decide)
  | .prelude, _ | .value, _ | .property, _ | .string, _ | .colon, _ | .openBrace, _
  | .closeBrace, _ | .semicolon, _ => exact absurd keyword (by decide)

/-- Where a rule may begin, a prelude and the keywords before it are tried before a
keyword. -/
theorem eq_prelude_or_mem_keywords {other : Terminal} (keyword : terminal ∈ Terminal.keywords)
    (earlier : other ∈ Terminal.all.takeWhile fun other => other ≠ terminal)
    (allowed : Awaited.rule.move? other ≠ none) :
    other = .prelude ∨ other ∈ Terminal.keywords.takeWhile fun other => other ≠ terminal := by
  cases terminal <;> first
    | exact absurd keyword (by decide)
    | cases other <;> first
        | exact .inl rfl
        | exact .inr (by decide)
        | exact absurd earlier (by decide)
        | exact absurd rfl allowed

theorem refused_of_keyword (keyword : terminal ∈ Terminal.keywords)
    (recognises : terminal.Recognises piece) (rest : Text) {other : Terminal}
    (earlier : other ∈ Terminal.all.takeWhile fun other => other ≠ terminal)
    (allowed : Awaited.rule.move? other ≠ none) :
    other.scanner.scan (piece ++ rest) = none := by
  rcases eq_prelude_or_mem_keywords keyword earlier allowed with rfl | another
  · rcases exists_at_of_keyword keyword recognises with ⟨name, rfl⟩
    rw [Terminal.scanner_prelude]
    exact scan_raw_eq_none rfl (by decide) (by decide)
  · exact scan_other_keyword_eq_none keyword recognises rest another

theorem rule_of_keyword (keyword : terminal ∈ Terminal.keywords)
    (moved : awaited.move? terminal = some action) : awaited = .rule := by
  cases moves_of_move? moved
  all_goals first | rfl | exact absurd keyword (by decide)

/-- Where a piece other than a keyword or a sign may come next, nothing is tried
before it. -/
theorem move?_eq_none_of_earlier {other : Terminal} (keyword : terminal ∉ Terminal.keywords)
    (sign : terminal ∉ Terminal.signs) (moved : awaited.move? terminal = some action)
    (earlier : other ∈ Terminal.all.takeWhile fun other => other ≠ terminal) :
    awaited.move? other = none := by
  cases moves_of_move? moved
  all_goals first
    | exact absurd (by decide) keyword
    | exact absurd (by decide) sign
    | cases other <;> first | rfl | exact absurd earlier (by decide)

/-- Where a piece is awaited, the terminals that are tried before its own recognise
nothing. -/
theorem refused_of_recognises (moved : awaited.move? terminal = some action)
    (recognises : terminal.Recognises piece) (rest : Text) :
    ∀ other ∈ Terminal.all.takeWhile fun other => other ≠ terminal,
      awaited.move? other ≠ none → other.scanner.scan (piece ++ rest) = none := by
  intro other earlier allowed
  by_cases keyword : terminal ∈ Terminal.keywords
  · cases rule_of_keyword keyword moved
    exact refused_of_keyword keyword recognises rest earlier allowed
  · by_cases sign : terminal ∈ Terminal.signs
    · exact refused_of_sign sign recognises rest earlier
    · exact absurd (move?_eq_none_of_earlier keyword sign moved earlier) allowed

/-- The candidate of a terminal matches where its piece stands. -/
theorem firstMatch?_candidates (moved : awaited.move? terminal = some action)
    (recognises : terminal.Recognises piece)
    (scanned : terminal.scanner.scan (piece ++ rest) = some (piece, rest)) :
    Scanner.firstMatch? (fun candidate => candidate.1.scanner) (piece ++ rest)
      awaited.candidates = some ⟨(terminal, action), piece, rest⟩ := by
  have member : terminal ∈ Terminal.all := by cases terminal <;> decide
  rcases Scanner.exists_split_takeWhile member with ⟨after, split⟩
  rw [Awaited.candidates, split, List.filterMap_append, List.filterMap_cons, moved]
  refine Scanner.firstMatch?_eq_some ?_ scanned (ne_nil_of_recognises recognises)
  intro candidate inside
  rcases List.mem_filterMap.mp inside with ⟨other, earlier, found⟩
  rcases Option.map_eq_some_iff.mp found with ⟨move, allowed, rfl⟩
  exact refused_of_recognises moved recognises rest other earlier (by simp [allowed])

/-! ## Steps -/

/-- A piece that stands next and is awaited leads on to what follows it. -/
theorem rulesFrom_of_recognises {progress next : Progress}
    (moved : progress.awaited.move? terminal = some action)
    (recognises : terminal.Recognises piece) (uncommented : Uncommented piece)
    (ends : terminal.Ends rest)
    (advanced : progress.advance? (piece ++ rest)
      (action ⟨piece, source.length - (piece ++ rest).length⟩) = some next) :
    rulesFrom source progress (piece ++ rest) = rulesFrom source next rest := by
  have stands := skipGap_piece recognises uncommented ends
  have matched := firstMatch?_candidates moved recognises (scan_of_recognises recognises ends)
  rw [← stands] at matched advanced
  exact rulesFrom_of_match matched advanced

theorem Reads.step {around' : List (Head × Body)}
    (moved : awaited.move? terminal = some action) (recognises : terminal.Recognises piece)
    (ends : terminal.Ends rest)
    (advanced : Uncommented piece → ∀ lastPiece,
      Progress.advance? ⟨awaited, around, inside, lastPiece⟩ (piece ++ rest)
        (action ⟨piece, source.length - (piece ++ rest).length⟩) =
          some ⟨next, around', reached, piece ++ rest⟩)
    (reads : Reads source next around' reached rest rules) :
    Reads source awaited around inside (piece ++ rest) rules := by
  intro uncommented lastPiece
  have own := uncommented.of_infix (List.prefix_append piece rest).isInfix
  rw [rulesFrom_of_recognises moved recognises own ends (advanced own lastPiece)]
  exact reads (uncommented.of_infix (List.suffix_append piece rest).isInfix) _

theorem Reads.openBrace {head : Head}
    (moved : awaited.move? .openBrace = some fun _ => .enter head)
    (reads : Reads source head.inside ((head, inside) :: around) .empty rest rules) :
    Reads source awaited around inside ('{' :: rest) rules := by
  have recognises : Terminal.openBrace.Recognises ['{'] := rfl
  exact Reads.step moved recognises trivial (fun _ _ => rfl) reads

theorem Reads.closeBrace {head : Head} {body : Body}
    (moved : awaited.move? .closeBrace = some fun _ => .leave)
    (reads : Reads source (Progress.resumed around) around (body.addBlock head inside) rest rules) :
    Reads source awaited ((head, body) :: around) inside ('}' :: rest) rules := by
  have recognises : Terminal.closeBrace.Recognises ['}'] := rfl
  exact Reads.step moved recognises trivial (fun _ _ => rfl) reads

theorem Reads.semicolon (moved : awaited.move? .semicolon = some fun _ => .await next)
    (reads : Reads source next around inside rest rules) :
    Reads source awaited around inside (';' :: rest) rules := by
  have recognises : Terminal.semicolon.Recognises [';'] := rfl
  exact Reads.step moved recognises trivial (fun _ _ => rfl) reads

/-- A prelude, with the blanks behind it, is read up to its block or semicolon. -/
theorem Reads.prelude {prelude blanks : Text} {around' : List (Head × Body)}
    (moved : awaited.move? .prelude = some action) (form : IsPrelude prelude)
    (blank : blanks.Blank) (ends : rawSpan.Ends rest)
    (advanced : Uncommented (prelude ++ blanks) → ∀ lastPiece,
      Progress.advance? ⟨awaited, around, inside, lastPiece⟩ (prelude ++ blanks ++ rest)
        (action ⟨prelude ++ blanks, source.length - (prelude ++ blanks ++ rest).length⟩) =
          some ⟨next, around', reached, prelude ++ blanks ++ rest⟩)
    (reads : Reads source next around' reached rest rules) :
    Reads source awaited around inside (prelude ++ blanks ++ rest) rules := by
  have same : skeleton prelude = skeleton (prelude ++ blanks) := by
    rw [skeleton_append, skeleton_blank blank, List.append_nil]
  have recognises : Terminal.prelude.Recognises (prelude ++ blanks) :=
    ⟨form.begins.append blanks, (rawSpan_whole_iff same).mp form.whole⟩
  exact Reads.step moved recognises ends advanced reads

/-- Trimming takes the blanks behind a prelude away. -/
theorem clean_prelude {prelude blanks : Text} (form : IsPrelude prelude) (blank : blanks.Blank)
    (uncommented : Uncommented (prelude ++ blanks)) : clean (prelude ++ blanks) = prelude := by
  rw [uncommented.clean]
  simpa using Text.trim_pad Text.blank_nil form.trimmed blank

theorem Reads.keyword (keyword : terminal ∈ Terminal.keywords)
    (recognises : terminal.Recognises piece) (moved : Awaited.rule.move? terminal = some action)
    (awaits : ∀ index, action ⟨piece, index⟩ = .await next)
    (reads : Reads source next around inside rest rules) :
    Reads source .rule around inside (piece ++ rest) rules := by
  have ends : terminal.Ends rest := by
    cases terminal <;> trivial
  exact Reads.step moved recognises ends (fun _ _ => by rw [awaits]; rfl) reads

theorem Reads.property (form : IsProperty piece) (leaves : rest.Leaves continuesName)
    (reads : Reads source (.colon piece) around inside rest rules) :
    Reads source .declaration around inside (piece ++ rest) rules := by
  have recognises : Terminal.property.Recognises piece := form
  exact Reads.step rfl recognises leaves (fun _ _ => rfl) reads

theorem Reads.colon {name : Text} (reads : Reads source (.value name) around inside rest rules) :
    Reads source (.colon name) around inside (':' :: rest) rules := by
  have recognises : Terminal.colon.Recognises [':'] := rfl
  exact Reads.step rfl recognises trivial (fun _ _ => rfl) reads

theorem Reads.value {name value : Text} (form : IsValue value) (ends : rawSpan.Ends rest)
    (reads : Reads source .declarationEnd around (inside.addDeclaration ⟨name, value⟩) rest rules) :
    Reads source (.value name) around inside (value ++ rest) rules := by
  have recognises : Terminal.value.Recognises value := ⟨form.begins, form.whole⟩
  refine Reads.step rfl recognises ends (fun _ _ => ?_) reads
  change some _ = _
  rw [Text.trim_eq_of_trimmed form.trimmed]

theorem Reads.string (form : IsString piece)
    (reads : Reads source .ruleEnd around (inside.addRule (.charset piece)) rest rules) :
    Reads source .charsetValue around inside (piece ++ rest) rules := by
  have recognises : Terminal.string.Recognises piece := form
  exact Reads.step rfl recognises trivial (fun _ _ => rfl) reads

end Steps

end ScopedMarkup.Css.Sheet
