import ScopedMarkup.Proofs.Css.Sheet.Reading
import ScopedMarkup.Proofs.Css.Sheet.Recognition

/-! # Runs of reading a sheet

What reading a sheet comes to, piece by piece. Where the walk that checks the nesting
of blocks has come to is known at each of these points: outside quotes, and as deep as
there are open blocks.
-/

namespace ScopedMarkup.Css.Sheet

/-- Reading a sheet has come to this progress and has this text left. The terminal is
that of the last piece, which ends where the text begins. -/
inductive Reached (source : Text) : Option Terminal → Progress → Text → Prop where
  | start : Reached source none (.start source) source
  | piece {last : Option Terminal} {progress next : Progress} {text : Text}
      {found : Scanner.Match (Terminal × (Lexeme → Move))} :
      Reached source last progress text →
      Scanner.firstMatch? (fun candidate => candidate.1.scanner) (skipGap text)
        progress.awaited.candidates = some found →
      progress.advance? (skipGap text)
        (found.kind.2 ⟨found.piece, source.length - (skipGap text).length⟩) = some next →
      Reached source (some found.kind.1) next found.rest

section Runs

variable {source text : Text} {last : Option Terminal} {progress : Progress}
  {rules : List (Rule Lexeme)}

/-- Reading that succeeds either ends here or goes on behind a piece. -/
theorem rulesFrom_eq_ok_iff :
    rulesFrom source progress text = .ok rules ↔
      skipGap text = [] ∧ progress.complete = true ∧ progress.inside.rules = rules ∨
        ∃ found next, Scanner.firstMatch? (fun candidate => candidate.1.scanner) (skipGap text)
            progress.awaited.candidates = some found ∧
          progress.advance? (skipGap text)
            (found.kind.2 ⟨found.piece, source.length - (skipGap text).length⟩) = some next ∧
          rulesFrom source next found.rest = .ok rules := by
  constructor
  · intro read
    rw [rulesFrom.eq_def] at read
    simp only at read
    split at read
    · rename_i ended
      split at read
      · rename_i complete
        exact .inl ⟨ended, complete, Except.ok.inj read⟩
      · cases read
    · split at read
      · cases read
      · rename_i found matched
        split at read
        · cases read
        · rename_i next advanced
          exact .inr ⟨found, next, matched, advanced, read⟩
  · rintro (⟨ended, complete, rfl⟩ | ⟨found, next, matched, advanced, read⟩)
    · rw [rulesFrom.eq_def]
      simp only
      rw [if_pos ended, if_pos complete]
    · rw [rulesFrom_of_match matched advanced]
      exact read

/-- A piece that was recognised stands behind space. -/
theorem exists_of_match {found : Scanner.Match (Terminal × (Lexeme → Move))}
    (uncommented : Uncommented text)
    (matched : Scanner.firstMatch? (fun candidate => candidate.1.scanner) (skipGap text)
      progress.awaited.candidates = some found) :
    ∃ space, Space space ∧ text = space ++ (found.piece ++ found.rest) ∧
      progress.awaited.move? found.kind.1 = some found.kind.2 ∧
      found.kind.1.Recognises found.piece := by
  rcases of_firstMatch?_candidates matched with ⟨moved, recognises, split⟩
  rcases exists_space_skipGap uncommented with ⟨space, isSpace, equal⟩
  exact ⟨space, isSpace, by rw [split, ← equal], moved, recognises⟩

/-! ## Behind raw text -/

/-- Only a sign may come next. -/
def Awaited.AwaitsSign : Awaited → Prop
  | .block _ | .ruleEnd | .declarationEnd => True
  | _ => False

theorem Awaited.AwaitsSign.mem_signs {awaited : Awaited} {terminal : Terminal}
    {action : Lexeme → Move} (awaits : awaited.AwaitsSign)
    (moved : awaited.move? terminal = some action) : terminal ∈ Terminal.signs := by
  cases awaited with
  | block | ruleEnd | declarationEnd => cases terminal <;> first | decide | cases moved
  | _ => exact awaits.elim

theorem awaitsSign_of_raw {terminal : Terminal} {action : Lexeme → Move} {piece : Lexeme}
    {next : Progress} (raw : terminal = .prelude ∨ terminal = .value)
    (moved : progress.awaited.move? terminal = some action)
    (advanced : progress.advance? text (action piece) = some next) : next.awaited.AwaitsSign := by
  generalize progress.awaited = awaited at moved
  cases moves_of_move? moved with
  | stylePrelude | nameSpaceValue | condition | keyframesName | frameKey | pageSelector | value =>
      cases advanced
      trivial
  | _ => exact raw.elim (fun equal => nomatch equal) fun equal => nomatch equal

theorem ends_of_sign {terminal : Terminal} {piece : Text} (rest : Text)
    (isSign : terminal ∈ Terminal.signs) (recognises : terminal.Recognises piece) :
    rawSpan.Ends (piece ++ rest) := by
  match terminal, recognises with
  | .openBrace, rfl | .closeBrace, rfl | .semicolon, rfl =>
      exact ⟨_, rest, rfl, rfl, by decide, fun _ => by decide⟩
  | .prelude, _ | .value, _ | .keyframesKeyword, _ | .property, _ | .string, _
  | .documentKeyword, _ | .nameSpaceKeyword, _ | .fontFaceKeyword, _ | .supportsKeyword, _
  | .charsetKeyword, _ | .mediaKeyword, _ | .pageKeyword, _ | .colon, _ =>
      exact absurd isSign (by decide)

/-- Where only a sign may come next and no space stands, reading that succeeds finds a
sign. -/
theorem ends_of_rulesFrom (awaits : progress.awaited.AwaitsSign)
    (leaves : text.Leaves isSpace) (uncommented : Uncommented text)
    (read : rulesFrom source progress text = .ok rules) : rawSpan.Ends text := by
  rcases rulesFrom_eq_ok_iff.mp read with ⟨-, complete, -⟩ | ⟨found, next, matched, -, -⟩
  · have ruled : progress.awaited = .rule := of_decide_eq_true (Bool.and_eq_true .. ▸ complete).1
    rw [ruled] at awaits
    exact awaits.elim
  · rcases exists_of_match uncommented matched with ⟨space, isSpace, rfl, moved, recognises⟩
    have empty : space = [] := by
      cases space with
      | nil => rfl
      | cons first others =>
          have inside := List.all_eq_true.mp isSpace first List.mem_cons_self
          rw [List.cons_append, Text.leaves_cons, inside] at leaves
          cases leaves
    rw [empty]
    exact ends_of_sign found.rest (awaits.mem_signs moved) recognises

namespace Reached

/-- Reading comes behind a piece that stands next and is awaited. -/
theorem next {next : Progress} {terminal : Terminal} {action : Lexeme → Move} {piece rest : Text}
    (reached : Reached source last progress (piece ++ rest))
    (moved : progress.awaited.move? terminal = some action)
    (recognises : terminal.Recognises piece) (uncommented : Uncommented piece)
    (ends : terminal.Ends rest)
    (advanced : progress.advance? (piece ++ rest)
      (action ⟨piece, source.length - (piece ++ rest).length⟩) = some next) :
    Reached source (some terminal) next rest := by
  have matched := firstMatch?_candidates moved recognises (scan_of_recognises recognises ends)
  rw [← skipGap_piece recognises uncommented ends] at matched advanced
  exact reached.piece matched advanced

/-- Reading goes on from where it has come to. -/
theorem rulesFrom_eq (reached : Reached source last progress text) :
    rawRules source = rulesFrom source progress text := by
  induction reached with
  | start => rfl
  | piece _ matched advanced induction => rw [induction, rulesFrom_of_match matched advanced]

theorem suffix (reached : Reached source last progress text) : text <:+ source := by
  induction reached with
  | start => exact List.suffix_refl source
  | @piece _ _ _ front found _ matched _ induction =>
      have behind : found.rest <:+ skipGap front :=
        ⟨found.piece, Scanner.splits_of_firstMatch? matched⟩
      exact (behind.trans (skipGap_suffix front)).trans induction

/-- The invariant of a run: the check of blocks is outside quotes, and as deep as there
are open blocks. -/
theorem exists_walk {limit : Nat} (reached : Reached source last progress text)
    (uncommented : Uncommented source)
    (checked : (Brackets.curly.walk? limit none 0 source).isSome = true) :
    ∃ consumed, source = consumed ++ text ∧ progress.around.length ≤ limit ∧
      Brackets.curly.walk? limit none 0 consumed = some (none, ↑progress.around.length) := by
  induction reached with
  | start => exact ⟨[], rfl, Nat.zero_le limit, rfl⟩
  | @piece last progress next text found _ matched advanced induction =>
      rcases induction with ⟨consumed, equal, shallow, walked⟩
      have further : Uncommented text :=
        uncommented.of_infix (equal ▸ (List.suffix_append consumed text).isInfix)
      rcases exists_of_match further matched with ⟨space, isSpace, split, moved, recognises⟩
      have passes : Brackets.curly.walk? limit none progress.around.length space =
          some (none, ↑progress.around.length) := passes_space isSpace
      rw [equal, split, Brackets.walk?_append _ walked, Brackets.walk?_append _ passes] at checked
      rcases walk?_of_advance? moved recognises shallow advanced
        (Brackets.isSome_walk?_of_append checked) with ⟨stillShallow, walkedPiece⟩
      refine ⟨consumed ++ (space ++ found.piece), by simp [equal, split], stillShallow, ?_⟩
      rw [Brackets.walk?_append _ walked, Brackets.walk?_append _ passes, walkedPiece]

/-- In a run that succeeds, the text behind each piece ends it. -/
theorem ends {terminal : Terminal} (reached : Reached source (some terminal) progress text)
    (uncommented : Uncommented text) (read : rulesFrom source progress text = .ok rules) :
    terminal.Ends text := by
  cases reached with
  | @piece last before progress front found _ matched advanced =>
      have moved := (of_firstMatch?_candidates matched).1
      have scanned : found.kind.1.scanner.scan (skipGap front) = some (found.piece, found.rest) :=
        (Scanner.scan_of_firstMatch? matched).2.2
      cases kind : found.kind.1 with
      | prelude =>
          rw [kind] at moved scanned
          rw [Terminal.scanner_prelude] at scanned
          exact ends_of_rulesFrom (awaitsSign_of_raw (.inl rfl) moved advanced)
            (leaves_isSpace_of_scan_raw scanned) uncommented read
      | value =>
          rw [kind] at moved scanned
          rw [Terminal.scanner_value] at scanned
          exact ends_of_rulesFrom (awaitsSign_of_raw (.inr rfl) moved advanced)
            (leaves_isSpace_of_scan_raw scanned) uncommented read
      | property =>
          rw [kind] at scanned
          exact (of_scan_property scanned).2
      | _ => trivial

end Reached

end Runs

end ScopedMarkup.Css.Sheet
