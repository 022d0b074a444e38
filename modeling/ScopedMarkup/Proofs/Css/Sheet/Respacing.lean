import ScopedMarkup.Proofs.Css.Sheet.Gap
import ScopedMarkup.Proofs.Css.Sheet.Unplaced

/-! # Sheets with other gaps

Space and comments between the pieces of a sheet make no difference. Two readers have to
pass over them alike: the check of blocks, which knows comments anywhere outside quotes,
and the reader of pieces, which skips them only where a piece may begin.
-/

namespace ScopedMarkup.Css

namespace Sheet

/-! ## Other text behind pieces -/

/-- What ends a piece does so by its first character. -/
theorem Terminal.Ends.of_cons {terminal : Terminal} {first : Char} {rest rest' : Text}
    (ends : terminal.Ends (first :: rest)) : terminal.Ends (first :: rest') := by
  have raw (ended : rawSpan.Ends (first :: rest)) : rawSpan.Ends (first :: rest') := by
    rcases ended with ⟨sign, more, equal, closes⟩
    rw [← (List.cons.inj equal).1] at closes
    exact ⟨first, rest', rfl, closes⟩
  cases terminal with
  | prelude | value => exact raw ends
  | property => exact Text.leaves_cons.mpr (Text.leaves_cons.mp ends)
  | _ => trivial

/-- What ends a piece still does with a gap before it, unless the piece is raw text. -/
theorem ends_gap_append {terminal : Terminal} {gap rest : Text} (isGap : IsGap gap)
    (ends : terminal.Ends rest) (notRaw : terminal ≠ .prelude ∧ terminal ≠ .value) :
    terminal.Ends (gap ++ rest) := by
  cases terminal with
  | prelude => exact absurd rfl notRaw.1
  | value => exact absurd rfl notRaw.2
  | property => exact isGap.leaves_continuesName ends
  | _ => trivial

/-- With another text from some point on, reading comes to the same points before it. At
the point itself, the other text has to end the last piece. -/
theorem Reached.exists_replace {source left right right' text : Text} {last : Option Terminal}
    {progress : Progress} {rules : List (Rule Lexeme)}
    (reached : Reached source last progress text) (split : source = left ++ right)
    (uncommented : Uncommented source) (read : rawRules source = .ok rules) :
    ∀ front, text = front ++ right →
      (front = [] → ∀ terminal, last = some terminal → terminal.Ends right') →
        ∃ progress', progress'.unplaced = progress.unplaced ∧
          rawRules (left ++ right') = rulesFrom (left ++ right') progress' (front ++ right') := by
  induction reached with
  | start =>
      intro front equal _
      rw [List.append_cancel_right (split.symm.trans equal)]
      exact ⟨.start (front ++ right'), rfl, rfl⟩
  | @piece last progress next text found before matched advanced induction =>
      intro front equal ends
      have further : Uncommented text := uncommented.of_infix before.suffix.isInfix
      have reached := before.piece matched advanced
      rcases exists_of_match further matched with ⟨space, isSpace, stands, moved, recognises⟩
      have own : Uncommented found.piece :=
        further.of_infix ⟨space, found.rest, by rw [stands, List.append_assoc]⟩
      have ends : found.kind.1.Ends (front ++ right') := by
        cases front with
        | nil => exact ends rfl _ rfl
        | cons first front =>
            have ended := reached.ends (uncommented.of_infix reached.suffix.isInfix)
              (reached.rulesFrom_eq.symm.trans read)
            rw [equal] at ended
            exact ended.of_cons
      -- Before this piece the point is further on, so that nothing is asked of the last one.
      have nonempty : space ++ found.piece ++ front ≠ [] := by
        simp [ne_nil_of_recognises recognises]
      rcases induction (space ++ found.piece ++ front) (by simp [stands, equal])
        (fun empty => absurd empty nonempty) with ⟨progress', alike, run⟩
      let behind : Text := front ++ right'
      let piece' : Lexeme :=
        ⟨found.piece, (left ++ right').length - (found.piece ++ behind).length⟩
      have samePiece : piece'.text = found.piece := rfl
      rcases exists_advance?_of_unplaced_eq alike moved advanced (found.piece ++ behind) samePiece
        with ⟨action', next', moved', advanced', unplaced⟩
      have skipped : skipGap (space ++ found.piece ++ front ++ right') =
          skipGap (found.piece ++ behind) := by
        have same := (isGap_of_space isSpace).skipGap_append (found.piece ++ behind)
        simpa [behind] using same
      refine ⟨next', unplaced, run.trans ?_⟩
      rw [rulesFrom_congr skipped]
      exact rulesFrom_of_recognises moved' recognises own ends advanced'

/-! ## Places for gaps -/

/-- The rest begins where a gap may be put in: at the start of the sheet, or directly
behind a piece that is neither a prelude nor a value. -/
def AdmitsGap (source rest : Text) : Prop :=
  ∃ last progress, Reached source last progress rest ∧ last ≠ some .prelude ∧ last ≠ some .value

/-- With a gap further on in the text, reading comes to the same points. -/
theorem Reached.exists_insert {source left gap right text : Text} {last : Option Terminal}
    {progress : Progress} {rules : List (Rule Lexeme)}
    (reached : Reached source last progress text) (split : source = left ++ right)
    (uncommented : Uncommented source) (read : rawRules source = .ok rules) (isGap : IsGap gap)
    (front : Text) (equal : text = front ++ right)
    (apart : front ≠ [] ∨ last ≠ some .prelude ∧ last ≠ some .value) :
    ∃ progress', progress'.unplaced = progress.unplaced ∧
      rawRules (left ++ gap ++ right) =
        rulesFrom (left ++ gap ++ right) progress' (front ++ gap ++ right) := by
  rw [List.append_assoc, List.append_assoc]
  refine reached.exists_replace split uncommented read front equal ?_
  rintro rfl terminal rfl
  have notRaw : terminal ≠ .prelude ∧ terminal ≠ .value := by
    simpa using apart
  rw [List.nil_append] at equal
  subst equal
  refine ends_gap_append isGap ?_ notRaw
  exact reached.ends (uncommented.of_infix reached.suffix.isInfix)
    (reached.rulesFrom_eq.symm.trans read)

/-- The blocks of an accepted sheet are still nested as they may be with a gap between
two of its pieces. -/
theorem check_insert {limit : Nat} {left gap right : Text} {last : Option Terminal}
    {progress : Progress} (reached : Reached (left ++ right) last progress right)
    (uncommented : Uncommented (left ++ right)) (isGap : IsGap gap)
    (checked : Brackets.curly.check .blocks limit (left ++ right) = .ok ()) :
    Brackets.curly.check .blocks limit (left ++ gap ++ right) = .ok () := by
  rcases reached.exists_walk uncommented ((Brackets.check_eq_ok_iff uncommented).mp checked) with
    ⟨consumed, split, -, walked⟩
  rw [← List.append_cancel_right split] at walked
  have front : Uncommented left := uncommented.of_infix (List.prefix_append left right).isInfix
  have apart : left.getLast? = some '/' → (gap ++ right).head? ≠ some '*' := by
    intro slash
    rcases isGap.eq_nil_or_head with rfl | ⟨first, others, rfl, begins⟩
    · exact uncommented.apart slash
    · intro star
      rw [Option.some.inj star] at begins
      exact absurd begins (by decide)
  have without := Brackets.overflow?_append front uncommented.apart walked
  have inserted := Brackets.overflow?_append front apart walked
  rw [Brackets.check_eq_ok_iff_overflow?] at checked ⊢
  rw [List.append_assoc]
  exact inserted.trans ((isGap.overflow?_append _ right).trans (without.symm.trans checked))

/-- Space and complete comments between two pieces of a sheet make no difference. -/
theorem read_insert_of_isGap {config : Config} {left gap right : Text} {sheet : Sheet Selector}
    (uncommented : Uncommented (left ++ right))
    (accepted : Sheet.read config (left ++ right) = .ok sheet)
    (apart : AdmitsGap (left ++ right) right) (isGap : IsGap gap) :
    Sheet.read config (left ++ gap ++ right) = .ok sheet := by
  rcases apart with ⟨last, progress, reached, notRaw⟩
  rcases read_eq_ok_iff.mp accepted with ⟨checked, rules, raw, traversed⟩
  rcases reached.exists_insert rfl uncommented raw isGap [] rfl (.inr notRaw) with
    ⟨progress', alike, run⟩
  rcases exists_rulesFrom_of_unplaced_eq (left ++ gap ++ right)
    (reached.rulesFrom_eq.symm.trans raw) alike (isGap.skipGap_append right) with
    ⟨rules', read, unplaced⟩
  exact read_eq_ok_iff.mpr ⟨check_insert reached uncommented isGap checked, rules',
    run.trans read, traverseAll_preludeSelector_of_unplaced_eq unplaced traversed _⟩

/-- A comment behind the brace of a block, with a brace, a quote and a semicolon in it. -/
theorem read_insert_of_isGap_behind_brace :
    AdmitsGap "a\x7bb:c\x7d" "b:c\x7d" ∧
      Sheet.read .standard
          ("a\x7b" ++ (commentOpen ++ "\x7d ' ;" ++ commentClose ++ ['\n']) ++ "b:c\x7d") =
        .ok ⟨[.style (.simple (.type "a")) [⟨"b", "c"⟩]]⟩ := by
  have isGap : IsGap (commentOpen ++ "\x7d ' ;" ++ commentClose ++ ['\n']) :=
    .comment (by decide) (.space rfl .nil)
  have begun : Reached "a\x7bb:c\x7d" none (.start "a\x7bb:c\x7d")
      (['a'] ++ ("\x7bb:c\x7d" : Text)) := .start
  have prelude : Terminal.prelude.Recognises ['a'] := ⟨⟨'a', [], rfl, by decide, by decide⟩, rfl⟩
  have ends : Terminal.prelude.Ends "\x7bb:c\x7d" :=
    ⟨'{', "b:c\x7d", rfl, rfl, by decide, fun _ => by decide⟩
  have named := begun.next rfl prelude (by decide) ends rfl
  have brace : Terminal.openBrace.Recognises ['{'] := rfl
  have entered := @Reached.next _ _ _ _ _ _ ['{'] "b:c\x7d" named rfl brace (by decide) trivial rfl
  have apart : AdmitsGap "a\x7bb:c\x7d" "b:c\x7d" := ⟨_, _, entered, by decide, by decide⟩
  exact ⟨apart, read_insert_of_isGap (by decide) (by decide +kernel) apart isGap⟩

end Sheet

end ScopedMarkup.Css
