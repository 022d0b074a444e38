import ScopedMarkup.Proofs.Css.Comment
import ScopedMarkup.Proofs.Css.Sheet.Nesting

/-! # The gaps between the pieces of a sheet

A gap is skipped before each piece. The check of blocks passes over it as well, without
leaving its depth.
-/

namespace ScopedMarkup.Css.Sheet

/-- Space and complete comments in any order. -/
inductive IsGap : Text → Prop where
  | nil : IsGap []
  | space {character : Char} {rest : Text} :
      isSpace character = true → IsGap rest → IsGap (character :: rest)
  | comment {body rest : Text} :
      ¬ commentClose <:+: body → IsGap rest → IsGap (commentOpen ++ body ++ commentClose ++ rest)

theorem isGap_of_space {text : Text} (space : Space text) : IsGap text := by
  induction text with
  | nil => exact .nil
  | cons first rest induction =>
      simp only [Space, List.all_cons, Bool.and_eq_true] at space
      exact .space space.1 (induction space.2)

/-- What is skipped before a piece is a gap. -/
theorem exists_isGap_skipGap (text : Text) : ∃ gap, IsGap gap ∧ text = gap ++ skipGap text := by
  refine ⟨_, ?_, (Scanner.items_splits (.character isSpace <|> comment) text).symm⟩
  fun_induction Scanner.items (.character isSpace <|> comment) text with
  | case1 | case2 => exact .nil
  | case3 text first piece rest found more remaining equal induction =>
      rw [equal] at induction
      rcases Scanner.scan_of_scan_orElse found with found | found
      · rcases Scanner.exists_of_scan_character found with ⟨character, same, -, space⟩
        rw [same]
        exact .space space induction
      · rcases exists_of_scan_comment found with ⟨body, absent, same⟩
        rw [same]
        exact .comment absent induction

/-- A gap is skipped whole. -/
theorem IsGap.skipGap_append {gap : Text} (isGap : IsGap gap) (text : Text) :
    skipGap (gap ++ text) = skipGap text := by
  induction isGap with
  | nil => rfl
  | @space first rest space _ induction =>
      have scanned : (Scanner.character isSpace <|> Css.comment).scan (first :: (rest ++ text)) =
          some ([first], rest ++ text) := Scanner.scan_orElse_of_first (by
        rw [Scanner.scan_character_cons, if_pos space])
      rw [List.cons_append, skipGap, Scanner.items_of_scan scanned (List.cons_ne_nil _ _)]
      exact induction
  | @comment body rest absent _ induction =>
      have leaves : Text.Leaves isSpace (commentOpen ++ body ++ commentClose ++ (rest ++ text)) :=
        Text.leaves_cons.mpr (by decide)
      have scanned := scan_comment absent (rest ++ text)
      rw [← Scanner.scan_orElse_of_second (Scanner.scan_character_eq_none leaves)] at scanned
      rw [List.append_assoc, skipGap, Scanner.items_of_scan scanned (List.cons_ne_nil _ _)]
      exact induction

/-- The check of blocks passes over a gap without leaving its depth. -/
theorem IsGap.overflow?_append {limit : Nat} {gap : Text} (isGap : IsGap gap) (depth : Int)
    (text : Text) :
    Brackets.curly.overflow? limit .plain depth (gap ++ text) =
      Brackets.curly.overflow? limit .plain depth text := by
  induction isGap with
  | nil => rfl
  | @space first rest space _ induction =>
      have blank : Space [first] := by rw [Space, List.all_cons, space]; rfl
      have apart : ([first] : Text).getLast? = some '/' → (rest ++ text).head? ≠ some '*' := by
        rintro slash -
        have equal : first = '/' := by simpa using slash
        exact absurd (equal ▸ space) (by decide)
      have uncommented : Uncommented [first] :=
        uncommented_of_not_mem (slash_not_mem_of_blank blank.blank)
      have walked : Brackets.curly.walk? limit none depth [first] = some (none, depth) :=
        walk?_of_skeleton (skeleton_blank blank.blank)
      exact (Brackets.overflow?_append uncommented apart walked).trans induction
  | @comment body rest absent _ induction =>
      rw [List.append_assoc, List.append_assoc, List.append_assoc, ← List.append_assoc body]
      exact (Brackets.overflow?_comment depth absent (rest ++ text)).trans induction

theorem IsGap.eq_nil_or_head {gap : Text} (isGap : IsGap gap) :
    gap = [] ∨ ∃ first rest, gap = first :: rest ∧ (isSpace first = true ∨ first = '/') := by
  cases isGap with
  | nil => exact .inl rfl
  | space space _ => exact .inr ⟨_, _, rfl, .inl space⟩
  | comment _ _ => exact .inr ⟨_, _, rfl, .inr rfl⟩

/-- A gap ends a name. -/
theorem IsGap.leaves_continuesName {gap rest : Text} (isGap : IsGap gap)
    (leaves : rest.Leaves continuesName) : (gap ++ rest).Leaves continuesName := by
  rcases isGap.eq_nil_or_head with rfl | ⟨first, others, rfl, begins⟩
  · exact leaves
  · refine Text.leaves_cons.mpr ?_
    rcases begins with space | rfl
    · cases continues : continuesName first with
      | false => rfl
      | true =>
          have nonblank := isBlank_eq_false_of_continuesName continues
          rw [isBlank_of_isSpace space] at nonblank
          cases nonblank
    · decide

end ScopedMarkup.Css.Sheet
