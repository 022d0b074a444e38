import ScopedMarkup.Proofs.Text.Blank
import ScopedMarkup.Text.Scanner

/-! # What scanners recognise

For each way to build a scanner, when it recognises a piece and when it
recognises nothing, and which of several kinds comes first.
-/

namespace ScopedMarkup

namespace Text

theorem cut?_of_not_mem {before rest : Text} {mark : Char} (absent : mark ∉ before) :
    cut? (before ++ mark :: rest) [mark] = some (before, rest) := by
  induction before with
  | nil =>
      unfold cut?
      simp [after?]
  | cons first before induction =>
      rcases not_or.mp (mt List.mem_cons.mpr absent) with ⟨different, absent⟩
      unfold cut?
      simp [after?, Ne.symm different, induction absent]

theorem not_mem_of_cut? {text before rest : Text} {mark : Char}
    (found : cut? text [mark] = some (before, rest)) : mark ∉ before := by
  induction text generalizing before with
  | nil =>
      unfold cut? at found
      simp [after?] at found
  | cons first text induction =>
      unfold cut? at found
      by_cases equal : first = mark
      · subst equal
        simp only [after?, if_true, Option.some.injEq, Prod.mk.injEq] at found
        rw [← found.1]
        exact List.not_mem_nil
      · simp only [after?, equal, if_false, Option.map_eq_some_iff, Prod.exists,
          Prod.mk.injEq] at found
        rcases found with ⟨inner, _, cut, rfl, rfl⟩
        intro member
        rcases List.mem_cons.mp member with same | member
        · exact equal same.symm
        · exact induction cut member

end Text

namespace Scanner

variable {first second : Scanner} {text middle rest piece more : Text}

/-! ## One scanner after another, and one instead of another -/

theorem scan_followedBy (first second : Scanner) (text : Text) :
    (first ++ second).scan text =
      match first.scan text with
      | none => none
      | some (piece, middle) =>
          (second.scan middle).map fun (more, rest) => (piece ++ more, rest) := rfl

theorem scan_append (begins : first.scan text = some (piece, middle))
    (goesOn : second.scan middle = some (more, rest)) :
    (first ++ second).scan text = some (piece ++ more, rest) := by
  rw [scan_followedBy, begins]
  simp [goesOn]

/-- A scanner of one character and then another scanner. -/
theorem scan_append_cons {single : Char} (begins : first.scan text = some ([single], middle))
    (goesOn : second.scan middle = some (more, rest)) :
    (first ++ second).scan text = some (single :: more, rest) :=
  scan_append begins goesOn

theorem scan_append_eq_none (refused : first.scan text = none) :
    (first ++ second).scan text = none := by
  rw [scan_followedBy, refused]

theorem scan_append_eq_none_of_second (begins : first.scan text = some (piece, middle))
    (refused : second.scan middle = none) : (first ++ second).scan text = none := by
  rw [scan_followedBy, begins]
  simp [refused]

theorem exists_of_scan_append {whole : Text}
    (found : (first ++ second).scan text = some (whole, rest)) :
    ∃ piece middle more, first.scan text = some (piece, middle) ∧
      second.scan middle = some (more, rest) ∧ whole = piece ++ more := by
  rw [scan_followedBy] at found
  split at found
  · simp at found
  · rename_i piece middle begins
    simp only [Option.map_eq_some_iff, Prod.mk.injEq, Prod.exists] at found
    rcases found with ⟨more, following, goesOn, rfl, rfl⟩
    exact ⟨piece, middle, more, begins, goesOn, rfl⟩

theorem scan_append_assoc (first second third : Scanner) (text : Text) :
    (first ++ second ++ third).scan text = (first ++ (second ++ third)).scan text := by
  simp only [scan_followedBy]
  cases first.scan text with
  | none => rfl
  | some found =>
      cases goesOn : second.scan found.2 with
      | none => simp [goesOn]
      | some inner =>
          cases ends : third.scan inner.2 <;> simp [goesOn, ends]

theorem scan_orElse (first second : Scanner) (text : Text) :
    (first <|> second).scan text = (first.scan text).or (second.scan text) := rfl

theorem scan_orElse_of_first (found : first.scan text = some (piece, rest)) :
    (first <|> second).scan text = some (piece, rest) := by
  rw [scan_orElse, found, Option.some_or]

theorem scan_orElse_of_second (refused : first.scan text = none) :
    (first <|> second).scan text = second.scan text := by
  rw [scan_orElse, refused, Option.none_or]

theorem scan_of_scan_orElse (found : (first <|> second).scan text = some (piece, rest)) :
    first.scan text = some (piece, rest) ∨ second.scan text = some (piece, rest) := by
  rw [scan_orElse, Option.or_eq_some_iff] at found
  rcases found with found | ⟨_, found⟩
  · exact .inl found
  · exact .inr found

/-! ## Single characters, literals and runs -/

theorem scan_character_cons (belongs : Char → Bool) (found : Char) (rest : Text) :
    (character belongs).scan (found :: rest) =
      if belongs found then some ([found], rest) else none := rfl

theorem scan_character_eq_none {belongs : Char → Bool} (leaves : text.Leaves belongs) :
    (character belongs).scan text = none := by
  cases text with
  | nil => rfl
  | cons found rest => simp [scan_character_cons, Text.leaves_cons.mp leaves]

theorem exists_of_scan_character {belongs : Char → Bool}
    (found : (character belongs).scan text = some (piece, rest)) :
    ∃ single, piece = [single] ∧ text = single :: rest ∧ belongs single = true := by
  cases text with
  | nil => simp [character] at found
  | cons single text =>
      rw [scan_character_cons] at found
      split at found
      · rename_i member
        simp only [Option.some.injEq, Prod.mk.injEq] at found
        exact ⟨single, found.1.symm, by rw [found.2], member⟩
      · simp at found

theorem scan_literal_append (expected rest : Text) :
    (literal expected).scan (expected ++ rest) = some (expected, rest) := by
  simp [literal]

theorem scan_literal_cons (expected : Char) (rest : Text) :
    (literal [expected]).scan (expected :: rest) = some ([expected], rest) :=
  scan_literal_append [expected] rest

/-- A literal is refused where the text does not go on with its first character. -/
theorem scan_literal_eq_none {expected : Char} {others : Text}
    (leaves : text.Leaves (· = expected)) : (literal (expected :: others)).scan text = none := by
  cases text with
  | nil => rfl
  | cons found rest =>
      have different : found ≠ expected := by simpa using Text.leaves_cons.mp leaves
      simp [literal, Text.after?, different]

theorem of_scan_literal {expected : Text}
    (found : (literal expected).scan text = some (piece, rest)) :
    piece = expected ∧ text = expected ++ rest := by
  simp only [literal, Option.map_eq_some_iff, Prod.mk.injEq] at found
  rcases found with ⟨remaining, begins, equal, rfl⟩
  exact ⟨equal.symm, Text.eq_append_of_after? begins⟩

theorem scan_run {belongs : Char → Bool} (inside : ∀ found ∈ piece, belongs found = true)
    (leaves : rest.Leaves belongs) : (run belongs).scan (piece ++ rest) = some (piece, rest) := by
  change some (List.takeWhile belongs _, List.dropWhile belongs _) = _
  rw [Text.takeWhile_append_of_leaves inside leaves, Text.dropWhile_append_of_leaves inside leaves]

theorem of_scan_run {belongs : Char → Bool}
    (found : (run belongs).scan text = some (piece, rest)) :
    text = piece ++ rest ∧ (∀ single ∈ piece, belongs single = true) ∧ rest.Leaves belongs := by
  have equal := (run belongs).splits found
  simp only [run, Option.some.injEq, Prod.mk.injEq] at found
  rcases found with ⟨rfl, rfl⟩
  exact ⟨equal.symm, List.all_eq_true.mp List.all_takeWhile, Text.leaves_dropWhile belongs text⟩

theorem scan_optional (found : first.scan text = some (piece, rest)) :
    (optional first).scan text = some (piece, rest) :=
  scan_orElse_of_first found

theorem scan_optional_of_none (refused : first.scan text = none) :
    (optional first).scan text = some ([], text) := by
  rw [optional, scan_orElse_of_second refused]
  exact scan_literal_append [] text

theorem of_scan_optional (found : (optional first).scan text = some (piece, rest)) :
    first.scan text = some (piece, rest) ∨ piece = [] ∧ rest = text := by
  rcases scan_of_scan_orElse found with found | found
  · exact .inl found
  · rcases of_scan_literal found with ⟨rfl, equal⟩
    exact .inr ⟨rfl, equal.symm⟩

/-! ## Quoted runs -/

theorem scan_quotedRun {quote : Char} {body : Text} (absent : quote ∉ body) :
    (quotedRun quote).scan (quote :: (body ++ quote :: rest)) =
      some (quote :: (body ++ [quote]), rest) := by
  refine scan_append_cons (scan_literal_cons quote _) ?_
  simp [through, Text.cut?_of_not_mem absent]

theorem exists_of_scan_quotedRun {quote : Char}
    (found : (quotedRun quote).scan text = some (piece, rest)) :
    ∃ body, quote ∉ body ∧ piece = quote :: (body ++ [quote]) := by
  rcases exists_of_scan_append found with ⟨opening, middle, more, begins, goesOn, rfl⟩
  rcases of_scan_literal begins with ⟨rfl, -⟩
  simp only [through, Option.map_eq_some_iff, Prod.exists, Prod.mk.injEq] at goesOn
  rcases goesOn with ⟨body, _, cut, rfl, rfl⟩
  exact ⟨body, Text.not_mem_of_cut? cut, rfl⟩

/-! ## Repetition -/

theorem items_of_scan_eq_none (refused : first.scan text = none) :
    items first text = ([], text) := by
  unfold items
  split <;> simp_all

theorem items_of_scan (found : first.scan text = some (piece, rest)) (nonempty : piece ≠ []) :
    items first text = (piece ++ (items first rest).1, (items first rest).2) := by
  rw [items.eq_def]
  split <;> simp_all

/-- One item, and then the items that follow it. -/
theorem items_append {item : Scanner} {following : Text}
    (found : item.scan text = some (piece, following ++ rest)) (nonempty : piece ≠ [])
    (further : items item (following ++ rest) = (following, rest)) :
    items item text = (piece ++ following, rest) := by
  rw [items_of_scan found nonempty, further]

/-- A repetition that recognised something began with an item. -/
theorem exists_of_items {item : Scanner} (found : items item text = (piece, rest))
    (nonempty : piece ≠ []) :
    ∃ front middle, item.scan text = some (front, middle) ∧ front ≠ [] ∧
      piece = front ++ (items item middle).1 ∧ rest = (items item middle).2 := by
  rw [items.eq_def] at found
  split at found
  · exact absurd (Prod.mk.inj found).1.symm nonempty
  · exact absurd (Prod.mk.inj found).1.symm nonempty
  · rename_i first front middle scanned
    exact ⟨first :: front, middle, scanned, List.cons_ne_nil _ _, (Prod.mk.inj found).1.symm,
      (Prod.mk.inj found).2.symm⟩

/-- Where a repetition ends no further item is recognised. -/
theorem eq_nil_of_scan_items {item : Scanner}
    (found : item.scan (items item text).2 = some (piece, rest)) : piece = [] := by
  fun_induction items item text with
  | case1 text none => simp [none] at found
  | case2 text _ empty =>
      rw [empty] at found
      exact (Prod.mk.inj (Option.some.inj found)).1.symm
  | case3 text first front middle scanned more remaining equal induction =>
      rw [equal] at induction
      exact induction found

theorem scan_many (item : Scanner) (text : Text) : (many item).scan text = some (items item text) :=
  rfl

/-! ## The first of several kinds -/

theorem exists_split_takeWhile {κ : Type} [DecidableEq κ] {kind : κ} {kinds : List κ}
    (member : kind ∈ kinds) :
    ∃ after, kinds = (kinds.takeWhile fun other => other ≠ kind) ++ kind :: after := by
  induction kinds with
  | nil => simp at member
  | cons first kinds induction =>
      by_cases equal : first = kind
      · exact ⟨kinds, by simp [equal]⟩
      · have inside : kind ∈ kinds := by
          rcases List.mem_cons.mp member with same | inside
          · exact absurd same.symm equal
          · exact inside
        rcases induction inside with ⟨after, rest⟩
        refine ⟨after, ?_⟩
        rw [List.takeWhile_cons_of_pos (by simpa using equal), List.cons_append, ← rest]

theorem firstMatch?_eq_some {κ : Type} {scanner : κ → Scanner} {kind : κ} {before after : List κ}
    (refused : ∀ other ∈ before, (scanner other).scan text = none)
    (found : (scanner kind).scan text = some (piece, rest)) (nonempty : piece ≠ []) :
    firstMatch? scanner text (before ++ kind :: after) = some ⟨kind, piece, rest⟩ := by
  induction before with
  | nil =>
      cases piece with
      | nil => exact absurd rfl nonempty
      | cons first piece => simp [firstMatch?, found]
  | cons other before induction =>
      have none := refused other List.mem_cons_self
      rw [List.cons_append, firstMatch?, none]
      exact induction fun other member => refused other (List.mem_cons_of_mem _ member)

end Scanner

end ScopedMarkup
