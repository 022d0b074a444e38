import ScopedMarkup.Text.Blank

namespace ScopedMarkup

/-! A scanner recognises a piece at the start of a text and gives that piece
with what is left. The piece and the rest always make up the text. Alternatives
are ordered: the first one that recognises anything decides. -/

structure Scanner where
  scan : Text → Option (Text × Text)
  splits : ∀ {text piece rest : Text}, scan text = some (piece, rest) → piece ++ rest = text

namespace Scanner

/-- One character of a class. -/
def character (belongs : Char → Bool) : Scanner where
  scan
    | [] => none
    | first :: rest => if belongs first then some ([first], rest) else none
  splits {text piece rest} found := by
    cases text with
    | nil => simp at found
    | cons first text =>
        simp only at found
        split at found
        · simp only [Option.some.injEq, Prod.mk.injEq] at found
          obtain ⟨rfl, rfl⟩ := found
          rfl
        · simp at found

/-- Exactly this text. -/
def literal (expected : Text) : Scanner where
  scan text := (text.after? expected).map fun rest => (expected, rest)
  splits {text piece rest} found := by
    simp only [Option.map_eq_some_iff, Prod.mk.injEq] at found
    obtain ⟨_, begins, rfl, rfl⟩ := found
    exact (Text.eq_append_of_after? begins).symm

/-- The longest run, possibly empty, of characters of a class. -/
def run (belongs : Char → Bool) : Scanner where
  scan text := some (text.takeWhile belongs, text.dropWhile belongs)
  splits {text piece rest} found := by
    simp only [Option.some.injEq, Prod.mk.injEq] at found
    obtain ⟨rfl, rfl⟩ := found
    exact List.takeWhile_append_dropWhile

/-- One scanner and then another. -/
def followedBy (first second : Scanner) : Scanner where
  scan text :=
    match first.scan text with
    | none => none
    | some (piece, middle) =>
        (second.scan middle).map fun (more, rest) => (piece ++ more, rest)
  splits {text piece rest} found := by
    split at found
    · simp at found
    · rename_i front middle begins
      simp only [Option.map_eq_some_iff, Prod.exists, Prod.mk.injEq] at found
      obtain ⟨more, _, goesOn, rfl, rfl⟩ := found
      rw [List.append_assoc, second.splits goesOn, first.splits begins]

/-- The first scanner if it recognises anything, else the second. -/
def orElse (first second : Scanner) : Scanner where
  scan text := (first.scan text).or (second.scan text)
  splits {text piece rest} found := by
    rcases Option.or_eq_some_iff.mp found with begins | ⟨_, begins⟩
    · exact first.splits begins
    · exact second.splits begins

instance : Append Scanner := ⟨followedBy⟩

instance : OrElse Scanner := ⟨fun first second => first.orElse (second ())⟩

/-- The scanner, or nothing at all where it recognises nothing. -/
def optional (item : Scanner) : Scanner := item <|> literal []

/-- The text read as items for as long as one is recognised. An item that takes
no characters ends the repetition. -/
def items (item : Scanner) (text : Text) : Text × Text :=
  match _found : item.scan text with
  | none => ([], text)
  | some ([], _) => ([], text)
  | some (first :: piece, rest) =>
      let (more, remaining) := items item rest
      (first :: piece ++ more, remaining)
termination_by text.length
decreasing_by
  have equal := item.splits _found
  simp only [← equal, List.cons_append, List.length_cons, List.length_append]
  omega

theorem items_splits (item : Scanner) (text : Text) :
    (items item text).1 ++ (items item text).2 = text := by
  fun_induction items item text with
  | case1 => simp
  | case2 => simp
  | case3 text first piece rest found more remaining equal induction =>
      rw [equal] at induction
      simp only at induction ⊢
      rw [List.append_assoc, induction, item.splits found]

/-- As many items as there are, possibly none. -/
def many (item : Scanner) : Scanner where
  scan text := some (items item text)
  splits {text piece rest} found := by
    have equal := items_splits item text
    simp only [Option.some.injEq] at found
    rwa [found] at equal

/-- Everything up to the mark, and the mark. -/
def through (mark : Text) : Scanner where
  scan text := (text.cut? mark).map fun (before, rest) => (before ++ mark, rest)
  splits {text piece rest} found := by
    simp only [Option.map_eq_some_iff, Prod.exists, Prod.mk.injEq] at found
    obtain ⟨before, _, cut, rfl, rfl⟩ := found
    exact (Text.eq_append_of_cut? cut).symm

/-- Any run of blanks, possibly none. -/
def blanks : Scanner := run isBlank

/-- A quoted run, which ends at the next quote of its kind. -/
def quotedRun (quote : Char) : Scanner := literal [quote] ++ through [quote]

/-- A run between double or between single quotes. -/
def string : Scanner := quotedRun '"' <|> quotedRun '\''

example : string.scan "'a\"' b" = some (("'a\"'" : Text), (" b" : Text)) := by decide +kernel

/-- Letters that may be capitals. The expected ones are lower case, of ASCII. -/
def caseless (expected : Text) : Scanner :=
  expected.foldr (fun letter more => character (fun found => found.toLower = letter) ++ more)
    (literal [])

example : (caseless "not").scan "NoTe" = some (("NoT" : Text), ("e" : Text)) := by decide

/-- A piece that was recognised, with its kind and what follows it. -/
structure Match (κ : Type) where
  kind : κ
  piece : Text
  rest : Text

/-- The first of several kinds whose scanner recognises a piece with at least
one character. -/
def firstMatch? (scanner : κ → Scanner) (text : Text) : List κ → Option (Match κ)
  | [] => none
  | kind :: more =>
      match (scanner kind).scan text with
      | some (first :: piece, rest) => some ⟨kind, first :: piece, rest⟩
      | _ => firstMatch? scanner text more

theorem scan_of_firstMatch? {scanner : κ → Scanner} {text : Text} {kinds : List κ}
    {found : Match κ} (matched : firstMatch? scanner text kinds = some found) :
    found.kind ∈ kinds ∧ found.piece ≠ [] ∧
      (scanner found.kind).scan text = some (found.piece, found.rest) := by
  induction kinds with
  | nil => simp [firstMatch?] at matched
  | cons kind more induction =>
      unfold firstMatch? at matched
      split at matched
      · rename_i first piece rest scanned
        simp only [Option.some.injEq] at matched
        subst matched
        simpa using scanned
      · obtain ⟨member, nonempty, scanned⟩ := induction matched
        exact ⟨List.mem_cons_of_mem _ member, nonempty, scanned⟩

theorem splits_of_firstMatch? {scanner : κ → Scanner} {text : Text} {kinds : List κ}
    {found : Match κ} (matched : firstMatch? scanner text kinds = some found) :
    found.piece ++ found.rest = text :=
  (scanner found.kind).splits (scan_of_firstMatch? matched).2.2

theorem rest_length_lt_of_firstMatch? {scanner : κ → Scanner} {text : Text} {kinds : List κ}
    {found : Match κ} (matched : firstMatch? scanner text kinds = some found) :
    found.rest.length < text.length := by
  have equal := congrArg List.length (splits_of_firstMatch? matched)
  have positive := List.length_pos_iff.mpr (scan_of_firstMatch? matched).2.1
  rw [List.length_append] at equal
  omega

end Scanner

end ScopedMarkup
