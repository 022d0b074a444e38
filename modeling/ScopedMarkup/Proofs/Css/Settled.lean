import ScopedMarkup.Proofs.Css.Comment

/-! # Texts whose brackets are all counted

The check of brackets passes over comments wherever one begins outside a quoted run, also
over one that is never closed. Over a text whose quoted runs and comments are all closed,
with nothing in the comments that counts, it counts as the walk over the characters does.
-/

namespace ScopedMarkup.Css.Brackets

variable {brackets : Brackets}

/-- Whether every quoted run and every comment is closed where the text ends, and no
comment holds a quote or a bracket. -/
def settles (brackets : Brackets) : Region → Text → Bool
  | .plain, [] => true
  | .quoted _, [] | .comment, [] => false
  | .quoted quote, first :: rest =>
      brackets.settles (if first = quote then .plain else .quoted quote) rest
  | .comment, '*' :: '/' :: rest => brackets.settles .plain rest
  | .comment, first :: rest => brackets.Ordinary first && brackets.settles .comment rest
  | .plain, '/' :: '*' :: rest => brackets.settles .comment rest
  | .plain, first :: rest =>
      if first = '"' ∨ first = '\'' then brackets.settles (.quoted first) rest
      else brackets.settles .plain rest

/-- A text that the check enters and leaves outside of quoted runs and comments, with all
its brackets counted. -/
def Settled (brackets : Brackets) (text : Text) : Prop := brackets.settles .plain text = true

instance (text : Text) : Decidable (brackets.Settled text) :=
  inferInstanceAs (Decidable (brackets.settles .plain text = true))

example : round.Settled "[a='(/*'] /* b */" ∧ ¬ round.Settled "a /* ( */" ∧
    ¬ round.Settled "a /* b" := by decide

end ScopedMarkup.Css.Brackets

namespace ScopedMarkup.Css

/-- The quote that a place lies behind, as the walk takes it along. -/
def Region.quote? : Region → Option Quote
  | .quoted quote => Quote.of? quote
  | .plain | .comment => none

namespace Brackets

variable {brackets : Brackets} {limit : Nat}

/-! ## One character, in each region -/

section

variable {first : Char} {rest : Text} {depth : Int}

/-- Outside of quoted runs and comments, and where no comment begins. -/
theorem overflow?_plain_cons (opens : ¬ (first = '/' ∧ rest.head? = some '*')) :
    brackets.overflow? limit .plain depth (first :: rest) =
      match brackets.step limit none depth first with
      | none => some (first :: rest)
      | some (next, reached) => brackets.overflow? limit (region next) reached rest :=
  @overflow?_cons brackets limit none depth first rest opens

theorem overflow?_opening (quoted : first = '"' ∨ first = '\'') :
    brackets.overflow? limit .plain depth (first :: rest) =
      brackets.overflow? limit (.quoted first) depth rest := by
  rcases quoted with rfl | rfl <;> rfl

theorem walk?_opening (quoted : first = '"' ∨ first = '\'') :
    brackets.walk? limit none depth (first :: rest) =
      brackets.walk? limit (Quote.of? first) depth rest := by
  rcases quoted with rfl | rfl <;> rfl

/-- A quoted run ends at its own quote, for the walk as for the check. -/
theorem walk?_quoted {quote : Char} (opens : (Quote.of? quote).isSome = true) :
    brackets.walk? limit (Quote.of? quote) depth (first :: rest) =
      brackets.walk? limit
        (Region.quote? (if first = quote then .plain else .quoted quote)) depth rest := by
  rcases Option.isSome_iff_exists.mp opens with ⟨kind, found⟩
  rw [found, walk?, step, ← Quote.eq_character_of_of? found]
  by_cases closes : first = quote <;> simp [closes, found, Region.quote?]

/-- A character that is no quote opens no quoted run. -/
theorem outside_of_step {next : Option Quote × Int} (unquoted : Quote.of? first = none)
    (taken : brackets.step limit none depth first = some next) : next.1 = none := by
  simp only [step, unquoted] at taken
  grind

end

/-- No character at the start of what follows makes a mark with the end of the text. -/
theorem not_mark_of_cons {first left right : Char} {text rest : Text}
    (apart : (first :: text).getLast? = some left → rest.head? ≠ some right)
    (others : ∀ more, first = left → text = right :: more → False) :
    ¬ (first = left ∧ (text ++ rest).head? = some right) := by
  rintro ⟨begins, goesOn⟩
  cases text with
  | nil => exact apart (by rw [begins]; rfl) goesOn
  | cons second text => exact others text begins (by rw [Option.some.inj goesOn])

/-- A comment that is closed within a text has no mark that ends behind it. -/
theorem not_close_of_settles {first : Char} {text : Text} (rest : Text)
    (settles : brackets.settles .comment text = true)
    (others : ∀ more, first = '*' → text = '/' :: more → False) :
    ¬ (first = '*' ∧ (text ++ rest).head? = some '/') := by
  rintro ⟨star, slash⟩
  cases text with
  | nil => cases settles
  | cons second text => exact others text star (by rw [Option.some.inj slash])

/-! ## The check over a settled text -/

/-- Over a settled text, the check goes on just where the walk over the characters does,
and comes to the same depth. -/
theorem overflow?_settles_iff {region : Region} {text rest : Text}
    (marks : brackets.Ordinary '/' ∧ brackets.Ordinary '*')
    (settles : brackets.settles region text = true)
    (quotes : ∀ quote, region = .quoted quote → (Quote.of? quote).isSome = true)
    (apart : text.getLast? = some '/' → rest.head? ≠ some '*') (depth : Int) :
    brackets.overflow? limit region depth (text ++ rest) = none ↔
      ∃ reached, brackets.walk? limit region.quote? depth text = some (none, reached) ∧
        brackets.overflow? limit .plain reached rest = none := by
  have further {first : Char} {text : Text}
      (apart : (first :: text).getLast? = some '/' → rest.head? ≠ some '*') :
      text.getLast? = some '/' → rest.head? ≠ some '*' := by
    intro last
    exact apart (by rw [List.getLast?_cons, last, Option.getD_some])
  -- Inside a comment the walk is where it was outside: nothing in there counts for it.
  fun_induction Brackets.settles brackets region text generalizing depth with
  | case1 => simp [walk?, Region.quote?]
  | case2 | case3 => cases settles
  | case4 quote first text induction =>
      have goesOn : _ ↔ _ := induction settles (by grind) (further apart) depth
      rw [List.cons_append, overflow?, goesOn, Region.quote?.eq_1, walk?_quoted (quotes quote rfl)]
  | case5 text induction =>
      have goesOn : _ ↔ _ := induction settles (by simp) (further (further apart)) depth
      rw [List.cons_append, List.cons_append, overflow?, goesOn]
      simp only [Region.quote?, walk?_ordinary marks.1, walk?_ordinary marks.2]
  | case6 first text others induction =>
      rcases Bool.and_eq_true_iff.mp settles with ⟨ordinary, settles⟩
      have inside := not_close_of_settles rest settles others
      have goesOn : _ ↔ _ := induction settles (by simp) (further apart) depth
      rw [List.cons_append, overflow?_comment_cons depth inside, goesOn, Region.quote?,
        walk?_ordinary (of_decide_eq_true ordinary)]
  | case7 text induction =>
      have goesOn : _ ↔ _ := induction settles (by simp) (further (further apart)) depth
      rw [List.cons_append, List.cons_append, overflow?, goesOn]
      simp only [Region.quote?, walk?_ordinary marks.1, walk?_ordinary marks.2]
  | case8 first text others quoted induction =>
      have opens : (Quote.of? first).isSome = true := by
        rcases quoted with rfl | rfl <;> rfl
      have goesOn : _ ↔ _ := induction settles (by grind) (further apart) depth
      rw [List.cons_append, overflow?_opening quoted, goesOn]
      simp only [Region.quote?, walk?_opening quoted]
  | case9 first text others unquoted induction =>
      have closed : Quote.of? first = none := by
        simp only [Quote.of?]
        grind
      rw [List.cons_append, overflow?_plain_cons (not_mark_of_cons apart others), Region.quote?,
        walk?]
      cases taken : brackets.step limit none depth first with
      | none => simp
      | some next =>
          have goesOn : _ ↔ _ := induction settles (by simp) (further apart) next.2
          simp only [outside_of_step closed taken, region]
          exact goesOn

/-- Whatever stands behind a settled text, the check gets there just where the walk does. -/
theorem Settled.overflow?_append_iff {text rest : Text} (settled : brackets.Settled text)
    (marks : brackets.Ordinary '/' ∧ brackets.Ordinary '*')
    (apart : text.getLast? = some '/' → rest.head? ≠ some '*') (depth : Int) :
    brackets.overflow? limit .plain depth (text ++ rest) = none ↔
      ∃ reached, brackets.walk? limit none depth text = some (none, reached) ∧
        brackets.overflow? limit .plain reached rest = none :=
  overflow?_settles_iff marks settled (by simp) apart depth

theorem Settled.overflow?_iff {text : Text} (settled : brackets.Settled text)
    (marks : brackets.Ordinary '/' ∧ brackets.Ordinary '*') (depth : Int) :
    brackets.overflow? limit .plain depth text = none ↔
      ∃ reached, brackets.walk? limit none depth text = some (none, reached) := by
  have counted := @overflow?_append_iff brackets limit text [] settled marks (by simp) depth
  simpa [overflow?] using counted

end Brackets

end ScopedMarkup.Css
