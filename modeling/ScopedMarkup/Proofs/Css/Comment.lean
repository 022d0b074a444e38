import ScopedMarkup.Proofs.Css.Nesting

/-! # Comments in a text

What is scanned as a comment, and what a text is once its comments are taken out of it.
In front of the first comment nothing changes.
-/

namespace ScopedMarkup

/-- Nothing before the first mark holds the mark. -/
theorem Text.not_infix_of_cut? {text mark before following : Text} (nonempty : mark ≠ [])
    (found : text.cut? mark = some (before, following)) : ¬ mark <:+: before := by
  induction text generalizing before with
  | nil =>
      rw [Text.cut?.eq_def] at found
      split at found
      · cases found
        simpa using nonempty
      · cases found
  | cons first text induction =>
      rw [Text.cut?.eq_def] at found
      split at found
      · cases found
        simpa using nonempty
      · rename_i refused
        rcases Option.map_eq_some_iff.mp found with ⟨⟨front, rest⟩, further, equal⟩
        cases equal
        intro inside
        rcases List.infix_cons_iff.mp inside with begins | inside
        · rcases begins with ⟨others, same⟩
          have whole : first :: text = mark ++ (others ++ mark ++ following) := by
            rw [← List.append_assoc, ← List.append_assoc, same, Text.eq_append_of_cut? further]
            rfl
          rw [whole, Text.after?_append] at refused
          cases refused
        · exact induction further inside

namespace Css

/-! ## What is a comment -/

section Comments

variable {first : Char} {body : Text}

/-- The first mark behind the body of a comment is the one that ends it. -/
theorem not_close_of_append (absent : ¬ commentClose <:+: first :: body) (rest : Text) :
    ¬ (first = '*' ∧ (body ++ commentClose ++ rest).head? = some '/') := by
  rintro ⟨star, slash⟩
  cases body with
  | nil => exact absurd (Option.some.inj slash) (by decide)
  | cons second body => exact absent (pair_infix_cons.mpr (.inl ⟨star, slash⟩))

theorem cut?_commentClose (absent : ¬ commentClose <:+: body) (rest : Text) :
    Text.cut? (body ++ commentClose ++ rest) commentClose = some (body, rest) := by
  induction body with
  | nil =>
      rw [Text.cut?.eq_def]
      simp
  | cons first body induction =>
      have apart := not_close_of_append absent rest
      have further := induction fun closes => absent (pair_infix_cons.mpr (.inr closes))
      rw [List.cons_append, List.cons_append, Text.cut?.eq_def]
      cases begins : Text.after? (first :: (body ++ commentClose ++ rest)) commentClose with
      | some following =>
          have equal := Text.eq_append_of_after? begins
          rcases List.cons.inj equal with ⟨star, others⟩
          exact absurd ⟨star, by rw [others]; rfl⟩ apart
      | none => simp only [further, Option.map_some]

theorem scan_comment (absent : ¬ commentClose <:+: body) (rest : Text) :
    comment.scan (commentOpen ++ body ++ commentClose ++ rest) =
      some (commentOpen ++ body ++ commentClose, rest) := by
  have through : (Scanner.through commentClose).scan (body ++ commentClose ++ rest) =
      some (body ++ commentClose, rest) := by
    change Option.map _ (Text.cut? _ _) = _
    rw [cut?_commentClose absent rest]
    rfl
  have whole := Scanner.scan_append (Scanner.scan_literal_append commentOpen _) through
  simp only [List.append_assoc] at whole ⊢
  exact whole

theorem Brackets.overflow?_comment_cons {brackets : Brackets} {limit : Nat} {rest : Text}
    (depth : Int) (goesOn : ¬ (first = '*' ∧ rest.head? = some '/')) :
    brackets.overflow? limit .comment depth (first :: rest) =
      brackets.overflow? limit .comment depth rest := by
  rw [overflow?]
  intro others star slash
  exact goesOn ⟨star, by rw [slash, List.head?_cons]⟩

/-- The check of brackets leaves a comment at its end. -/
theorem Brackets.overflow?_comment {brackets : Brackets} {limit : Nat} (depth : Int)
    (absent : ¬ commentClose <:+: body) (rest : Text) :
    brackets.overflow? limit .comment depth (body ++ commentClose ++ rest) =
      brackets.overflow? limit .plain depth rest := by
  induction body with
  | nil => rfl
  | cons first body induction =>
      rw [List.cons_append, List.cons_append,
        overflow?_comment_cons depth (not_close_of_append absent rest)]
      exact induction fun closes => absent (pair_infix_cons.mpr (.inr closes))

end Comments

/-- What is scanned as a comment ends where it is first closed. -/
theorem exists_of_scan_comment {text piece rest : Text}
    (found : comment.scan text = some (piece, rest)) :
    ∃ body, ¬ commentClose <:+: body ∧ piece = commentOpen ++ body ++ commentClose := by
  rcases Scanner.exists_of_scan_append found with ⟨opening, middle, more, begins, goesOn, rfl⟩
  rcases Scanner.of_scan_literal begins with ⟨rfl, -⟩
  rcases Option.map_eq_some_iff.mp goesOn with ⟨⟨body, following⟩, cut, equal⟩
  cases equal
  exact ⟨body, Text.not_infix_of_cut? (by decide) cut, by rw [List.append_assoc]⟩

/-! ## Texts with their comments taken out -/

@[simp] theorem withoutComments_nil : withoutComments [] = [] := by
  rw [withoutComments.eq_def]
  split
  · rename_i found
    cases found
  · rfl

theorem withoutComments_of_scan {text piece rest : Text}
    (found : comment.scan text = some (piece, rest)) :
    withoutComments text = withoutComments rest := by
  rw [withoutComments.eq_def]
  split <;> simp_all

theorem withoutComments_cons {first : Char} {rest : Text}
    (refused : comment.scan (first :: rest) = none) :
    withoutComments (first :: rest) = first :: withoutComments rest := by
  rw [withoutComments.eq_def]
  split <;> simp_all

/-- No comment begins in the front of a text that goes on with the rest. -/
def NoCommentIn : (front rest : Text) → Prop
  | [], _ => True
  | first :: front, rest => comment.scan (first :: (front ++ rest)) = none ∧ NoCommentIn front rest

instance decidableNoCommentIn : ∀ front rest : Text, Decidable (NoCommentIn front rest)
  | [], _ => inferInstanceAs (Decidable True)
  | first :: front, rest =>
      have := decidableNoCommentIn front rest
      inferInstanceAs (Decidable (comment.scan (first :: (front ++ rest)) = none ∧
        NoCommentIn front rest))

example : NoCommentIn "a/" "b/* c */" ∧ ¬ NoCommentIn "a/" "* c */" := by decide

theorem withoutComments_append {front rest : Text} (apart : NoCommentIn front rest) :
    withoutComments (front ++ rest) = front ++ withoutComments rest := by
  induction front with
  | nil => rfl
  | cons first front induction =>
      rw [List.cons_append, withoutComments_cons apart.1, induction apart.2]
      rfl

/-- A text up to its first comment, if it has one. -/
theorem exists_noCommentIn (text : Text) :
    ∃ front behind, text = front ++ behind ∧ NoCommentIn front behind ∧
      (behind = [] ∨ (comment.scan behind).isSome = true) := by
  induction text with
  | nil => exact ⟨[], [], rfl, trivial, .inl rfl⟩
  | cons first text induction =>
      cases found : comment.scan (first :: text) with
      | some split => exact ⟨[], first :: text, rfl, trivial, .inr (by rw [found]; rfl)⟩
      | none =>
          rcases induction with ⟨front, behind, rfl, apart, ends⟩
          exact ⟨first :: front, behind, rfl, ⟨found, apart⟩, ends⟩

theorem length_withoutComments_le (text : Text) : (withoutComments text).length ≤ text.length := by
  fun_induction withoutComments text with
  | case1 text piece rest found induction =>
      have shorter := comment_shortens found
      omega
  | case2 => simp
  | case3 first rest none induction => exact Nat.succ_le_succ induction

theorem length_clean_le (text : Text) : (clean text).length ≤ text.length := by
  rcases Text.exists_blank_trim (withoutComments text) with ⟨before, after, -, -, split⟩
  have lengths := congrArg List.length split
  simp only [List.length_append] at lengths
  have shorter := length_withoutComments_le text
  rw [clean]
  omega

end Css

end ScopedMarkup
