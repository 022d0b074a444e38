import ScopedMarkup.Css.Selector.Reader
import ScopedMarkup.Proofs.Css.Comment

/-! # Cleaning and quoted runs

A text falls into quoted runs, comments that begin outside these, and other characters.
Cleaning takes out just these comments, so that every quoted run stays whole, if no
comment begins inside a quoted run. One that does is taken out as well.
-/

namespace ScopedMarkup

/-! ## Blanks at the ends -/

namespace Text

theorem trimStart_append {before text : Text} (leaves : text.Leaves isBlank) :
    trimStart (before ++ text) = trimStart before ++ text := by
  induction before with
  | nil => exact trimStart_eq_of_leaves leaves
  | cons first before induction =>
      by_cases blank : isBlank first = true
      · simpa [trimStart, blank] using induction
      · simp [trimStart, blank]

/-- What has no blank at either end stays whole when the text around it is trimmed. -/
theorem infix_trim {run text : Text} (trimmed : run.Trimmed) (inside : run <:+: text) :
    run <:+: text.trim := by
  rcases inside with ⟨before, after, rfl⟩
  by_cases empty : run = []
  · rw [empty]
    exact List.nil_infix
  · have starts : (run ++ after).Leaves isBlank := by
      rcases List.exists_cons_of_ne_nil empty with ⟨first, rest, rfl⟩
      exact leaves_cons.mpr (leaves_cons.mp trimmed.1)
    have opened : trimStart (before ++ run ++ after) = trimStart before ++ run ++ after := by
      rw [List.append_assoc, trimStart_append starts, ← List.append_assoc]
    have ends : Leaves isBlank (run.reverse ++ (trimStart before).reverse) := by
      rcases List.exists_cons_of_ne_nil (mt List.reverse_eq_nil_iff.mp empty) with
        ⟨last, rest, equal⟩
      rw [equal]
      exact leaves_cons.mpr (leaves_cons.mp (equal ▸ trimmed.2))
    have closed : trimEnd (trimStart before ++ run ++ after) =
        trimStart before ++ run ++ (trimStart after.reverse).reverse := by
      rw [trimEnd, List.reverse_append, List.reverse_append,
        trimStart_append ends]
      simp
    rw [trim, opened, closed]
    exact ⟨_, _, rfl⟩

end Text

namespace Css

/-! ## Quoted runs, comments and other characters -/

inductive Segment where
  | quoted (run : Text)
  | comment (whole : Text)
  | other (character : Char)
deriving DecidableEq, Repr

namespace Segment

def text : Segment → Text
  | .quoted run => run
  | .comment whole => whole
  | .other character => [character]

/-- What is left of a segment without comments. -/
def kept : Segment → Text
  | .quoted run => run
  | .comment _ => []
  | .other character => [character]

end Segment

theorem string_shortens {text run rest : Text} (found : Scanner.string.scan text = some (run, rest)) :
    rest.length < text.length := by
  rcases Span.exists_of_scan_string found with ⟨quote, body, -, rfl⟩
  rw [← Scanner.string.splits found]
  simp only [List.cons_append, List.length_cons, List.length_append]
  omega

/-- The segments of a text from left to right. A quote that is never closed and the start
of a comment that is never closed are like other characters. -/
def segments (text : Text) : List Segment :=
  match _found : Scanner.string.scan text with
  | some (run, rest) => .quoted run :: segments rest
  | none =>
      match _found : comment.scan text with
      | some (whole, rest) => .comment whole :: segments rest
      | none =>
          match text with
          | [] => []
          | first :: rest => .other first :: segments rest
termination_by text.length
decreasing_by
  · exact string_shortens _found
  · exact comment_shortens _found
  · exact Nat.lt_succ_self _

example : segments "'/*'/*'*/" = [.quoted "'/*'", .comment "/*'*/"] := by decide +kernel

theorem flatMap_text_segments (text : Text) : (segments text).flatMap Segment.text = text := by
  fun_induction segments text with
  | case1 text run rest found induction =>
      rw [List.flatMap_cons, induction]
      exact Scanner.string.splits found
  | case2 text _ whole rest found induction =>
      rw [List.flatMap_cons, induction]
      exact comment.splits found
  | case3 => rfl
  | case4 first rest _ _ induction => exact congrArg (first :: ·) induction

theorem exists_of_quoted_mem_segments {text run : Text} (member : .quoted run ∈ segments text) :
    ∃ (quote : Quote) (body : Text), run = quote.character :: (body ++ [quote.character]) := by
  fun_induction segments text with
  | case1 text first rest found induction =>
      rcases List.mem_cons.mp member with equal | member
      · cases equal
        rcases Span.exists_of_scan_string found with ⟨quote, body, -, equal⟩
        exact ⟨quote, body, equal⟩
      · exact induction member
  | case2 text _ whole rest found induction =>
      exact induction (List.mem_of_ne_of_mem Segment.noConfusion member)
  | case3 => cases member
  | case4 first rest _ _ induction =>
      exact induction (List.mem_of_ne_of_mem Segment.noConfusion member)

theorem trimmed_of_quoted_mem_segments {text run : Text}
    (member : .quoted run ∈ segments text) : run.Trimmed := by
  rcases exists_of_quoted_mem_segments member with ⟨quote, body, rfl⟩
  have nonblank : isBlank quote.character = false := by cases quote <;> decide
  constructor
  · exact Text.leaves_cons.mpr nonblank
  · rw [List.reverse_cons, List.reverse_append]
    exact Text.leaves_cons.mpr nonblank

/-! ## Cleaning outside of quoted runs -/

/-- The text without the comments that begin outside its quoted runs, and without the
blanks around what is left. -/
def cleanOutsideQuotes (text : Text) : Text := Text.trim ((segments text).flatMap Segment.kept)

example : cleanOutsideQuotes " '/* a */' /* ' */ b" = ("'/* a */'  b" : Text) := by decide +kernel

/-- No comment begins in a quoted run. -/
def CommentsApart : List Segment → Prop
  | [] => True
  | .quoted run :: rest => NoCommentIn run (rest.flatMap Segment.text) ∧ CommentsApart rest
  | _ :: rest => CommentsApart rest

instance decidableCommentsApart : ∀ segments : List Segment, Decidable (CommentsApart segments)
  | [] => inferInstanceAs (Decidable True)
  | .quoted run :: rest =>
      have := decidableCommentsApart rest
      inferInstanceAs (Decidable (NoCommentIn run (rest.flatMap Segment.text) ∧
        CommentsApart rest))
  | .comment _ :: rest | .other _ :: rest => decidableCommentsApart rest

theorem withoutComments_eq_flatMap {text : Text} (apart : CommentsApart (segments text)) :
    withoutComments text = (segments text).flatMap Segment.kept := by
  fun_induction segments text with
  | case1 text run rest found induction =>
      rw [CommentsApart, flatMap_text_segments] at apart
      rw [List.flatMap_cons, ← induction apart.2, ← Scanner.string.splits found]
      exact withoutComments_append apart.1
  | case2 text _ whole rest found induction =>
      rw [withoutComments_of_scan found]
      exact induction apart
  | case3 => exact withoutComments_nil
  | case4 first rest _ refused induction =>
      rw [withoutComments_cons refused]
      exact congrArg (first :: ·) (induction apart)

/-- Where no comment begins in a quoted run, cleaning takes out the comments outside quoted
runs and nothing else, and every quoted run is left whole. -/
theorem clean_eq_cleanOutsideQuotes {text : Text} (apart : CommentsApart (segments text)) :
    clean text = cleanOutsideQuotes text ∧
      ∀ run, .quoted run ∈ segments text → run <:+: clean text := by
  have equal : clean text = cleanOutsideQuotes text := by
    rw [clean, withoutComments_eq_flatMap apart, cleanOutsideQuotes]
  refine ⟨equal, fun run member => ?_⟩
  rw [equal]
  apply Text.infix_trim (trimmed_of_quoted_mem_segments member)
  rcases List.append_of_mem member with ⟨before, after, split⟩
  rw [split, List.flatMap_append, List.flatMap_cons]
  exact ⟨_, _, List.append_assoc ..⟩

/-- A comment that holds a quote, and a quoted run that holds the start of a comment which
is never closed. -/
theorem clean_eq_cleanOutsideQuotes_unclosed :
    CommentsApart (segments " /* don't */ [a = 'b/*'] ") ∧
      clean " /* don't */ [a = 'b/*'] " = cleanOutsideQuotes " /* don't */ [a = 'b/*'] " := by
  have apart : CommentsApart (segments " /* don't */ [a = 'b/*'] ") := by decide +kernel
  exact ⟨apart, (clean_eq_cleanOutsideQuotes apart).1⟩

/-- What looks like a comment between the quotes of an attribute is taken out of its value. -/
theorem clean_ne_cleanOutsideQuotes :
    clean "[a='/*b*/']" ≠ cleanOutsideQuotes "[a='/*b*/']" ∧
      Selector.read .standard "[a='/*b*/']" =
        .ok (.simple (.attribute "a" (some "=") (some "''"))) := by
  decide +kernel

end Css

end ScopedMarkup
