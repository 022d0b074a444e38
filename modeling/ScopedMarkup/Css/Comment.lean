import ScopedMarkup.Text.Scanner

namespace ScopedMarkup.Css

/-! Comments stand between a slash with a star and the next star with a slash.
A comment that is never closed is no comment. -/

/-- The mark that a comment begins with. -/
def commentOpen : Text := ['/', '*']

/-- The mark that a comment ends with. -/
def commentClose : Text := ['*', '/']

def comment : Scanner := .literal commentOpen ++ .through commentClose

example : comment.scan "/* a */ b" = some (("/* a */" : Text), (" b" : Text)) := by decide

theorem comment_shortens {text piece rest : Text}
    (found : comment.scan text = some (piece, rest)) : rest.length < text.length := by
  have equal := comment.splits found
  simp only [comment, HAppend.hAppend, Append.append, Scanner.followedBy, Scanner.literal] at found
  split at found
  · simp at found
  · rename_i front middle begins
    simp only [Option.map_eq_some_iff, Prod.mk.injEq, Prod.exists] at found begins
    obtain ⟨_, _, opening, _⟩ := begins
    obtain ⟨more, _, _, rfl, rfl⟩ := found
    subst equal
    subst opening
    simp [commentOpen]
    omega

/-- The text without its comments. A comment counts wherever it stands, also
between quotes. -/
def withoutComments (text : Text) : Text :=
  match _found : comment.scan text with
  | some (_, rest) => withoutComments rest
  | none =>
      match text with
      | [] => []
      | first :: rest => first :: withoutComments rest
termination_by text.length
decreasing_by
  · exact comment_shortens _found
  · exact Nat.lt_succ_self _

/-- The text without its comments and without the blanks around what is left. -/
def clean (text : Text) : Text := (withoutComments text).trim

example : clean " a /* b */ c /* d" = ("a  c /* d" : Text) := by decide +kernel

end ScopedMarkup.Css
