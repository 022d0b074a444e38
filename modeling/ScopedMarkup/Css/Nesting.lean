import ScopedMarkup.Css.Error

namespace ScopedMarkup.Css

/-! Brackets may nest to a limit. The limit is checked on the text alone,
before anything is read from it. Quoted runs and comments are passed over, also
when they are never closed. -/

/-- Where a place of a text lies for the count of brackets. -/
inductive Region where
  | plain
  | quoted (quote : Char)
  | comment
deriving DecidableEq, Repr

structure Brackets where
  opening : Char
  closing : Char
deriving DecidableEq, Repr

namespace Brackets

def round : Brackets := ⟨'(', ')'⟩

def curly : Brackets := ⟨'{', '}'⟩

/-- The text from the first bracket on that opens one level more than the
limit. Closing brackets without a partner give levels back. -/
def overflow? (brackets : Brackets) (limit : Nat) :
    (region : Region) → (depth : Int) → Text → Option Text
  | _, _, [] => none
  | .quoted quote, depth, first :: rest =>
      overflow? brackets limit (if first = quote then .plain else .quoted quote) depth rest
  | .comment, depth, '*' :: '/' :: rest => overflow? brackets limit .plain depth rest
  | .comment, depth, _ :: rest => overflow? brackets limit .comment depth rest
  | .plain, depth, '/' :: '*' :: rest => overflow? brackets limit .comment depth rest
  | .plain, depth, first :: rest =>
      if first = '"' ∨ first = '\'' then overflow? brackets limit (.quoted first) depth rest
      else if first = brackets.opening then
        if depth + 1 > limit then some (first :: rest)
        else overflow? brackets limit .plain (depth + 1) rest
      else if first = brackets.closing then overflow? brackets limit .plain (depth - 1) rest
      else overflow? brackets limit .plain depth rest

example : round.overflow? 1 .plain 0 "a(b)(')'(c" = some ("(c" : Text) := by decide

/-- The fault of a text whose brackets nest deeper than the limit. -/
def check (brackets : Brackets) (nested : Nested) (limit : Nat) (text : Text) :
    Except Fault Unit :=
  match brackets.overflow? limit .plain 0 text with
  | some rest => .error ⟨.tooDeep nested limit, rest⟩
  | none => .ok ()

end Brackets

end ScopedMarkup.Css
