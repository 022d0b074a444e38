import ScopedMarkup.Markup.Error

namespace ScopedMarkup.Markup

/-! A cursor stands at an index of a source and reads it token by token. It may
stand past the end, where it finds what it finds at the end. -/

/-- A token with the index where it starts. -/
structure PlacedToken where
  token : Token
  start : Nat
deriving DecidableEq, Repr

def PlacedToken.finish (placed : PlacedToken) : Nat :=
  placed.start + placed.token.value.length

structure Cursor where
  source : Text
  position : Nat
deriving DecidableEq, Repr

namespace Cursor

def start (source : Text) : Cursor := ⟨source, 0⟩

def moveTo (cursor : Cursor) (position : Nat) : Cursor := ⟨cursor.source, position⟩

def rest (cursor : Cursor) : Text := cursor.source.drop cursor.position

def atEnd (cursor : Cursor) : Bool := cursor.source.length ≤ cursor.position

/-- The token at the cursor. The end of the source is a token of its own. -/
def current (cursor : Cursor) : PlacedToken :=
  if cursor.atEnd then ⟨.finish, cursor.source.length⟩
  else ⟨Token.first cursor.rest, cursor.position⟩

/-- The cursor behind a token. -/
def after (cursor : Cursor) (placed : PlacedToken) : Cursor := cursor.moveTo placed.finish

/-- The token that comes after so many others. The end repeats. -/
def peek : (cursor : Cursor) → (skipped : Nat) → PlacedToken
  | cursor, 0 => cursor.current
  | cursor, skipped + 1 =>
      if cursor.atEnd then cursor.current else (cursor.after cursor.current).peek skipped

/-- The token at the cursor and the cursor behind it. At the end there is none. -/
def next (cursor : Cursor) : Except Error (PlacedToken × Cursor) :=
  if cursor.atEnd then
    .error ⟨.unexpectedEnd, Place.of cursor.source cursor.source.length⟩
  else .ok (cursor.current, cursor.after cursor.current)

/-- The token at the cursor, which must be of this kind. The second part is
where the cursor stands after that, also when the token is another one. -/
def expect (cursor : Cursor) (kind : TokenKind) : Except Error PlacedToken × Cursor :=
  match cursor.next with
  | .error error => (.error error, cursor)
  | .ok (placed, moved) =>
      if placed.token.kind = kind then (.ok placed, moved)
      else (.error ⟨.unexpectedToken placed.token, Place.of cursor.source placed.start⟩, moved)

theorem position_lt_finish {cursor : Cursor} (unfinished : cursor.atEnd = false) :
    cursor.position < cursor.current.finish := by
  have inside : cursor.position < cursor.source.length := by
    simpa [atEnd] using unfinished
  have nonempty : cursor.rest ≠ [] := by
    simpa [rest] using inside
  have positive := List.length_pos_iff.mpr (Token.value_ne_nil nonempty)
  simp only [current, unfinished, Bool.false_eq_true, if_false, PlacedToken.finish]
  omega

/-- The tokens from the cursor on. -/
def remaining (cursor : Cursor) : List PlacedToken :=
  if _finished : cursor.atEnd then []
  else cursor.current :: (cursor.after cursor.current).remaining
termination_by cursor.source.length - cursor.position
decreasing_by
  have forward := position_lt_finish (Bool.eq_false_iff.mpr _finished)
  have inside : cursor.position < cursor.source.length := by
    simpa [atEnd] using _finished
  simp only [after, moveTo]
  omega

/-- The source from here to the first token where the rest is to stop, and the
cursor there. -/
def captureUntil (cursor : Cursor) (stops : Text → Bool) : Text × Cursor :=
  let captured := (Token.capture stops cursor.rest).1
  (captured, cursor.moveTo (cursor.position + captured.length))

/-- The cursor behind the blanks at its place. -/
def skipBlanks (cursor : Cursor) : Cursor :=
  (cursor.captureUntil fun rest => (Token.first rest).kind ≠ .blank).2

end Cursor

end ScopedMarkup.Markup
