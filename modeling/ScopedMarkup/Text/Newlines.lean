import ScopedMarkup.Text.Basic

namespace ScopedMarkup.Text

/-! Lines of a file may end in a carriage return, a line feed, or the first
followed by the second. In what is read from a file they end in line feeds. In
output that is captured only the pair becomes a line feed. -/

def unifyNewlines : Text → Text
  | [] => []
  | '\r' :: '\n' :: rest => '\n' :: unifyNewlines rest
  | '\r' :: rest => '\n' :: unifyNewlines rest
  | character :: rest => character :: unifyNewlines rest

example : unifyNewlines "a\r\nb\rc\n" = ("a\nb\nc\n" : Text) := by decide

/-- The text with a line feed for each pair of a carriage return and a line feed. -/
def joinReturns : Text → Text
  | [] => []
  | '\r' :: '\n' :: rest => '\n' :: joinReturns rest
  | character :: rest => character :: joinReturns rest

example : joinReturns "a\r\nb\r\r\nc\r" = ("a\nb\r\nc\r" : Text) := by decide

end ScopedMarkup.Text
