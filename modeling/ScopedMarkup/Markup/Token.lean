import ScopedMarkup.Text.Blank

namespace ScopedMarkup.Markup

/-! Markup is read as tokens: punctuation, runs of blanks, and words. A word is
everything up to the next blank or the next punctuation. The values of the
tokens make up the text again. -/

inductive TokenKind where
  | word
  | blank
  | lessThan
  | greaterThan
  | selfClose
  | closeTag
  | slotOpen
  | slotClose
  | singleQuote
  | doubleQuote
  | equals
  | dot
  | finish
deriving DecidableEq, Repr

namespace TokenKind

/-- The name that messages use. -/
def name : TokenKind → Text
  | word => "Word"
  | blank => "Whitespace"
  | lessThan => "LessThan"
  | greaterThan => "GreaterThan"
  | selfClose => "SelfCloseTag"
  | closeTag => "CloseTag"
  | slotOpen => "SlotOpen"
  | slotClose => "SlotClose"
  | singleQuote => "SingleQuote"
  | doubleQuote => "DoubleQuote"
  | equals => "Equals"
  | dot => "Dot"
  | finish => "EOF"

def all : List TokenKind :=
  [word, blank, lessThan, greaterThan, selfClose, closeTag, slotOpen, slotClose, singleQuote,
    doubleQuote, equals, dot, finish]

def ofName? (name : Text) : Option TokenKind := all.find? fun kind => kind.name = name

end TokenKind

structure Token where
  kind : TokenKind
  value : Text
deriving DecidableEq, Repr

namespace Token

/-- What stands at the end of every source. -/
def finish : Token := ⟨.finish, []⟩

/-- The punctuation at the start of a text, the longer one first. -/
def punctuation? : Text → Option (Token × Text)
  | '<' :: '/' :: rest => some (⟨.closeTag, ['<', '/']⟩, rest)
  | '/' :: '>' :: rest => some (⟨.selfClose, ['/', '>']⟩, rest)
  | '{' :: '{' :: rest => some (⟨.slotOpen, ['{', '{']⟩, rest)
  | '}' :: '}' :: rest => some (⟨.slotClose, ['}', '}']⟩, rest)
  | '<' :: rest => some (⟨.lessThan, ['<']⟩, rest)
  | '>' :: rest => some (⟨.greaterThan, ['>']⟩, rest)
  | '\'' :: rest => some (⟨.singleQuote, ['\'']⟩, rest)
  | '"' :: rest => some (⟨.doubleQuote, ['"']⟩, rest)
  | '=' :: rest => some (⟨.equals, ['=']⟩, rest)
  | '.' :: rest => some (⟨.dot, ['.']⟩, rest)
  | _ => none

/-- A word ends before a blank, before punctuation and at the end. -/
def endsWord : Text → Bool
  | [] => true
  | first :: rest => isBlank first || (punctuation? (first :: rest)).isSome

/-- The part of a text that a word goes on with, and the rest. -/
def wordRun : Text → Text × Text
  | [] => ([], [])
  | first :: rest =>
      if endsWord (first :: rest) then ([], first :: rest)
      else
        let (more, remaining) := wordRun rest
        (first :: more, remaining)

/-- The first token of a text and what follows it. -/
def scan (text : Text) : Token × Text :=
  match punctuation? text with
  | some found => found
  | none =>
      match text with
      | [] => (finish, [])
      | first :: rest =>
          if isBlank first then
            (⟨.blank, first :: rest.takeWhile isBlank⟩, rest.dropWhile isBlank)
          else (⟨.word, first :: (wordRun rest).1⟩, (wordRun rest).2)

/-- The first token of a text. -/
def first (text : Text) : Token := (scan text).1

/-- The text after its first token. -/
def rest (text : Text) : Text := (scan text).2

example : first "</a>" = ⟨.closeTag, "</"⟩ ∧ first "a/b/>" = ⟨.word, "a/b"⟩ := by decide

theorem punctuation?_splits {text remaining : Text} {token : Token}
    (found : punctuation? text = some (token, remaining)) :
    token.value ++ remaining = text ∧ token.value ≠ [] := by
  unfold punctuation? at found
  split at found <;> simp_all <;> (obtain ⟨rfl, rfl⟩ := found; simp)

theorem wordRun_splits (text : Text) : (wordRun text).1 ++ (wordRun text).2 = text := by
  induction text with
  | nil => rfl
  | cons first rest induction =>
      unfold wordRun
      split
      · rfl
      · simp [induction]

theorem value_append_rest (text : Text) : (first text).value ++ rest text = text := by
  unfold first rest scan
  split
  · rename_i token found
    obtain ⟨token, remaining⟩ := token
    exact (punctuation?_splits found).1
  · split
    · rfl
    · split
      · simp [List.takeWhile_append_dropWhile]
      · simp [wordRun_splits]

theorem value_ne_nil {text : Text} (nonempty : text ≠ []) : (first text).value ≠ [] := by
  unfold first scan
  split
  · rename_i token found
    obtain ⟨token, remaining⟩ := token
    exact (punctuation?_splits found).2
  · split
    · contradiction
    · split <;> simp

theorem rest_length_lt {text : Text} (nonempty : text ≠ []) :
    (rest text).length < text.length := by
  have equal := congrArg List.length (value_append_rest text)
  have positive := List.length_pos_iff.mpr (value_ne_nil nonempty)
  rw [List.length_append] at equal
  omega

theorem rest_suffix (text : Text) : rest text <:+ text :=
  ⟨(first text).value, value_append_rest text⟩

/-- The tokens before the first point where the rest is to stop, as one text,
and that rest. Without such a point everything is captured. -/
def capture (stops : Text → Bool) (text : Text) : Text × Text :=
  if _finished : text = [] then ([], [])
  else if stops text then ([], text)
  else
    let (more, remaining) := capture stops (rest text)
    ((first text).value ++ more, remaining)
termination_by text.length
decreasing_by exact rest_length_lt _finished

theorem capture_splits (stops : Text → Bool) (text : Text) :
    (capture stops text).1 ++ (capture stops text).2 = text := by
  fun_induction capture stops text with
  | case1 => simp [*]
  | case2 => simp
  | case3 text _ _ more remaining equal induction =>
      rw [equal] at induction
      simp only at induction ⊢
      rw [List.append_assoc, induction, value_append_rest]

theorem capture_suffix (stops : Text → Bool) (text : Text) : (capture stops text).2 <:+ text :=
  ⟨_, capture_splits stops text⟩

/-- Whether the next token is of one of these kinds. -/
def startsWith (kinds : List TokenKind) (text : Text) : Bool := kinds.contains (first text).kind

/-- Whether a close tag comes next and the word after its mark is this one. -/
def startsClosing (name : Text) (text : Text) : Bool :=
  (first text).kind = .closeTag && first (rest text) = ⟨.word, name⟩

end Token

end ScopedMarkup.Markup
