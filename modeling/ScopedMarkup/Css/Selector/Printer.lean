import ScopedMarkup.Css.Selector.Basic

namespace ScopedMarkup.Css

/-! Selectors as text. A foreign value prints as nothing; `write` refuses a
selector that holds one. -/

namespace Simple

/-- An attribute without an operator prints no value. One with an operator and
no value prints `None` in its place. -/
def render : Simple → Text
  | .any => "*"
  | .type name => name
  | .className name => '.' :: name
  | .id name => '#' :: name
  | .attribute name none _ => '[' :: name ++ [']']
  | .attribute name (some operator) value =>
      '[' :: name ++ operator ++ value.getD "None" ++ [']']
  | .pseudo separator name => separator ++ name
  | .function separator name argument => separator ++ name ++ '(' :: argument ++ [')']

end Simple

/-- The text that joins the two sides of a combinator. -/
def Combinator.join : Combinator → Text
  | .descendant => " "
  | .child => " > "
  | .adjacent => " + "
  | .sibling => " ~ "

namespace Selector

mutual
def render : Selector → Text
  | .simple part => part.render
  | .negation argument => ":not(" ++ render argument ++ [')']
  | .combine combinator left right => render left ++ combinator.join ++ render right
  | .group members => Text.join ", " (renderAll members)
  | .compound members => (renderAll members).flatten
  | .foreign _ => []

def renderAll : List Selector → List Text
  | [] => []
  | member :: rest => render member :: renderAll rest
end

example : render (.combine .child (.simple (.type "a")) (.negation (.simple (.id "b")))) =
    ("a > :not(#b)" : Text) := by decide

mutual
/-- The first foreign value in the order of the text. -/
def foreign? : Selector → Option Foreign
  | .simple _ => none
  | .negation argument => foreign? argument
  | .combine _ left right => (foreign? left).or (foreign? right)
  | .group members => foreignIn? members
  | .compound members => foreignIn? members
  | .foreign value => some value

def foreignIn? : List Selector → Option Foreign
  | [] => none
  | member :: rest => (foreign? member).or (foreignIn? rest)
end

def write (selector : Selector) : Except Unprintable Text :=
  match selector.foreign? with
  | some value => .error (.selector value.kind)
  | none => .ok selector.render

end Selector

end ScopedMarkup.Css
