import ScopedMarkup.Markup.Piece

namespace ScopedMarkup.Markup

/-! Pieces become a tree. Blanks around nodes that are no text are dropped. One
node at the top stands for itself; none or several are a fragment. -/

/-- An element that is open, with the siblings read before it. -/
structure OpenElement where
  tag : Text
  attributes : List Attribute
  before : List (Node Css.Selector)
deriving DecidableEq, Repr

/-- What reading a source has come to: the elements that are open, the
innermost first, and the nodes read inside the innermost. -/
structure Progress where
  around : List OpenElement
  inside : List (Node Css.Selector)
deriving DecidableEq, Repr

namespace Progress

def start : Progress := ⟨[], []⟩

def openTags (progress : Progress) : List Text := progress.around.map OpenElement.tag

def add (progress : Progress) : Piece → Progress
  | .whole node => ⟨progress.around, progress.inside ++ [node]⟩
  | .opening tag attributes => ⟨⟨tag, attributes, progress.inside⟩ :: progress.around, []⟩
  | .closing =>
      match progress.around with
      | [] => progress
      | outer :: around =>
          ⟨around, outer.before ++ [.element outer.tag outer.attributes progress.inside]⟩

/-- The number of open tags is what a counter of the depth would hold: an opening tag
adds one to it and a closing tag takes one away. -/
theorem length_openTags_add (progress : Progress) (piece : Piece) :
    (progress.add piece).openTags.length =
      match piece with
      | .whole _ => progress.openTags.length
      | .opening .. => progress.openTags.length + 1
      | .closing => progress.openTags.length - 1 := by
  rcases progress with ⟨around, inside⟩
  cases piece with
  | whole | opening => rfl
  | closing => cases around <;> rfl

end Progress

/-- The nodes at the top as one node. -/
def Node.ofTop : List (Node Css.Selector) → Node Css.Selector
  | [node] => node
  | nodes => .fragment nodes

/-- The tree of a source, read from a text that is the rest of it. -/
def readFrom (config : Config) (progress : Progress) (text : Text) :
    Except Fault (Node Css.Selector) :=
  let rest := text.trimStart
  if _nonempty : rest = [] then
    if progress.around.isEmpty then .ok (.ofTop progress.inside)
    else .error (.unexpected rest)
  else
    match _read : readPiece config progress.openTags rest with
    | .error fault => .error fault
    | .ok (piece, following) => readFrom config (progress.add piece) following
termination_by text.length
decreasing_by
  exact Nat.lt_of_lt_of_le (readPiece_shortens _nonempty _read)
    (List.dropWhile_suffix isBlank).length_le

/-- The tree that a source writes. -/
def read (config : Config) (source : Text) : Except Error (Node Css.Selector) :=
  match readFrom config .start source with
  | .error fault => .error (.ofFault source fault)
  | .ok node => .ok node

example : (read .standard "<a b='c'> \x7b\x7bd\x7d\x7d e</a>").toOption =
    some (.element "a" [⟨"b", some "c"⟩] [.slot "d", .text "e"]) := by decide +kernel

end ScopedMarkup.Markup
