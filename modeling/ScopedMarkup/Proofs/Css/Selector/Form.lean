import ScopedMarkup.Css.Selector.Printer
import ScopedMarkup.Css.Selector.Reader
import ScopedMarkup.Proofs.Css.Nesting

/-! # The form of selectors that were read

`Simple.Written` says which simple selectors have a text of their own, and
`Selector.Formed` is the grammar of selectors as a relation on trees. A formed
tree stands for one list of tokens, and its text is the text of these tokens.
-/

namespace ScopedMarkup.Css

/-! ## Names and bodies -/

/-- A name that begins with a character of this class. -/
def NameFrom (starts : Char → Bool) (name : Text) : Prop :=
  ∃ first rest, name = first :: rest ∧ starts first = true ∧
    ∀ character ∈ rest, continuesName character = true

/-- The name of a pseudo may begin with a hyphen. -/
def startsPseudo (character : Char) : Bool := startsName character || character = '-'

theorem continuesName_of_startsPseudo {character : Char}
    (starts : startsPseudo character = true) : continuesName character = true := by
  rcases Bool.or_eq_true .. ▸ starts with starts | hyphen
  · exact continuesName_of_startsName starts
  · rw [of_decide_eq_true hyphen]
    decide

theorem NameFrom.continues {starts : Char → Bool} {name : Text} (form : NameFrom starts name)
    (starting : ∀ character, starts character = true → continuesName character = true) :
    ∀ character ∈ name, continuesName character = true := by
  rcases form with ⟨first, rest, rfl, start, continuing⟩
  intro character member
  rcases List.mem_cons.mp member with rfl | member
  · exact starting character start
  · exact continuing character member

/-- What stands between square brackets. -/
def bracketSpan : Span := .between [']', '"', '\''] (by decide)

/-- The argument of a functional pseudo. -/
def argumentSpan : Span where
  outside := ['(', ')', '"', '\'']
  inside := some ['(', ')', '"', '\'']

namespace Selector

/-- The signs between the name of an attribute and a value. -/
def operators : List Text :=
  [['='], ['~', '='], ['|', '='], ['^', '='], ['$', '='], ['*', '=']]

def IsAttributeName (name : Text) : Prop :=
  name ≠ [] ∧ ∀ character ∈ name, Token.endsAttributeName character = false

/-- The colons of a pseudo. -/
def IsColons (separator : Text) : Prop := separator = [':'] ∨ separator = [':', ':']

/-- A functional pseudo that opens a negation instead. -/
def ReadsAsNegation (separator name : Text) : Prop :=
  separator = [':'] ∧ name.map Char.toLower = ['n', 'o', 't']

end Selector

namespace Simple

open Selector

/-- A simple selector whose text is read as that selector. -/
inductive Written : Simple → Prop
  | any : Written .any
  | type {name : Text} (form : NameFrom startsName name) : Written (.type name)
  | className {hyphen name : Text} (hyphens : hyphen = [] ∨ hyphen = ['-'])
      (form : NameFrom startsName name) : Written (.className (hyphen ++ name))
  | id {name : Text} (form : NameFrom continuesName name) : Written (.id name)
  | bareBrackets {name : Text} (form : IsAttributeName name) (whole : bracketSpan.Whole name) :
      Written (.attribute name none none)
  | brackets {name operator value : Text} (form : IsAttributeName name)
      (known : operator ∈ operators) (trimmed : value.Trimmed)
      (whole : bracketSpan.Whole (name ++ operator ++ value)) :
      Written (.attribute name (some operator) (some value))
  | pseudo {separator name : Text} (colons : IsColons separator)
      (form : NameFrom startsPseudo name) : Written (.pseudo separator name)
  | function {separator name argument : Text} (colons : IsColons separator)
      (form : NameFrom startsPseudo name) (noNegation : ¬ ReadsAsNegation separator name)
      (trimmed : argument.Trimmed) (whole : argumentSpan.Whole argument) :
      Written (.function separator name argument)

/-- Whether the text goes on as the same name if a name follows. -/
def endsName : Simple → Bool
  | .type _ | .className _ | .id _ | .pseudo .. => true
  | .any | .attribute .. | .function .. => false

def isType : Simple → Bool
  | .type _ => true
  | _ => false

end Simple

namespace Selector

/-! ## The grammar -/

def endsName : Selector → Bool
  | .simple part => part.endsName
  | _ => false

def isType : Selector → Bool
  | .simple part => part.isType
  | _ => false

/-- No two neighbours whose texts would run together. -/
def Separated : List Selector → Prop
  | [] => True
  | first :: rest =>
      (∀ second ∈ rest.head?, first.endsName = true → second.isType = false) ∧ Separated rest

/-- What a selector may be part of: a member stands in a compound, a compound in
a chain, a chain in a group. -/
inductive Rank where
  | member
  | compound
  | chain
  | whole
deriving DecidableEq, Repr

inductive Formed : Rank → Selector → Prop
  | simple {part : Simple} (written : part.Written) : Formed .member (.simple part)
  | negation {argument : Selector} (form : Formed .whole argument) :
      Formed .member (.negation argument)
  | lone {member : Selector} (form : Formed .member member) : Formed .compound member
  | compound {members : List Selector} (several : 2 ≤ members.length)
      (forms : ∀ member ∈ members, Formed .member member) (separated : Separated members) :
      Formed .compound (.compound members)
  | head {compound : Selector} (form : Formed .compound compound) : Formed .chain compound
  | combine {combinator : Combinator} {left right : Selector} (leftForm : Formed .chain left)
      (rightForm : Formed .compound right) : Formed .chain (.combine combinator left right)
  | single {chain : Selector} (form : Formed .chain chain) : Formed .whole chain
  | group {members : List Selector} (several : 2 ≤ members.length)
      (forms : ∀ member ∈ members, Formed .chain member) : Formed .whole (.group members)

/-! ## Formed selectors can be printed -/

theorem foreignIn?_eq_none {members : List Selector}
    (each : ∀ member ∈ members, member.foreign? = none) : foreignIn? members = none := by
  induction members with
  | nil => rfl
  | cons member rest induction =>
      rw [foreignIn?, each member List.mem_cons_self]
      exact induction fun other inside => each other (List.mem_cons_of_mem _ inside)

theorem Formed.foreign?_eq_none {rank : Rank} {selector : Selector}
    (formed : Formed rank selector) : selector.foreign? = none := by
  induction formed with
  | simple _ => rfl
  | negation _ argument => exact argument
  | lone _ member => exact member
  | compound _ _ _ members => exact foreignIn?_eq_none members
  | head _ compound => exact compound
  | combine _ _ left right =>
      rw [foreign?, left]
      exact right
  | single _ chain => exact chain
  | group _ _ members => exact foreignIn?_eq_none members

/-! ## The tokens of a selector -/

mutual
def toTokens : Selector → List Token
  | .simple part => [.simple part]
  | .negation argument => .negationOpen :: toTokens argument ++ [.negationClose]
  | .combine combinator left right => toTokens left ++ .combinator combinator :: toTokens right
  | .group members => toTokensApart members
  | .compound members => toTokensAll members
  | .foreign _ => []

def toTokensAll : List Selector → List Token
  | [] => []
  | member :: rest => toTokens member ++ toTokensAll rest

/-- The tokens of the members of a group, with commas between them. -/
def toTokensApart : List Selector → List Token
  | [] => []
  | member :: rest => toTokens member ++ toTokensAfter rest

/-- The tokens of the members of a group after its first, each after a comma. -/
def toTokensAfter : List Selector → List Token
  | [] => []
  | member :: rest => .comma :: toTokens member ++ toTokensAfter rest
end

def Token.render : Token → Text
  | .simple part => part.render
  | .malformed text => text
  | .combinator sign => sign.join
  | .comma => ", "
  | .negationOpen => ":not("
  | .negationClose => [')']

/-- The text of tokens. -/
def renderTokens (tokens : List Token) : Text := tokens.flatMap Token.render

@[simp] theorem renderTokens_append (left right : List Token) :
    renderTokens (left ++ right) = renderTokens left ++ renderTokens right :=
  List.flatMap_append

@[simp] theorem renderTokens_cons (token : Token) (rest : List Token) :
    renderTokens (token :: rest) = token.render ++ renderTokens rest := rfl

@[simp] theorem renderTokens_nil : renderTokens [] = [] := rfl

theorem join_cons (separator first : Text) (rest : List Text) :
    Text.join separator (first :: rest) = first ++ rest.flatMap (separator ++ ·) := by
  induction rest generalizing first with
  | nil => exact (List.append_nil first).symm
  | cons second rest induction =>
      rw [Text.join, induction second, List.flatMap_cons, List.append_assoc, List.append_assoc]

theorem render_negation (argument : Selector) :
    render (.negation argument) = (":not(" : Text) ++ render argument ++ [')'] := rfl

theorem render_combine (combinator : Combinator) (left right : Selector) :
    render (.combine combinator left right) =
      render left ++ combinator.join ++ render right := rfl

theorem render_group (members : List Selector) :
    render (.group members) = Text.join ", " (renderAll members) := rfl

theorem render_compound (members : List Selector) :
    render (.compound members) = (renderAll members).flatten := rfl

theorem renderAll_cons (member : Selector) (rest : List Selector) :
    renderAll (member :: rest) = render member :: renderAll rest := rfl

mutual
theorem renderTokens_toTokens : ∀ selector : Selector,
    renderTokens selector.toTokens = selector.render
  | .simple part => by
      rw [toTokens]
      exact List.append_nil part.render
  | .negation argument => by
      rw [toTokens, List.cons_append, renderTokens_cons, renderTokens_append,
        renderTokens_toTokens argument, render_negation, List.append_assoc]
      rfl
  | .combine combinator left right => by
      rw [toTokens, renderTokens_append, renderTokens_cons, renderTokens_toTokens left,
        renderTokens_toTokens right, render_combine, List.append_assoc]
      rfl
  | .group members => by
      rw [toTokens, render_group, renderTokens_toTokensApart members]
  | .compound members => by
      rw [toTokens, render_compound, renderTokens_toTokensAll members]
  | .foreign _ => rfl

theorem renderTokens_toTokensAll : ∀ members : List Selector,
    renderTokens (toTokensAll members) = (renderAll members).flatten
  | [] => rfl
  | member :: rest => by
      rw [toTokensAll, renderTokens_append, renderTokens_toTokens member,
        renderTokens_toTokensAll rest, renderAll_cons, List.flatten_cons]

theorem renderTokens_toTokensApart : ∀ members : List Selector,
    renderTokens (toTokensApart members) = Text.join ", " (renderAll members)
  | [] => rfl
  | member :: rest => by
      rw [toTokensApart, renderTokens_append, renderTokens_toTokens member,
        renderTokens_toTokensAfter rest, renderAll_cons, join_cons]

theorem renderTokens_toTokensAfter : ∀ members : List Selector,
    renderTokens (toTokensAfter members) = (renderAll members).flatMap ((", " : Text) ++ ·)
  | [] => rfl
  | member :: rest => by
      rw [toTokensAfter, List.cons_append, renderTokens_cons, renderTokens_append,
        renderTokens_toTokens member, renderTokens_toTokensAfter rest, renderAll_cons,
        List.flatMap_cons, List.append_assoc]
      rfl
end

end Selector

end ScopedMarkup.Css
