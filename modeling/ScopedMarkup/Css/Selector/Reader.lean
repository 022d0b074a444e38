import ScopedMarkup.Config
import ScopedMarkup.Css.Comment
import ScopedMarkup.Css.Nesting
import ScopedMarkup.Css.Selector.Token

namespace ScopedMarkup.Css.Selector

/-! Tokens that fit together become a selector. -/

/-- A selector in the making: the members of its comma group so far, the chain
so far with the combinator that goes on from it, and the members of the
compound so far. -/
structure Draft where
  members : List Selector
  chain : Option (Selector × Combinator)
  compound : List Selector
deriving DecidableEq, Repr

namespace Draft

def empty : Draft := ⟨[], none, []⟩

/-- One selector stands for itself, several are a compound. -/
def compoundOf : List Selector → Selector
  | [member] => member
  | members => .compound members

/-- One selector stands for itself, several are a group. -/
def groupOf : List Selector → Selector
  | [member] => member
  | members => .group members

/-- The chain with the compound at its end. -/
def chained (draft : Draft) : Selector :=
  match draft.chain with
  | none => compoundOf draft.compound
  | some (left, combinator) => combine combinator left (compoundOf draft.compound)

def add (draft : Draft) (member : Selector) : Draft :=
  { draft with compound := draft.compound ++ [member] }

def combine (draft : Draft) (combinator : Combinator) : Draft :=
  ⟨draft.members, some (draft.chained, combinator), []⟩

def separate (draft : Draft) : Draft := ⟨draft.members ++ [draft.chained], none, []⟩

def finish (draft : Draft) : Selector := groupOf (draft.members ++ [draft.chained])

end Draft

/-- The selector that tokens make, going on from a draft inside the drafts
around it, the innermost first. -/
def ofTokensFrom : (draft : Draft) → (around : List Draft) → List Token → Selector
  | draft, _, [] => draft.finish
  | draft, around, .simple part :: rest => ofTokensFrom (draft.add (.simple part)) around rest
  | draft, around, .malformed _ :: rest => ofTokensFrom draft around rest
  | draft, around, .combinator combinator :: rest =>
      ofTokensFrom (draft.combine combinator) around rest
  | draft, around, .comma :: rest => ofTokensFrom draft.separate around rest
  | draft, around, .negationOpen :: rest => ofTokensFrom .empty (draft :: around) rest
  | draft, outer :: around, .negationClose :: rest =>
      ofTokensFrom (outer.add (.negation draft.finish)) around rest
  | draft, [], .negationClose :: rest => ofTokensFrom draft [] rest

def ofTokens (tokens : List Token) : Selector := ofTokensFrom .empty [] tokens

/-- Why a text is no selector. Square brackets that hold no attribute selector
are reported without a place. -/
inductive ReadError where
  | malformedAttribute (brackets : Text)
  | misplaced (error : Error)
deriving DecidableEq, Repr

namespace ReadError

def reason : ReadError → Reason
  | .malformedAttribute brackets => .malformedAttribute brackets
  | .misplaced error => error.reason

/-- The index that the error is reported at, if it is. -/
def index? : ReadError → Option Nat
  | .malformedAttribute _ => none
  | .misplaced error => some error.place.index

def message : ReadError → Text
  | .malformedAttribute brackets => (Reason.malformedAttribute brackets).render
  | .misplaced error => error.message

end ReadError

/-- The selector of a clean text. Of its faults, too deep nesting comes first,
then what does not fit, then square brackets that hold no attribute selector. -/
def ofClean (config : Config) (text : Text) : Except ReadError Selector :=
  match Brackets.round.check .selector config.maxDepth text with
  | .error fault => .error (.misplaced (.ofFault text fault))
  | .ok () =>
      match tokens text with
      | .error fault => .error (.misplaced (.ofFault text fault))
      | .ok tokens =>
          match tokens.findSome? Token.malformed? with
          | some brackets => .error (.malformedAttribute brackets)
          | none => .ok (ofTokens tokens)

/-- The selector that a text writes. Places of errors refer to the text without
its comments and the blanks around it. -/
def read (config : Config) (text : Text) : Except ReadError Selector :=
  ofClean config (clean text)

example : (read .standard " a  >b:not( .c ) ").toOption =
    some (.combine .child (.simple (.type "a"))
      (.compound [.simple (.type "b"), .negation (.simple (.className "c"))])) := by
  decide +kernel

end ScopedMarkup.Css.Selector
