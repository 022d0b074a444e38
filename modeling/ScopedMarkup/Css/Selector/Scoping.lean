import ScopedMarkup.Config
import ScopedMarkup.Css.Selector.Printer

namespace ScopedMarkup.Css

/-! A scoped selector matches only elements that carry the marker attribute of
its scope. Every element that a selector speaks of is marked: both sides of a
combinator, every member of a group, the argument of a negation. A compound
speaks of one element and gets one marker, before its first pseudo or negation,
or else at its end. -/

inductive ScopeError where
  | emptyScope
  | selectorTooDeep (limit : Nat)
  | rulesTooDeep (limit : Nat)
  | emptyGroup
  | emptyCompound
  | invalidMember (kind : Text)
  | unsupportedSelector (kind : Text)
  | unsupportedRule (kind : Text)
  | unsupportedNode (kind : Text)
deriving DecidableEq, Repr

namespace ScopeError

def message : ScopeError → Text
  | .emptyScope => "Scope token must be a non-empty string"
  | .selectorTooDeep limit => "Selector nesting exceeds " ++ Text.ofNat limit ++ " levels"
  | .rulesTooDeep limit => "Rule nesting exceeds " ++ Text.ofNat limit ++ " levels"
  | .emptyGroup => "Empty selector group"
  | .emptyCompound => "Empty compound selector"
  | .invalidMember kind => "Invalid member in compound selector: " ++ kind
  | .unsupportedSelector kind => "Unsupported selector: " ++ kind
  | .unsupportedRule kind => "Unsupported rule: " ++ kind
  | .unsupportedNode kind => "Unsupported node: " ++ kind

end ScopeError

namespace Selector

/-- The selector of the elements that carry a marker. -/
def marked (marker : Text) : Selector := simple (.attribute marker none none)

/-- The members of a compound with the marker among them. -/
def insertMarker (marker : Text) : List Selector → List Selector
  | [] => [marked marker]
  | member :: rest =>
      if member.isPseudo then marked marker :: member :: rest
      else member :: insertMarker marker rest

mutual
def mark (marker : Text) : Selector → Selector
  | .simple .any => marked marker
  | .simple part =>
      if part.isPseudo then compound [marked marker, simple part]
      else compound [simple part, marked marker]
  | .negation argument => compound [marked marker, negation (mark marker argument)]
  | .combine combinator left right =>
      combine combinator (mark marker left) (mark marker right)
  | .group members => group (markAll marker members)
  | .compound members => compound (insertMarker marker (markArguments marker members))
  | .foreign value => foreign value

def markAll (marker : Text) : List Selector → List Selector
  | [] => []
  | member :: rest => mark marker member :: markAll marker rest

/-- The members of a compound, with the arguments of its negations marked. -/
def markArguments (marker : Text) : List Selector → List Selector
  | [] => []
  | .negation argument :: rest =>
      negation (mark marker argument) :: markArguments marker rest
  | member :: rest => member :: markArguments marker rest
end

example : (mark "m" (.compound [.simple (.type "a"), .simple (.pseudo ":" "hover")])).render =
    ("a[m]:hover" : Text) := by decide

mutual
/-- The first reason, in the order of the text, why a selector cannot be
scoped. Negations and groups count as a level of nesting, and so does a chain
on the right of a combinator; the length of a chain does not. -/
def fault? (limit depth : Nat) (selector : Selector) : Option ScopeError :=
  if depth > limit then some (.selectorTooDeep limit)
  else match selector with
    | .simple _ => none
    | .negation argument => fault? limit (depth + 1) argument
    | .combine _ left right =>
        (fault? limit depth left).or
          (fault? limit (if right.isChain then depth + 1 else depth) right)
    | .group [] => some .emptyGroup
    | .group (member :: rest) => faultIn? limit (depth + 1) (member :: rest)
    | .compound [] => some .emptyCompound
    | .compound (member :: rest) => memberFault? limit (depth + 1) (member :: rest)
    | .foreign value => some (.unsupportedSelector value.kind)

def faultIn? (limit depth : Nat) : List Selector → Option ScopeError
  | [] => none
  | member :: rest => (fault? limit depth member).or (faultIn? limit depth rest)

/-- The first reason among the members of a compound. -/
def memberFault? (limit depth : Nat) : List Selector → Option ScopeError
  | [] => none
  | .simple _ :: rest => memberFault? limit depth rest
  | .negation argument :: rest =>
      (fault? limit depth argument).or (memberFault? limit depth rest)
  | member :: _ => some (.invalidMember member.kind)
end

/-- The text of the selector marked with a scope. -/
def scope (selector : Selector) (scope : Text) (config : Config) : Except ScopeError Text :=
  if scope = [] then .error .emptyScope
  else match selector.fault? config.maxDepth 0 with
    | some error => .error error
    | none => .ok (selector.mark (config.marker scope)).render

end Selector

end ScopedMarkup.Css
