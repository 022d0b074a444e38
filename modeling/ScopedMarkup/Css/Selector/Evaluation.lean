import ScopedMarkup.Css.Selector.Chain
import ScopedMarkup.Css.Selector.Scoping

namespace ScopedMarkup.Css

/-! How a program scopes a selector: functions that call each other put the text
together from left to right, until the first fault. Every call that is open takes
a place on the stack of the interpreter. The room of a function is the number of
places that are left for it and for what it calls; without any, the run ends.
Calls that end before the next one begins take no room here, so the stack must
have some places more than there is room. Only scoping is told with its stack:
reading and writing are taken to have all the room that they need. -/

/-- What ends a run without a result. -/
inductive Halt where
  | refused (error : ScopeError)
  | outOfStack
deriving DecidableEq, Repr

/-- What all functions of a run know. -/
structure Context where
  /-- The marker as it stands in a selector. -/
  suffix : Text
  maxDepth : Nat
deriving DecidableEq, Repr

def Context.make (scope : Text) (config : Config) : Except Halt Context :=
  if scope = [] then .error (.refused .emptyScope)
  else .ok ⟨'[' :: config.marker scope ++ [']'], config.maxDepth⟩

namespace Selector

/-- The links of a chain one after the other, behind the text of what stands
before them. A chain on the right of a combinator lies one level deeper. -/
def appendLinks (textAt : Nat → Selector → Except Halt Text) (depth : Nat) (head : Text)
    (links : List Link) : Except Halt Text :=
  links.foldlM (fun text link => do
    let right ← textAt (if link.right.isChain then depth + 1 else depth) link.right
    return text ++ link.combinator.join ++ right) head

/-- The members of a compound one after the other, behind those in `head` and
`tail`, with the marker between the two. From the first pseudo or negation on,
members belong to the tail. -/
def joinMembers (textOf : Selector → Except Halt Text) (suffix : Text) (head tail : List Text) :
    List Selector → Except Halt Text
  | [] => .ok (head.flatten ++ suffix ++ tail.flatten)
  | .negation argument :: rest => do
      let text ← textOf argument
      joinMembers textOf suffix head (tail ++ [":not(" ++ text ++ [')']]) rest
  | .simple part :: rest =>
      if part.isPseudo || !tail.isEmpty then
        joinMembers textOf suffix head (tail ++ [part.render]) rest
      else joinMembers textOf suffix (head ++ [part.render]) tail rest
  | member :: _ => .error (.refused (.invalidMember member.kind))

mutual
/-- The scoped text of a selector at a depth. -/
def textWithin (context : Context) : Nat → Nat → Selector → Except Halt Text
  | 0, _, _ => .error .outOfStack
  | room + 1, depth, selector =>
      if depth > context.maxDepth then .error (.refused (.selectorTooDeep context.maxDepth))
      else match selector with
        | .simple .any => .ok context.suffix
        | .simple part =>
            .ok (if part.isPseudo then context.suffix ++ part.render
              else part.render ++ context.suffix)
        | .negation argument => do
            let text ← textWithin context room (depth + 1) argument
            return context.suffix ++ ":not(" ++ text ++ [')']
        | .combine combinator left right =>
            chainWithin context room depth (.combine combinator left right)
        | .group members =>
            if members.isEmpty then .error (.refused .emptyGroup)
            else do
              let texts ← groupWithin context room (depth + 1) members
              return Text.join ", " texts
        | .compound members => compoundWithin context room depth members
        | .foreign value => .error (.refused (.unsupportedSelector value.kind))
termination_by structural room => room

def chainWithin (context : Context) : Nat → Nat → Selector → Except Halt Text
  | 0, _, _ => .error .outOfStack
  | room + 1, depth, selector => do
      let head ← textWithin context room depth selector.unchain.1
      appendLinks (textWithin context room) depth head selector.unchain.2

/-- The members of a group are scoped by a function that runs while they are
joined. -/
def groupWithin (context : Context) : Nat → Nat → List Selector → Except Halt (List Text)
  | 0, _, _ => .error .outOfStack
  | room + 1, depth, members => members.mapM (textWithin context room depth)

def compoundWithin (context : Context) : Nat → Nat → List Selector → Except Halt Text
  | 0, _, _ => .error .outOfStack
  | room + 1, depth, members =>
      if members.isEmpty then .error (.refused .emptyCompound)
      else joinMembers (textWithin context room (depth + 1)) context.suffix [] [] members
end

/-- The text of a selector marked with a scope, on a stack with this much room. -/
def evaluate (room : Nat) (selector : Selector) (scope : Text) (config : Config) :
    Except Halt Text :=
  match room with
  | 0 => .error .outOfStack
  | room + 1 => do
      let context ← Context.make scope config
      selector.textWithin context room 0

example : evaluate 3 (.compound [.simple (.type "a"), .simple (.pseudo ":" "b")]) "x" .standard =
    .ok "a[data-pc-x]:b" := rfl

end Selector

end ScopedMarkup.Css
