import ScopedMarkup.Css.Sheet.Evaluation
import ScopedMarkup.Proofs.Css.Selector.Chain
import ScopedMarkup.Proofs.Css.Stack

/-! # Room that is enough

The limit on nesting also bounds the calls that are open at once: a level of a selector takes
four of them at most, and a level of conditional rules three. So there is room on which the
scoping of every sheet ends with a result or an error, whatever the sheet is.
-/

namespace ScopedMarkup.Css

/-! ## Selectors -/

namespace Selector

/-- Room for any selector at a depth: four calls for each level that is left, and one for
what lies too deep. A selector that is no chain does without the two calls of a chain. -/
def roomFor (limit depth : Nat) (selector : Selector) : Nat :=
  if selector.isChain then 4 * (limit + 1 - depth) + 1 else max 1 (4 * (limit + 1 - depth) - 1)

theorem roomFor_le (limit depth : Nat) (selector : Selector) :
    roomFor limit depth selector ≤ 4 * (limit + 1 - depth) + 1 := by
  rw [roomFor]
  split <;> omega

theorem roomFor_of_not_isChain {selector : Selector} (alone : selector.isChain = false)
    {limit depth : Nat} (within : depth ≤ limit) :
    roomFor limit depth selector = 4 * (limit - depth) + 3 := by
  rw [roomFor, alone]
  simp only [Bool.false_eq_true, if_false]
  omega

variable {context : Context} {room depth : Nat}

theorem ends_joinMembers {textOf : Selector → Except Halt Text}
    (ends : ∀ selector, Ends (textOf selector)) (suffix : Text) :
    ∀ (head tail : List Text) (members : List Selector),
      Ends (joinMembers textOf suffix head tail members)
  | _, _, [] => .ok _
  | head, tail, .negation argument :: rest =>
      (ends argument).bind fun _ => ends_joinMembers ends suffix head _ rest
  | head, tail, .simple part :: rest => by
      rw [joinMembers]
      split
      · exact ends_joinMembers ends suffix head _ rest
      · exact ends_joinMembers ends suffix _ tail rest
  | _, _, .combine .. :: _ | _, _, .group _ :: _ | _, _, .compound _ :: _
  | _, _, .foreign _ :: _ => .refused _

/-- With less room than this, selectors are scoped wherever there is room for them. -/
def EndsBelow (context : Context) (room : Nat) : Prop :=
  ∀ left < room, ∀ depth selector, roomFor context.maxDepth depth selector ≤ left →
    Ends (textWithin context left depth selector)

/-- One level deeper there is room for any selector. -/
theorem EndsBelow.deeper (ends : EndsBelow context room) {left : Nat} (less : left < room)
    (within : depth ≤ context.maxDepth) (enough : 4 * (context.maxDepth - depth) + 1 ≤ left)
    (selector : Selector) : Ends (textWithin context left (depth + 1) selector) := by
  have bound := roomFor_le context.maxDepth (depth + 1) selector
  exact ends left less (depth + 1) selector (by omega)

theorem EndsBelow.chain (ends : EndsBelow context room) (within : depth ≤ context.maxDepth)
    (enough : 4 * (context.maxDepth - depth) + 4 ≤ room) (selector : Selector) :
    Ends (chainWithin context room depth selector) := by
  cases room with
  | zero => exact absurd enough (Nat.not_succ_le_zero _)
  | succ left =>
      have alone (part : Selector) (single : part.isChain = false) :
          Ends (textWithin context left depth part) :=
        ends left (Nat.lt_succ_self left) depth part (by
          rw [roomFor_of_not_isChain single within]
          omega)
      refine (alone _ (isChain_head selector)).bind fun head => ?_
      refine Ends.foldlM (fun text link => Ends.bind ?_ fun _ => .ok _) _ head
      cases nested : link.right.isChain with
      | true => exact ends.deeper (Nat.lt_succ_self left) within (by omega) link.right
      | false => exact alone link.right nested

theorem EndsBelow.group (ends : EndsBelow context room) (within : depth ≤ context.maxDepth)
    (enough : 4 * (context.maxDepth - depth) + 2 ≤ room) (members : List Selector) :
    Ends (groupWithin context room (depth + 1) members) := by
  cases room with
  | zero => exact absurd enough (Nat.not_succ_le_zero _)
  | succ left =>
      have member := ends.deeper (Nat.lt_succ_self left) within (by omega)
      exact .mapM member members

theorem EndsBelow.compound (ends : EndsBelow context room) (within : depth ≤ context.maxDepth)
    (enough : 4 * (context.maxDepth - depth) + 2 ≤ room) (members : List Selector) :
    Ends (compoundWithin context room depth members) := by
  cases room with
  | zero => exact absurd enough (Nat.not_succ_le_zero _)
  | succ left =>
      rw [compoundWithin]
      split
      · exact .refused _
      · have argument := ends.deeper (Nat.lt_succ_self left) within (by omega)
        exact ends_joinMembers argument _ [] [] members

/-- Where there is room for any selector at its depth, the scoping of a selector ends. -/
theorem ends_textWithin (context : Context) (room depth : Nat) (selector : Selector)
    (enough : roomFor context.maxDepth depth selector ≤ room) :
    Ends (textWithin context room depth selector) := by
  induction room using Nat.strongRecOn generalizing depth selector with
  | ind room below =>
      cases room with
      | zero =>
          rw [roomFor] at enough
          split at enough <;> omega
      | succ room =>
          have here : EndsBelow context (room + 1) := below
          have ends : EndsBelow context room := fun left less =>
            here left (Nat.lt_succ_of_lt less)
          rw [textWithin.eq_def]
          dsimp only
          by_cases deep : depth > context.maxDepth
          · rw [if_pos deep]
            exact .refused _
          · rw [if_neg deep]
            have within := Nat.not_lt.mp deep
            cases selector with
            | simple part => cases part <;> exact .ok _
            | negation argument =>
                rw [roomFor_of_not_isChain rfl within] at enough
                exact (here.deeper (Nat.lt_succ_self room) within (by omega) argument).bind
                  fun _ => .ok _
            | combine combinator left right =>
                rw [roomFor, isChain, if_pos rfl] at enough
                exact ends.chain within (by omega) _
            | group members =>
                rw [roomFor_of_not_isChain rfl within] at enough
                dsimp only
                split
                · exact .refused _
                · exact (ends.group within (by omega) members).bind fun _ => .ok _
            | compound members =>
                rw [roomFor_of_not_isChain rfl within] at enough
                exact ends.compound within (by omega) members
            | foreign value => exact .refused _

end Selector

/-! ## Sheets -/

namespace Rule

variable {context : Context} {room depth : Nat}

/-- Room for the selector of a style rule. -/
def preludeRoom (limit : Nat) : Nat := 4 * (limit + 1) + 1

/-- Room for a rule of any kind at a depth. -/
def roomFor (limit depth : Nat) : Nat := 3 * (limit - depth) + preludeRoom limit + 1

/-- With less room than this, rules are scoped wherever there is room for them. -/
def EndsBelow (context : Context) (room : Nat) : Prop :=
  ∀ left < room, ∀ depth ≤ context.maxDepth, roomFor context.maxDepth depth ≤ left →
    ∀ rule, Ends (virtualWithin context left depth rule)

/-- A block takes three calls of its own, and fewer where it lies too deep. -/
theorem EndsBelow.block (ends : EndsBelow context room)
    (enough : 3 * (context.maxDepth + 1 - depth) + preludeRoom context.maxDepth ≤ room)
    (rules : List (Rule Selector)) : Ends (blockWithin context room depth rules) := by
  have positive : 0 < preludeRoom context.maxDepth := Nat.succ_pos _
  cases room with
  | zero => omega
  | succ room =>
      rw [blockWithin]
      by_cases deep : depth > context.maxDepth
      · rw [if_pos deep]
        exact .refused _
      · rw [if_neg deep]
        cases room with
        | zero => omega
        | succ left =>
            have fits : roomFor context.maxDepth depth ≤ left := by
              rw [roomFor]
              omega
            exact .mapM (ends left (by omega) depth (Nat.not_lt.mp deep) fits) rules

theorem ends_virtualWithin (context : Context) (room depth : Nat)
    (within : depth ≤ context.maxDepth) (enough : roomFor context.maxDepth depth ≤ room)
    (rule : Rule Selector) : Ends (virtualWithin context room depth rule) := by
  induction room using Nat.strongRecOn generalizing depth rule with
  | ind room below =>
      rw [roomFor] at enough
      cases room with
      | zero => omega
      | succ room =>
          cases rule with
          | style selector declarations =>
              have bound := Selector.roomFor_le context.maxDepth 0 selector
              rw [preludeRoom] at enough
              exact (Selector.ends_textWithin context room 0 selector (by omega)).bind
                fun _ => .ok _
          | conditional clause condition rules =>
              have ends : EndsBelow context room := fun left less depth within enough =>
                below left (Nat.lt_succ_of_lt less) depth within enough
              exact (ends.block (by omega) rules).bind fun _ => .ok _
          | foreign value => exact .refused _
          | charset | nameSpace | fontFace | page | keyframes => exact .ok _

theorem ends_blockWithin (context : Context) (room depth : Nat)
    (enough : 3 * (context.maxDepth + 1 - depth) + preludeRoom context.maxDepth ≤ room)
    (rules : List (Rule Selector)) : Ends (blockWithin context room depth rules) :=
  EndsBelow.block (fun left _ => ends_virtualWithin context left) enough rules

end Rule

/-- Seven calls for each level of the limit, and nine more, are room for every sheet. -/
theorem Sheet.ends_evaluate {room : Nat} {config : Config}
    (enough : 7 * config.maxDepth + 9 ≤ room) (sheet : Sheet Selector) (scope : Text) :
    Ends (sheet.evaluate room scope config) := by
  cases room with
  | zero => exact absurd enough (Nat.not_succ_le_zero _)
  | succ room =>
      rw [evaluate, Context.make]
      split
      · exact .refused _
      · have fits : 3 * (config.maxDepth + 1 - 0) + Rule.preludeRoom config.maxDepth ≤ room := by
          rw [Rule.preludeRoom]
          omega
        exact (Rule.ends_blockWithin _ room 0 fits sheet.rules).bind fun _ => .ok _

end ScopedMarkup.Css
