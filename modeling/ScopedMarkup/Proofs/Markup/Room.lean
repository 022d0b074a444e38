import ScopedMarkup.Markup.Evaluation
import ScopedMarkup.Proofs.Css.Room
import ScopedMarkup.Proofs.Markup.Reading

/-! # Room for what was read

Reading nests elements no deeper than the limit, and scoping takes two calls for each of
them. So there is room on which the scoping of every tree that was read ends.
-/

namespace ScopedMarkup.Markup

namespace Node

open Css (Ends)

variable {scope : Text} {config : Config} {room depth : Nat}

theorem ends_threadCounts
    {step : Tally → Node Css.Selector → Except Css.Halt (VirtualNode × Tally)} :
    ∀ (met : Tally) (nodes : List (Node Css.Selector)),
      (∀ node ∈ nodes, ∀ met, Ends (step met node)) → Ends (threadCounts step met nodes)
  | _, [], _ => .ok _
  | met, node :: rest, ends => by
      rcases List.forall_mem_cons.mp ends with ⟨here, later⟩
      exact (here met).bind fun made =>
        (ends_threadCounts made.2 rest later).bind fun _ => .ok _

/-- Room for a node that was read inside so many elements. -/
def roomFor (limit depth : Nat) : Nat := 2 * (limit - depth) + (7 * limit + 9) + 1

/-- With less room than this, nodes that were read are scoped wherever there is room. -/
def EndsBelow (scope : Text) (config : Config) (room : Nat) : Prop :=
  ∀ left < room, ∀ depth ≤ config.maxDepth, roomFor config.maxDepth depth ≤ left →
    ∀ node : Node Css.Selector, node.Formed config depth →
      ∀ met, Ends (virtualWithin scope config left met node)

theorem EndsBelow.children (ends : EndsBelow scope config room) (within : depth ≤ config.maxDepth)
    (enough : roomFor config.maxDepth depth + 1 ≤ room) {nodes : List (Node Css.Selector)}
    (formed : FormedAll config depth nodes) (met : Tally) :
    Ends (childrenWithin scope config room met nodes) := by
  cases room with
  | zero => exact absurd enough (Nat.not_succ_le_zero _)
  | succ left =>
      exact ends_threadCounts met nodes fun node member =>
        ends left (Nat.lt_succ_self left) depth within (Nat.le_of_succ_le_succ enough) node
          (formedAll_iff.mp formed node member)

theorem ends_virtualWithin (scope : Text) (config : Config) (room depth : Nat)
    (within : depth ≤ config.maxDepth) (enough : roomFor config.maxDepth depth ≤ room)
    (node : Node Css.Selector) (formed : node.Formed config depth) (met : Tally) :
    Ends (virtualWithin scope config room met node) := by
  induction room using Nat.strongRecOn generalizing depth node met with
  | ind room below =>
      rw [roomFor] at enough
      cases room with
      | zero => omega
      | succ room =>
          have ends : EndsBelow scope config room :=
            fun left less depth within enough node formed met =>
              below left (Nat.lt_succ_of_lt less) depth within enough node formed met
          cases node with
          | element tag attributes children =>
              obtain ⟨deeper, -, -, -, -, all⟩ := formed
              have fits : roomFor config.maxDepth (depth + 1) + 1 ≤ room := by
                rw [roomFor]
                omega
              exact (ends.children deeper fits all _).bind fun _ => .ok _
          | style attributes sheet =>
              exact (Css.Sheet.ends_evaluate (by omega) sheet scope).bind fun _ => .ok _
          | fragment | foreign => exact formed.elim
          | text | slot => exact .ok _

theorem ends_evaluate {node : Node Css.Selector}
    (ends : Ends (node.virtualWithin scope config room .zero)) :
    Ends (node.evaluate (room + 1) scope config) := by
  rw [evaluate, evaluateLogging]
  by_cases empty : scope = []
  · rw [if_pos empty]
    exact .refused _
  · rw [if_neg empty]
    cases made : node.virtualWithin scope config room .zero with
    | ok => exact .ok _
    | error halt =>
        cases halt with
        | refused error => exact .refused error
        | outOfStack => exact absurd made ends

end Node

open Node

/-- Nine calls for each level of the limit, and thirteen more, are room for every tree that
was read. -/
theorem ends_evaluate_of_read {config : Config} {source : Text} {tree : Node Css.Selector}
    (found : read config source = .ok tree) {room : Nat}
    (enough : 9 * config.maxDepth + 13 ≤ room) (scope : Text) :
    Css.Ends (tree.evaluate room scope config) := by
  obtain ⟨nodes, rfl, -, all⟩ := exists_formed_of_read found
  obtain ⟨room, rfl⟩ : ∃ left, room = left + 2 := ⟨room - 2, by omega⟩
  have fits : roomFor config.maxDepth 0 + 1 ≤ room := by
    rw [roomFor]
    omega
  refine ends_evaluate ?_
  unfold ofTop
  split
  · exact ends_virtualWithin scope config (room + 1) 0 (Nat.zero_le _) (by omega) _ all.1 .zero
  · have ends : EndsBelow scope config room := fun left _ => ends_virtualWithin scope config left
    exact (ends.children (Nat.zero_le _) fits all .zero).bind fun _ => .ok _

end ScopedMarkup.Markup
