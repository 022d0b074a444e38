import Mathlib.Algebra.GroupWithZero.Nat
import ScopedMarkup.Markup.Evaluation
import ScopedMarkup.Proofs.Css.Sheet.Evaluation
import ScopedMarkup.Proofs.Markup.Virtual

/-! # Scoping taken apart

Scoping goes through a tree once. In the same step it marks a node, counts it and stops if
there is a fault. Here these are taken apart: the virtual tree of the marked tree, the first
fault, the counts of a walk over the tree, and the calls that are open at once.
-/

namespace ScopedMarkup.Markup

variable {σ τ : Type}

/-! ## Counts -/

namespace Tally

theorem zero_add (tally : Tally) : zero.add tally = tally := by
  simp only [add, zero, Nat.zero_add]

theorem add_assoc (first second third : Tally) :
    (first.add second).add third = first.add (second.add third) := by
  simp only [add, Nat.add_assoc]

/-- The counts of nodes that are taken each on its own, without what is below it. -/
def ofNodes (nodes : List (Node σ)) : Tally :=
  ⟨nodes.countP Node.isElement, nodes.countP Node.isStyle,
    ((nodes.filterMap Node.sheet?).map fun sheet => sheet.rules.length).sum⟩

theorem ofNodes_append (left right : List (Node σ)) :
    ofNodes (left ++ right) = (ofNodes left).add (ofNodes right) := by
  simp only [ofNodes, add, List.countP_append, List.filterMap_append, List.map_append,
    List.sum_append]

theorem ofNodes_cons (node : Node σ) (rest : List (Node σ)) :
    ofNodes (node :: rest) = (ofNodes [node]).add (ofNodes rest) :=
  ofNodes_append [node] rest

end Tally

namespace Node

/-! ## Faults -/

mutual
/-- The first reason, in the order of the text, why a tree cannot be scoped. -/
def fault? (limit : Nat) : Node Css.Selector → Option Css.ScopeError
  | .text _ | .slot _ => none
  | .element _ _ children => faultIn? limit children
  | .style _ sheet => Css.Rule.faultIn? limit 0 sheet.rules
  | .fragment children => faultIn? limit children
  | .foreign value => some (.unsupportedNode value.kind)

def faultIn? (limit : Nat) : List (Node Css.Selector) → Option Css.ScopeError
  | [] => none
  | node :: rest => (fault? limit node).or (faultIn? limit rest)
end

/-! ## Calls -/

mutual
/-- The most calls that are open at once while a node is scoped: two for each element and
each fragment around a sheet. -/
def calls : Node Css.Selector → Nat
  | .element _ _ children => callsIn children + 2
  | .style _ sheet => sheet.calls + 1
  | .fragment children => callsIn children + 2
  | .text _ | .slot _ | .foreign _ => 1

def callsIn : List (Node Css.Selector) → Nat
  | [] => 0
  | node :: rest => max (calls node) (callsIn rest)
end

theorem calls_pos : ∀ node : Node Css.Selector, 0 < calls node
  | .text _ | .slot _ | .foreign _ => Nat.one_pos
  | .element .. | .style .. | .fragment _ => Nat.succ_pos _

/-! ## Marked trees -/

mutual
/-- The tree with this attribute on each element and its sheets changed. -/
def mark (marker : Attribute) (change : σ → τ) : Node σ → Node τ
  | .text value => .text value
  | .slot script => .slot script
  | .element tag attributes children =>
      .element tag (attributes ++ [marker]) (markAll marker change children)
  | .style attributes sheet => .style attributes (sheet.map change)
  | .fragment children => .fragment (markAll marker change children)
  | .foreign value => .foreign value

def markAll (marker : Attribute) (change : σ → τ) : List (Node σ) → List (Node τ)
  | [] => []
  | node :: rest => mark marker change node :: markAll marker change rest
end

section Walks

variable (marker : Attribute) (change : σ → τ)

mutual
/-- The walk over a marked tree comes to the nodes of the tree, each of them marked. -/
theorem walk_mark : ∀ node : Node σ,
    (node.mark marker change).walk = node.walk.map (mark marker change)
  | .element tag attributes children => by
      rw [mark, walk, walkAll_markAll children, walk, List.map_cons, mark]
  | .fragment children => by
      rw [mark, walk, walkAll_markAll children, walk, List.map_cons, mark]
  | .text _ | .slot _ | .style .. | .foreign _ => rfl

theorem walkAll_markAll : ∀ nodes : List (Node σ),
    walkAll (markAll marker change nodes) = (walkAll nodes).map (mark marker change)
  | [] => rfl
  | node :: rest => by
      rw [markAll, walkAll, walk_mark node, walkAll_markAll rest, walkAll, List.map_append]
end

theorem sheet?_mark (node : Node σ) :
    (node.mark marker change).sheet? = node.sheet?.map fun sheet => sheet.map change := by
  cases node with
  | element | fragment =>
      rw [mark]
      rfl
  | text | slot | style | foreign => rfl

end Walks

/-! ## The run over a tree -/

section Run

variable {scope : Text} {config : Config} {room : Nat}

/-- The virtual tree that scoping makes. -/
def scopedTree (scope : Text) (config : Config) (node : Node Css.Selector) : VirtualNode :=
  (node.mark ⟨config.marker scope, none⟩ (Css.Selector.spelling scope config)).virtual

def scopedTrees (scope : Text) (config : Config) (nodes : List (Node Css.Selector)) :
    List VirtualNode :=
  virtualAll (markAll ⟨config.marker scope, none⟩ (Css.Selector.spelling scope config) nodes)

/-- What a step that scopes nodes on this much room makes of each of them, and counts. -/
def Scopes (scope : Text) (config : Config) (room : Nat)
    (step : Tally → Node Css.Selector → Except Css.Halt (VirtualNode × Tally)) : Prop :=
  ∀ met node, Css.Runs room (calls node) (fault? config.maxDepth node)
    (scopedTree scope config node, met.add (.ofNodes node.walk)) (step met node)

theorem Scopes.threadCounts
    {step : Tally → Node Css.Selector → Except Css.Halt (VirtualNode × Tally)}
    (scopes : Scopes scope config room step) :
    ∀ (met : Tally) (nodes : List (Node Css.Selector)),
      Css.Runs room (callsIn nodes) (faultIn? config.maxDepth nodes)
        (scopedTrees scope config nodes, met.add (.ofNodes (walkAll nodes)))
        (Node.threadCounts step met nodes)
  | met, [] => .done room ([], met)
  | met, node :: rest => by
      have later := scopes.threadCounts (met.add (.ofNodes node.walk)) rest
      rw [Tally.add_assoc, ← Tally.ofNodes_append] at later
      have others := later.map fun made =>
        (scopedTree scope config node :: made.1, made.2)
      exact (scopes met node).bind _ others

/-- On less room, nodes are scoped. -/
def ScopesBelow (scope : Text) (config : Config) (room : Nat) : Prop :=
  ∀ left < room, Scopes scope config left (virtualWithin scope config left)

theorem ScopesBelow.children (scopes : ScopesBelow scope config room) (met : Tally)
    (nodes : List (Node Css.Selector)) :
    Css.Runs room (callsIn nodes + 1) (faultIn? config.maxDepth nodes)
      (scopedTrees scope config nodes, met.add (.ofNodes (walkAll nodes)))
      (childrenWithin scope config room met nodes) := by
  cases room with
  | zero => exact .outOfStack (Nat.succ_pos _)
  | succ left => exact ((scopes left (Nat.lt_succ_self left)).threadCounts met nodes).call

/-- On any room, nodes are scoped: the run makes the virtual tree of the marked node and has
counted what the walk comes to. -/
theorem scopes_virtualWithin (nonempty : scope ≠ []) (config : Config) (room : Nat) :
    Scopes scope config room (virtualWithin scope config room) := by
  induction room using Nat.strongRecOn with
  | ind room below =>
      intro met node
      cases room with
      | zero => exact .outOfStack (calls_pos node)
      | succ room =>
          have scopes : ScopesBelow scope config room := fun left less =>
            below left (Nat.lt_succ_of_lt less)
          cases node with
          | element tag attributes children =>
              have inside := scopes.children (met.add ⟨1, 0, 0⟩) children
              rw [Tally.add_assoc] at inside
              rw [walk, Tally.ofNodes_cons]
              exact (inside.map fun made => (VirtualNode.element tag
                (attributes ++ [(⟨config.marker scope, none⟩ : Attribute)]) made.1, made.2)).call
          | fragment children =>
              -- A fragment counts for nothing, so its children go on from the same counts.
              have inside := scopes.children met children
              exact (inside.map fun made => (VirtualNode.fragment made.1, made.2)).call
          | style attributes sheet =>
              have inside := Css.Sheet.evaluate_runs nonempty room sheet config
              have counted := inside.map fun sheet =>
                (VirtualNode.style attributes sheet, met.add ⟨0, 1, sheet.rules.length⟩)
              rw [Css.Sheet.length_rules_virtual, Css.Sheet.length_rules_map] at counted
              exact counted.call
          | foreign value => exact .refused ..
          | text | slot => exact (Css.Runs.done room _).call

/-- Scoping a tree makes the virtual tree of the marked tree and one message with the counts
of the walk, unless there is a fault or too little room. -/
theorem evaluate_runs (nonempty : scope ≠ []) (room : Nat) (node : Node Css.Selector)
    (config : Config) :
    Css.Runs room (node.calls + 1) (node.fault? config.maxDepth)
      ⟨scopedTree scope config node, [(Tally.ofNodes node.walk).message scope]⟩
      (node.evaluate room scope config) := by
  cases room with
  | zero => exact .outOfStack (Nat.succ_pos _)
  | succ room =>
      have run := (scopes_virtualWithin nonempty config room .zero node).map
        fun made => Evaluated.mk made.1 [made.2.message scope]
      rw [Tally.zero_add] at run
      have same : node.evaluate (room + 1) scope config =
          (node.virtualWithin scope config room .zero >>= fun made =>
            .ok ⟨made.1, [made.2.message scope]⟩) := by
        rw [evaluate, evaluateLogging, if_neg nonempty]
        cases node.virtualWithin scope config room .zero <;> rfl
      rw [same]
      exact run.call

theorem evaluate_of_empty (empty : scope = []) (room : Nat) (node : Node Css.Selector) :
    node.evaluate (room + 1) scope config = .error (.refused .emptyScope) := by
  rw [evaluate, evaluateLogging, if_pos empty]

theorem evaluate_eq_ok_iff {node : Node Css.Selector} {result : Evaluated} :
    node.evaluate room scope config = .ok result ↔
      scope ≠ [] ∧ node.fault? config.maxDepth = none ∧ node.calls < room ∧
        result = ⟨scopedTree scope config node, [(Tally.ofNodes node.walk).message scope]⟩ := by
  by_cases empty : scope = []
  · refine iff_of_false ?_ fun accepts => accepts.1 empty
    cases room with
    | zero => nofun
    | succ room =>
        rw [evaluate_of_empty empty]
        nofun
  · rw [(evaluate_runs empty room node config).eq_ok_iff, and_iff_right empty]
    exact Iff.rfl

/-- What is made is logged with its message, and what fails leaves nothing in the log. -/
theorem evaluateLogging_eq (room : Nat) (node : Node Css.Selector) :
    node.evaluateLogging room scope config =
      match node.evaluate room scope config with
      | .error halt => (.error halt, [])
      | .ok result => (.ok result.tree, result.log) := by
  cases room with
  | zero => rfl
  | succ room =>
      rw [evaluate, evaluateLogging]
      by_cases empty : scope = []
      · rw [if_pos empty]
      · rw [if_neg empty]
        cases node.virtualWithin scope config room .zero <;> rfl

end Run

end Node

end ScopedMarkup.Markup
