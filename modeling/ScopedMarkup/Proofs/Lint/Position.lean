import ScopedMarkup.Lint.Check

/-! # Positions in a tree

A position leads down from the top of a tree, child by child. The nodes of a text stand
in the order of their positions: each node before its children, and these one after the
other. Walks come to each position once, in this order, and so do traversals that keep on
a stack what they still have to visit.
-/

namespace ScopedMarkup

/-! ## Traversals with a stack -/

/-- A traversal visits the entry on top of its stack and puts the children of this entry
in its place, the first child on top. -/
inductive Traverses {α : Type} (children : α → List α) : (stack visited : List α) → Prop where
  | done : Traverses children [] []
  | visit {entry : α} {stack visited : List α} :
      Traverses children (children entry ++ stack) visited →
      Traverses children (entry :: stack) (entry :: visited)

namespace Traverses

variable {α β : Type} {children : α → List α} {stack visited other : List α}

theorem unique (traversed : Traverses children stack visited)
    (again : Traverses children stack other) : other = visited := by
  induction traversed generalizing other with
  | done =>
      cases again
      rfl
  | visit _ induction =>
      cases again with
      | visit further => rw [induction further]

/-- What the entries stand for is visited in the same order. -/
theorem map {change : α → β} {children' : β → List β}
    (commutes : ∀ entry, (children entry).map change = children' (change entry))
    (traversed : Traverses children stack visited) :
    Traverses children' (stack.map change) (visited.map change) := by
  induction traversed with
  | done => exact .done
  | visit _ induction =>
      rw [List.map_append, commutes] at induction
      exact .visit induction

end Traverses

namespace Markup.Node

variable {σ : Type} {node : Node σ}

/-! ## Positions -/

mutual
/-- The positions of a node and of all nodes below it, in the order of the text. -/
def positions : Node σ → List (List Nat)
  | .element _ _ children | .fragment children => [] :: positionsFrom 0 children
  | .text _ | .slot _ | .style .. | .foreign _ => [[]]

/-- The same for children, the first of which has this index. -/
def positionsFrom (index : Nat) : List (Node σ) → List (List Nat)
  | [] => []
  | node :: rest => node.positions.map (index :: ·) ++ positionsFrom (index + 1) rest
end

example : positions (.fragment [.element "a" [] [.text "b", .slot "c"], .text "d"] : Node Text) =
    [[], [0], [0, 0], [0, 1], [1]] := by decide

theorem positions_eq (node : Node σ) :
    node.positions = [] :: positionsFrom 0 node.children := by
  cases node <;> rfl

theorem exists_of_mem_positionsFrom {position : List Nat} {index : Nat} {nodes : List (Node σ)}
    (member : position ∈ positionsFrom index nodes) :
    ∃ first rest, position = first :: rest ∧ index ≤ first := by
  induction nodes generalizing index with
  | nil => cases member
  | cons node nodes induction =>
      rcases List.mem_append.mp member with here | further
      · rcases List.mem_map.mp here with ⟨rest, -, rfl⟩
        exact ⟨index, rest, rfl, Nat.le_refl index⟩
      · rcases induction further with ⟨first, rest, rfl, later⟩
        exact ⟨first, rest, rfl, Nat.le_of_succ_le later⟩

mutual
/-- A node stands before the nodes below it, and these in the order of their indices. -/
theorem pairwise_positions : ∀ node : Node σ, node.positions.Pairwise (List.Lex (· < ·))
  | .element _ _ children | .fragment children => by
      refine List.pairwise_cons.mpr ⟨fun position member => ?_, pairwise_positionsFrom 0 children⟩
      rcases exists_of_mem_positionsFrom member with ⟨first, rest, rfl, -⟩
      exact .nil
  | .text _ | .slot _ | .style .. | .foreign _ => List.pairwise_singleton ..

theorem pairwise_positionsFrom : ∀ (index : Nat) (nodes : List (Node σ)),
    (positionsFrom index nodes).Pairwise (List.Lex (· < ·))
  | _, [] => .nil
  | index, node :: rest => by
      refine List.pairwise_append.mpr
        ⟨List.pairwise_map.mpr ?_, pairwise_positionsFrom (index + 1) rest, ?_⟩
      · exact (pairwise_positions node).imp .cons
      · intro left here right further
        rcases List.mem_map.mp here with ⟨inner, -, rfl⟩
        rcases exists_of_mem_positionsFrom further with ⟨first, others, rfl, later⟩
        exact .rel later
end

/-! ## What is at a position and around it -/

/-- The nodes that are passed on the way down to a position, from the top on. -/
def passed (node : Node σ) : (position : List Nat) → List (Node σ)
  | [] => []
  | index :: rest => node :: (node.children[index]?).elim [] fun child => child.passed rest

/-- The elements around a position, from the top on. -/
def enclosing (node : Node σ) (position : List Nat) : List (Node σ) :=
  (node.passed position).filter isElement

/-- The tags of the elements around a position, from the top on. -/
def tagsAround (node : Node σ) (position : List Nat) : List Text :=
  (node.enclosing position).filterMap tag?

/-- The tags of the elements around a position, and that of the node there if it has one. -/
def tagsDownTo (node : Node σ) (position : List Nat) : List Text :=
  node.tagsAround position ++ ((node.descend? position).bind tag?).toList

theorem tagsAround_cons {child : Node σ} {index : Nat} (found : node.children[index]? = some child)
    (rest : List Nat) :
    node.tagsAround (index :: rest) = node.tag?.toList ++ child.tagsAround rest := by
  rw [tagsAround, enclosing, passed, found, Option.elim_some]
  cases node with
  | element tag attributes children => rfl
  | fragment children => rfl
  | text _ | slot _ | style _ _ | foreign _ => cases found

theorem enclosing_eq_nil_iff {position : List Nat} :
    node.enclosing position = [] ↔ node.tagsAround position = [] := by
  rw [tagsAround, List.filterMap_eq_nil_iff]
  constructor
  · intro none other member
    rw [none] at member
    cases member
  · intro untagged
    refine List.eq_nil_iff_forall_not_mem.mpr fun other member => ?_
    have element := (List.mem_filter.mp member).2
    have none := untagged other member
    cases other with
    | element _ _ _ | style _ _ => cases none
    | text _ | slot _ | fragment _ | foreign _ => cases element

theorem descend?_cons {child : Node σ} {index : Nat} (found : node.children[index]? = some child)
    (rest : List Nat) : node.descend? (index :: rest) = child.descend? rest := by
  rw [descend?, found, Option.bind_some]

/-- The first of the children from an index on has this index. -/
theorem getElem?_of_drop_eq_cons {nodes rest : List (Node σ)} {index : Nat}
    (behind : nodes.drop index = node :: rest) :
    nodes[index]? = some node ∧ nodes.drop (index + 1) = rest := by
  constructor
  · rw [← Nat.add_zero index, ← List.getElem?_drop, behind, List.getElem?_cons_zero]
  · rw [← List.drop_drop, behind, List.drop_succ_cons, List.drop_zero]

theorem mem_positionsFrom_iff {all nodes : List (Node σ)} {index first : Nat} {rest : List Nat}
    (behind : all.drop index = nodes) :
    first :: rest ∈ positionsFrom index nodes ↔
      index ≤ first ∧ ∃ child, all[first]? = some child ∧ rest ∈ child.positions := by
  induction nodes generalizing index with
  | nil =>
      refine iff_of_false List.not_mem_nil ?_
      rintro ⟨later, child, found, -⟩
      have inside := (List.getElem?_eq_some_iff.mp found).1
      have short := List.drop_eq_nil_iff.mp behind
      omega
  | cons node nodes induction =>
      rcases getElem?_of_drop_eq_cons behind with ⟨found, further⟩
      have here : first :: rest ∈ node.positions.map (index :: ·) ↔
          first = index ∧ rest ∈ node.positions := by
        constructor
        · intro member
          rcases List.mem_map.mp member with ⟨inner, inside, equal⟩
          cases equal
          exact ⟨rfl, inside⟩
        · rintro ⟨rfl, inside⟩
          exact List.mem_map_of_mem inside
      rw [positionsFrom, List.mem_append, here, induction further]
      constructor
      · rintro (⟨rfl, member⟩ | ⟨later, others⟩)
        · exact ⟨Nat.le_refl first, node, found, member⟩
        · exact ⟨Nat.le_of_succ_le later, others⟩
      · rintro ⟨later, child, isChild, member⟩
        rcases Nat.eq_or_lt_of_le later with rfl | later
        · cases found.symm.trans isChild
          exact .inl ⟨rfl, member⟩
        · exact .inr ⟨later, child, isChild, member⟩

/-- The positions are those that lead to a node. -/
theorem mem_positions_iff {position : List Nat} :
    position ∈ node.positions ↔ (node.descend? position).isSome = true := by
  induction position generalizing node with
  | nil => simp [positions_eq, descend?]
  | cons index rest induction =>
      have below :
          index :: rest ∈ node.positions ↔ index :: rest ∈ positionsFrom 0 node.children := by
        simp [positions_eq]
      rw [below, mem_positionsFrom_iff (List.drop_zero (l := node.children)), descend?]
      cases found : node.children[index]? with
      | none => simp
      | some child => simpa using induction

end Markup.Node

namespace Lint

open Markup

variable {σ : Type}

/-! ## Walks -/

mutual
/-- Checks see the nodes of a tree in the order of the walk over it. -/
theorem map_node_placedNodes : ∀ (around : List Text) (node : Node σ),
    (placedNodes around node).map PlacedNode.node = node.walk
  | around, .element tag _ children =>
      congrArg (List.cons _) (map_node_placedNodesIn (around ++ [tag]) children)
  | around, .fragment children => congrArg (List.cons _) (map_node_placedNodesIn around children)
  | _, .text _ | _, .slot _ | _, .style .. | _, .foreign _ => rfl

theorem map_node_placedNodesIn : ∀ (around : List Text) (nodes : List (Node σ)),
    (placedNodesIn around nodes).map PlacedNode.node = Node.walkAll nodes
  | _, [] => rfl
  | around, node :: rest => by
      rw [placedNodesIn, List.map_append, map_node_placedNodes, map_node_placedNodesIn around rest,
        Node.walkAll]
end

theorem placedNodes_eq (around : List Text) (node : Node σ) :
    placedNodes around node = ⟨node, around⟩ ::
      placedNodesIn (around ++ node.tag?.toList) node.children := by
  cases node <;> simp [placedNodes, placedNodesIn, Node.tag?, Node.children]

/-- What checks see at a position, below a node inside elements with these tags. -/
def placedAt? (around : List Text) (node : Node σ) (position : List Nat) :
    Option (PlacedNode σ) :=
  (node.descend? position).map fun found => ⟨found, around ++ node.tagsAround position⟩

theorem placedAt?_nil (around : List Text) (node : Node σ) :
    placedAt? around node [] = some ⟨node, around⟩ := by
  rw [placedAt?, Node.descend?, Option.map_some, Node.tagsAround, Node.enclosing, Node.passed,
    List.filter_nil, List.filterMap_nil, List.append_nil]

theorem placedAt?_cons (around : List Text) {node child : Node σ} {index : Nat}
    (found : node.children[index]? = some child) (rest : List Nat) :
    placedAt? around node (index :: rest) = placedAt? (around ++ node.tag?.toList) child rest := by
  rw [placedAt?, placedAt?, Node.descend?_cons found, Node.tagsAround_cons found,
    List.append_assoc]

mutual
theorem map_some_placedNodes : ∀ (around : List Text) (node : Node σ),
    (placedNodes around node).map some = node.positions.map (placedAt? around node)
  | around, .element tag attributes children => by
      rw [placedNodes_eq, Node.positions_eq, List.map_cons, List.map_cons, placedAt?_nil]
      exact congrArg (List.cons _)
        (map_some_placedNodesIn around (.element tag attributes children) List.drop_zero)
  | around, .fragment children => by
      rw [placedNodes_eq, Node.positions_eq, List.map_cons, List.map_cons, placedAt?_nil]
      exact congrArg (List.cons _)
        (map_some_placedNodesIn around (.fragment children) List.drop_zero)
  | around, .text _ | around, .slot _ | around, .style .. | around, .foreign _ =>
      congrArg (List.cons · []) (placedAt?_nil around _).symm

/-- What checks see below a node, position by position. -/
theorem map_some_placedNodesIn (around : List Text) (parent : Node σ) :
    ∀ {index : Nat} {nodes : List (Node σ)}, parent.children.drop index = nodes →
      (placedNodesIn (around ++ parent.tag?.toList) nodes).map some =
        (Node.positionsFrom index nodes).map (placedAt? around parent)
  | _, [], _ => rfl
  | index, node :: rest, behind => by
      rcases Node.getElem?_of_drop_eq_cons behind with ⟨found, further⟩
      rw [placedNodesIn, Node.positionsFrom, List.map_append, List.map_append, List.map_map,
        map_some_placedNodes _ node, map_some_placedNodesIn around parent further]
      refine congrArg (· ++ _) (List.map_congr_left fun position _ => ?_)
      exact (placedAt?_cons around found position).symm
end

/-- Checks come to each position once, in the order of positions. -/
theorem placedNodes_eq_filterMap (tree : Node σ) :
    placedNodes [] tree = tree.positions.filterMap (placedAt? [] tree) := by
  have same := congrArg (List.filterMap id) (map_some_placedNodes [] tree)
  simpa [List.filterMap_map] using same

/-- So does the walk. -/
theorem map_some_walk (tree : Node σ) :
    tree.walk.map some = tree.positions.map tree.descend? := by
  have same := congrArg (List.map (Option.map PlacedNode.node)) (map_some_placedNodes [] tree)
  rw [← map_node_placedNodes [] tree, List.map_map]
  rw [List.map_map, List.map_map] at same
  refine same.trans (List.map_congr_left fun position _ => ?_)
  rw [Function.comp_apply, placedAt?, Option.map_map]
  exact Option.map_id'

/-! ## Walks with a stack -/

/-- The children of a node with the tags around them. -/
def PlacedNode.children (placed : PlacedNode σ) : List (PlacedNode σ) :=
  placed.node.children.map fun child => ⟨child, placed.path⟩

mutual
theorem traverses_placedNodes {stack visited : List (PlacedNode σ)}
    (further : Traverses PlacedNode.children stack visited) :
    ∀ (around : List Text) (node : Node σ),
      Traverses PlacedNode.children (⟨node, around⟩ :: stack) (placedNodes around node ++ visited)
  | around, .element tag attributes children =>
      .visit (traverses_placedNodesIn further (around ++ [tag]) children)
  | around, .fragment children => by
      have path : PlacedNode.path ⟨.fragment children, around⟩ = around := List.append_nil around
      refine .visit ?_
      rw [PlacedNode.children, path]
      exact traverses_placedNodesIn further around children
  | around, .text _ | around, .slot _ | around, .style .. | around, .foreign _ => .visit further

/-- A traversal comes to what checks see, in the same order. -/
theorem traverses_placedNodesIn {stack visited : List (PlacedNode σ)}
    (further : Traverses PlacedNode.children stack visited) :
    ∀ (around : List Text) (nodes : List (Node σ)),
      Traverses PlacedNode.children (nodes.map (fun node => ⟨node, around⟩) ++ stack)
        (placedNodesIn around nodes ++ visited)
  | _, [] => further
  | around, node :: rest => by
      rw [placedNodesIn, List.append_assoc]
      exact traverses_placedNodes (traverses_placedNodesIn further around rest) around node
end

/-- A traversal comes to what checks see at the positions, one after the other. -/
theorem traverses_iff {tree : Node σ} {visited : List (PlacedNode σ)} :
    Traverses PlacedNode.children [⟨tree, []⟩] visited ↔
      visited.map some = tree.positions.map (placedAt? [] tree) := by
  have traversed := traverses_placedNodes .done [] tree
  rw [List.append_nil] at traversed
  rw [← map_some_placedNodes]
  constructor
  · intro again
    rw [traversed.unique again]
  · intro same
    rwa [(List.map_inj_right fun _ _ => Option.some.inj).mp same]

/-- The walk visits the nodes as a traversal with a stack does. -/
theorem traverses_walk_iff {tree : Node σ} {visited : List (Node σ)} :
    Traverses Node.children [tree] visited ↔ visited = tree.walk := by
  have placed := traverses_placedNodes .done [] tree
  have commutes : ∀ entry : PlacedNode σ,
      entry.children.map PlacedNode.node = entry.node.children := by
    intro entry
    rw [PlacedNode.children, List.map_map]
    exact List.map_id _
  have walked := placed.map commutes
  rw [List.append_nil, map_node_placedNodes] at walked
  constructor
  · exact walked.unique
  · rintro rfl
    exact walked

end Lint

end ScopedMarkup
