import ScopedMarkup.Proofs.Lint.Position
import ScopedMarkup.Proofs.Lint.Repetition
import ScopedMarkup.Proofs.Text.Blank

/-! # What the checks find

Each check finds the offences of its kind, one by one and in the order of the text. A
finding names the tags of the elements around its node and, unless it is about a slot, the
tag of the node itself.
-/

namespace ScopedMarkup

open Markup

/-- The attributes have different names. -/
def Markup.Attribute.Distinct (attributes : List Attribute) : Prop :=
  (attributes.map Attribute.name).Nodup

namespace Lint

variable {σ : Type}

/-! ## Offences -/

/-- The positions of the nodes of a kind. -/
def positionsOf (kind : Node σ → Bool) (tree : Node σ) : List (List Nat) :=
  tree.positions.filter fun position => (tree.descend? position).any kind

def isEmptySlot : Node σ → Bool
  | .slot script => Text.Blank script
  | _ => false

/-- Whether a node is an import without the attribute that names its source. -/
def lacksSource : Node σ → Bool
  | .element tag attributes _ =>
      tag = ("import" : Text) && attributes.all fun entry => entry.name ≠ ("src" : Text)
  | _ => false

/-- The names that attributes of the element at a position repeat, each with its tag. -/
def repetitionsAt (tree : Node σ) (position : List Nat) : List (Text × Text) :=
  match tree.descend? position with
  | some (.element tag attributes _) => (repeatedNames (attributes.map Attribute.name)).map (tag, ·)
  | some (.style attributes _) => (repeatedNames (attributes.map Attribute.name)).map ("style", ·)
  | _ => []

/-! ## What is said about them -/

namespace Finding

def repeated (path : List Text) (tag name : Text) : Finding where
  rule := "check_duplicate_attributes"
  severity := .warning
  message := "Attribute '" ++ name ++ "' is set more than once on <" ++ tag ++ ">."
  path := path
  fix := some ("Remove the repeated '" ++ name ++ "' attribute.")

def emptySlot (path : List Text) : Finding where
  rule := "check_empty_slots"
  severity := .warning
  message := "Empty slot '\x7b\x7b\x7d\x7d' renders nothing."
  path := path
  fix := some "Put an expression inside the slot or remove it."

def nestedStyle (path : List Text) : Finding where
  rule := "check_nested_style_elements"
  severity := .info
  message :=
    "<style> is nested inside another element; its rules still apply to the whole component."
  path := path
  fix := some "Move the <style> element to the top level."

def missingSource (path : List Text) : Finding where
  rule := "check_import_src"
  severity := .error
  message := "<import> is missing its 'src' attribute."
  path := path
  fix := some "Add src=\"...\" pointing at the imported component."

end Finding

/-! ## Checks position by position -/

theorem filterMap_placedNodes {β : Type} {tree : Node σ} {report : PlacedNode σ → Option β}
    {offends : List Nat → Bool} {finding : List Nat → β}
    (agree : ∀ position node, tree.descend? position = some node →
      report ⟨node, tree.tagsAround position⟩ =
        if offends position then some (finding position) else none) :
    (placedNodes [] tree).filterMap report = (tree.positions.filter offends).map finding := by
  rw [placedNodes_eq_filterMap, List.filterMap_filterMap, ← List.filterMap_eq_map,
    List.filterMap_filter]
  refine List.filterMap_congr fun position member => ?_
  rcases Option.isSome_iff_exists.mp (Node.mem_positions_iff.mp member) with ⟨node, found⟩
  rw [placedAt?, found, Option.map_some, Option.bind_some, List.nil_append]
  exact agree position node found

theorem emptySlots_findings (tree : Node Css.Selector) :
    Check.emptySlots.findings tree =
      (positionsOf isEmptySlot tree).map fun position => .emptySlot (tree.tagsAround position) := by
  refine filterMap_placedNodes fun position node found => ?_
  rw [found, Option.any_some]
  cases node with
  | slot script =>
      simp only [isEmptySlot, Text.trim_eq_nil_iff, decide_eq_true_eq]
      rfl
  | element _ _ _ | style _ _ | text _ | fragment _ | foreign _ => rfl

theorem nestedStyleElements_findings (tree : Node Css.Selector) :
    Check.nestedStyleElements.findings tree =
      ((positionsOf Node.isStyle tree).filter fun position => tree.enclosing position ≠ []).map
        fun position => .nestedStyle (tree.tagsDownTo position) := by
  rw [positionsOf, List.filter_filter]
  refine filterMap_placedNodes fun position node found => ?_
  rw [found, Option.any_some, Node.tagsDownTo, found]
  simp only [Bool.and_comm, ne_eq, Node.enclosing_eq_nil_iff]
  rfl

theorem importSource_findings (tree : Node Css.Selector) :
    Check.importSource.findings tree =
      (positionsOf lacksSource tree).map fun position =>
        .missingSource (tree.tagsDownTo position) := by
  refine filterMap_placedNodes fun position node found => ?_
  rw [found, Option.any_some, Node.tagsDownTo, found]
  cases node with
  | element tag attributes children =>
      have same :
          (!Node.hasAttribute "src" (.element tag attributes children : Node Css.Selector)) =
            attributes.all fun entry => entry.name ≠ ("src" : Text) := by
        simp [Node.hasAttribute, Node.attribute?, Node.attributes, List.isSome_find?,
          List.not_any_eq_all_not]
      simp only [lacksSource, same]
      rfl
  | slot _ | style _ _ | text _ | fragment _ | foreign _ => rfl

theorem duplicateAttributes_findings (tree : Node Css.Selector) :
    Check.duplicateAttributes.findings tree = tree.positions.flatMap fun position =>
      (repetitionsAt tree position).map fun (tag, name) =>
        .repeated (tree.tagsDownTo position) tag name := by
  refine (congrArg (List.flatMap _) (placedNodes_eq_filterMap tree)).trans ?_
  rw [List.filterMap_eq_flatMap_toList, List.flatMap_assoc]
  refine List.flatMap_congr fun position member => ?_
  rcases Option.isSome_iff_exists.mp (Node.mem_positions_iff.mp member) with ⟨node, found⟩
  rw [placedAt?, found, Option.map_some, Option.toList_some, List.flatMap_singleton, repetitionsAt,
    Node.tagsDownTo, found]
  cases node with
  | element _ _ _ | style _ _ =>
      simp only [List.map_map]
      rfl
  | slot _ | text _ | fragment _ | foreign _ => rfl

/-! ## The findings of each check -/

section Findings

variable {tree : Node Css.Selector} {finding : Finding}

theorem exists_repeated_of_mem (found : finding ∈ Check.duplicateAttributes.findings tree) :
    ∃ path tag name, finding = .repeated path tag name := by
  rw [duplicateAttributes_findings] at found
  rcases List.mem_flatMap.mp found with ⟨position, -, inside⟩
  rcases List.mem_map.mp inside with ⟨⟨tag, name⟩, -, rfl⟩
  exact ⟨_, tag, name, rfl⟩

theorem exists_emptySlot_of_mem (found : finding ∈ Check.emptySlots.findings tree) :
    ∃ path, finding = .emptySlot path := by
  rw [emptySlots_findings] at found
  rcases List.mem_map.mp found with ⟨position, -, rfl⟩
  exact ⟨_, rfl⟩

theorem exists_nestedStyle_of_mem (found : finding ∈ Check.nestedStyleElements.findings tree) :
    ∃ path, finding = .nestedStyle path := by
  rw [nestedStyleElements_findings] at found
  rcases List.mem_map.mp found with ⟨position, -, rfl⟩
  exact ⟨_, rfl⟩

theorem exists_missingSource_of_mem (found : finding ∈ Check.importSource.findings tree) :
    ∃ path, finding = .missingSource path := by
  rw [importSource_findings] at found
  rcases List.mem_map.mp found with ⟨position, -, rfl⟩
  exact ⟨_, rfl⟩

end Findings

/-! ## Trees without offences -/

theorem positionsOf_eq_nil_iff {kind : Node σ → Bool} {tree : Node σ} :
    positionsOf kind tree = [] ↔ ∀ below ∈ tree.walk, kind below = false := by
  have visited : (∀ found ∈ tree.positions.map tree.descend?, found.any kind = false) ↔
      ∀ below ∈ tree.walk, kind below = false := by
    rw [← map_some_walk, List.forall_mem_map]
    rfl
  rw [← visited, List.forall_mem_map, positionsOf, List.filter_eq_nil_iff]
  simp only [Bool.not_eq_true]

/-- No import lacks its source in a tree where nothing is found. -/
theorem importSource_findings_eq_nil_iff {tree : Node Css.Selector} :
    Check.importSource.findings tree = [] ↔ ∀ below ∈ tree.walk, lacksSource below = false := by
  rw [importSource_findings, List.map_eq_nil_iff, positionsOf_eq_nil_iff]

/-- Only elements and style elements have attributes. -/
theorem attributes_eq_nil_of_tag? {node : Node σ} (noTag : node.tag? = none) :
    node.attributes = [] := by
  cases node with
  | element _ _ _ | style _ _ => cases noTag
  | text _ | slot _ | fragment _ | foreign _ => rfl

/-- Nothing is found in a tree where the attributes of each node are distinct. -/
theorem findings_eq_nil_iff {tree : Node Css.Selector} :
    Check.duplicateAttributes.findings tree = [] ↔
      ∀ below ∈ tree.walk, Attribute.Distinct below.attributes := by
  apply List.flatMap_eq_nil_iff.trans
  rw [← map_node_placedNodes [] tree, List.forall_mem_map]
  apply forall₂_congr
  intro placed _
  cases tagged : placed.node.tag? with
  | none =>
      rw [attributes_eq_nil_of_tag? tagged]
      exact iff_of_true rfl List.nodup_nil
  | some tag => exact List.map_eq_nil_iff.trans repeatedNames_eq_nil_iff

/-! ## All offences -/

/-- The checks find exactly the offences, in the order of the text. The positions of a tree
are in order and are those that lead to its nodes. The walk comes to each of them once, and
so do traversals with a stack, also when they take the tags around a node along. A name is
repeated in a tag if it stands there more than once, and the repeated names come in the
order of their second places. -/
theorem findings_of_offences (tree : Node Css.Selector) :
    (tree.positions.Pairwise (List.Lex (· < ·)) ∧
      (∀ position, position ∈ tree.positions ↔ (tree.descend? position).isSome = true) ∧
      tree.walk.map some = tree.positions.map tree.descend? ∧
      (∀ visited, Traverses Node.children [tree] visited ↔ visited = tree.walk) ∧
      ∀ visited, Traverses PlacedNode.children [⟨tree, []⟩] visited ↔
        visited.map some = tree.positions.map (placedAt? [] tree)) ∧
    ((∀ names, (repeatedNames names).Nodup ∧
        (∀ name, name ∈ repeatedNames names ↔ 2 ≤ names.count name) ∧
        repeatedNames names = (List.range names.length).filterMap (secondAt? names)) ∧
      Check.duplicateAttributes.findings tree = tree.positions.flatMap fun position =>
        (repetitionsAt tree position).map fun (tag, name) =>
          .repeated (tree.tagsDownTo position) tag name) ∧
    Check.emptySlots.findings tree =
      (positionsOf isEmptySlot tree).map (fun position => .emptySlot (tree.tagsAround position)) ∧
    Check.nestedStyleElements.findings tree =
      ((positionsOf Node.isStyle tree).filter fun position => tree.enclosing position ≠ []).map
        (fun position => .nestedStyle (tree.tagsDownTo position)) ∧
    Check.importSource.findings tree =
      (positionsOf lacksSource tree).map fun position =>
        .missingSource (tree.tagsDownTo position) :=
  ⟨⟨Node.pairwise_positions tree, fun _ => Node.mem_positions_iff, map_some_walk tree,
      fun _ => traverses_walk_iff, fun _ => traverses_iff⟩,
    ⟨fun names => ⟨nodup_repeatedNames names, fun _ => mem_repeatedNames_iff,
      repeatedNames_eq_filterMap names⟩, duplicateAttributes_findings tree⟩,
    emptySlots_findings tree, nestedStyleElements_findings tree, importSource_findings tree⟩

end Lint

end ScopedMarkup
