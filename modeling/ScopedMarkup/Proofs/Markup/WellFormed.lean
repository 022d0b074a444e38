import ScopedMarkup.Proofs.Markup.Reading

/-! # What holds of every tree that was read

Printing, looking things up and checking rely on more than the type of a tree says. Whatever
the source, each node of its tree is well-formed where it stands: its texts, its names, what
stands beside it and how many elements it lies in.
-/

namespace ScopedMarkup.Markup

namespace Node

variable {σ : Type}

/-- A node of a tree with the number of elements around it. -/
inductive LiesInside (node : Node σ) : Nat → Node σ → Prop
  | here : LiesInside node 0 node
  | element {count : Nat} {tag : Text} {attributes : List Attribute} {child : Node σ}
      {children : List (Node σ)} (isChild : child ∈ children)
      (inside : LiesInside node count child) :
      LiesInside node (count + 1) (.element tag attributes children)
  | fragment {count : Nat} {child : Node σ} {children : List (Node σ)}
      (isChild : child ∈ children) (inside : LiesInside node count child) :
      LiesInside node count (.fragment children)

def isFragment : Node σ → Bool
  | .fragment _ => true
  | _ => false

/-- The form of a tree, in all its nodes. -/
structure WellFormed (config : Config) (tree : Node σ) : Prop where
  texts : ∀ value count, LiesInside (.text value) count tree → IsTextRun value
  slots : ∀ script count, LiesInside (.slot script) count tree → IsScript script
  tags : ∀ tag attributes children count,
    LiesInside (.element tag attributes children) count tree → IsName tag ∧ tag ≠ "style"
  attributes : ∀ node count, LiesInside node count tree →
    ∀ entry ∈ node.attributes, entry.Formed
  siblings : ∀ parent count, LiesInside parent count tree → parent.children.IsChain Adjoins
  fragments : ∀ parent count, LiesInside parent count tree →
    ∀ child ∈ parent.children, child.isFragment = false
  severalAtTop : ∀ children, tree = .fragment children → children = [] ∨ 2 ≤ children.length
  depth : ∀ node count, LiesInside node count tree → (node.isElement || node.isStyle) = true →
    count < config.maxDepth
  native : ∀ value count, ¬ LiesInside (.foreign value) count tree

/-! ## From the top down -/

variable {config : Config} {node tree : Node σ} {count depth : Nat}

/-- A node is formed inside as many elements as there are around it. -/
theorem LiesInside.formed (inside : LiesInside node count tree)
    (formed : tree.Formed config depth) : node.Formed config (depth + count) := by
  induction inside generalizing depth with
  | here => exact formed
  | element isChild _ induction =>
      have below := induction (formedAll_iff.mp formed.2.2.2.2.2 _ isChild)
      rwa [Nat.add_right_comm] at below
  | fragment => exact formed.elim

theorem Formed.isFragment_eq_false (formed : node.Formed config depth) :
    node.isFragment = false := by
  cases node with
  | fragment children => exact formed.elim
  | _ => rfl

theorem Formed.attributes (formed : node.Formed config depth) :
    FormedAttributes config node.attributes := by
  cases node with
  | element tag attributes children => exact formed.2.2.2.1
  | style attributes sheet => exact formed.2
  | _ => exact FormedAttributes.nil config

theorem Formed.children (formed : node.Formed config depth) :
    node.children.IsChain Adjoins ∧ FormedAll config (depth + 1) node.children := by
  cases node with
  | element tag attributes children => exact formed.2.2.2.2
  | fragment children => exact formed.elim
  | _ => exact ⟨List.isChain_nil, trivial⟩

theorem Formed.depth_lt (formed : node.Formed config depth)
    (tagged : (node.isElement || node.isStyle) = true) : depth < config.maxDepth := by
  cases node with
  | element tag attributes children => exact formed.1
  | style attributes sheet => exact formed.1
  | _ => cases tagged

/-! ## The top -/

variable {nodes : List (Node Css.Selector)}

theorem nil_or_several_of_ofTop {children : List (Node Css.Selector)}
    (equal : ofTop nodes = .fragment children) (whole : ∀ node ∈ nodes, node.isFragment = false) :
    children = [] ∨ 2 ≤ children.length := by
  unfold ofTop at equal
  split at equal
  · rename_i node
    rw [equal] at whole
    exact absurd (whole _ List.mem_cons_self) (by simp [isFragment])
  · rename_i several
    cases equal
    match nodes, several with
    | [], _ => exact .inl rfl
    | [node], several => exact absurd rfl (several node)
    | _ :: _ :: rest, _ => exact .inr (by simp)

/-- With these nodes at the top each node is formed where it stands, but for the one that
holds several of them together. -/
theorem LiesInside.eq_fragment_or_formed {node : Node Css.Selector}
    (inside : LiesInside node count (ofTop nodes)) (all : FormedAll config 0 nodes) :
    node = .fragment nodes ∨ node.Formed config count := by
  have below {top : Node Css.Selector} (isTop : top ∈ nodes)
      (inTop : LiesInside node count top) : node.Formed config count := by
    have formed := inTop.formed (formedAll_iff.mp all top isTop)
    rwa [Nat.zero_add] at formed
  unfold ofTop at inside
  split at inside
  · exact .inr (below List.mem_cons_self inside)
  · cases inside with
    | here => exact .inl rfl
    | fragment isTop inTop => exact .inr (below isTop inTop)

theorem LiesInside.formed_of_isFragment_eq_false {node : Node Css.Selector}
    (inside : LiesInside node count (ofTop nodes)) (all : FormedAll config 0 nodes)
    (other : node.isFragment = false) : node.Formed config count := by
  cases inside.eq_fragment_or_formed all with
  | inl atTop =>
      rw [atTop] at other
      cases other
  | inr formed => exact formed

end Node

open Node

/-- The tree of every source is well-formed. -/
theorem wellFormed_of_read {config : Config} {source : Text} {tree : Node Css.Selector}
    (found : read config source = .ok tree) : tree.WellFormed config := by
  obtain ⟨nodes, rfl, chain, all⟩ := exists_formed_of_read found
  have whole (node : Node Css.Selector) (isTop : node ∈ nodes) : node.isFragment = false :=
    (formedAll_iff.mp all node isTop).isFragment_eq_false
  constructor
  · intro value count inside
    exact inside.formed_of_isFragment_eq_false all rfl
  · intro script count inside
    exact inside.formed_of_isFragment_eq_false all rfl
  · intro tag attributes children count inside
    have element := inside.formed_of_isFragment_eq_false all rfl
    exact ⟨element.2.1.isName, element.2.2.1⟩
  · intro node count inside
    cases inside.eq_fragment_or_formed all with
    | inl atTop =>
        rw [atTop]
        exact List.forall_mem_nil _
    | inr formed => exact formed.attributes.each
  · intro parent count inside
    cases inside.eq_fragment_or_formed all with
    | inl atTop =>
        rw [atTop]
        exact chain
    | inr formed => exact formed.children.1
  · intro parent count inside child isChild
    cases inside.eq_fragment_or_formed all with
    | inl atTop =>
        rw [atTop] at isChild
        exact whole child isChild
    | inr formed => exact (formedAll_iff.mp formed.children.2 child isChild).isFragment_eq_false
  · intro children equal
    exact nil_or_several_of_ofTop equal whole
  · intro node count inside tagged
    have other : node.isFragment = false := by
      cases node with
      | fragment children => cases tagged
      | _ => rfl
    exact (inside.formed_of_isFragment_eq_false all other).depth_lt tagged
  · intro value count inside
    exact inside.formed_of_isFragment_eq_false all rfl

/-- Braces and a slash where they are text, and elements as deep as they may go. -/
theorem wellFormed_of_read_single_braces :
    ∃ tree, read ⟨"m", 2, true, by decide, by decide⟩
        "x\x7b<a/b c='\"'>\x7b\x7b\x7d \x7d\x7dd\x7d<style/></a/b>" = .ok tree ∧
      tree = .fragment [.text "x\x7b", .element "a/b" [⟨"c", some "\""⟩]
        [.slot "\x7d ", .text "d\x7d", .style [] {}]] ∧
      tree.WellFormed ⟨"m", 2, true, by decide, by decide⟩ := by
  have found : read ⟨"m", 2, true, by decide, by decide⟩
      "x\x7b<a/b c='\"'>\x7b\x7b\x7d \x7d\x7dd\x7d<style/></a/b>" =
        .ok (.fragment [.text "x\x7b", .element "a/b" [⟨"c", some "\""⟩]
          [.slot "\x7d ", .text "d\x7d", .style [] {}]]) := by
    decide +kernel
  exact ⟨_, found, rfl, wellFormed_of_read found⟩

end ScopedMarkup.Markup
