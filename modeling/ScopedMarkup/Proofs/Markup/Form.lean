import Mathlib.Data.List.Chain
import Mathlib.Data.List.Infix
import ScopedMarkup.Markup.Query
import ScopedMarkup.Proofs.Markup.Capture

/-! # The form of trees that were read

What each part of a node looks like so that its text is read as that part, which
siblings can stand next to each other, and how deep elements go: `Node.Formed`
puts it all together.
-/

namespace ScopedMarkup.Markup

/-! ## Parts of nodes -/

/-- Text up to the next node or to the end. -/
structure IsTextRun (value : Text) : Prop where
  nonempty : value ≠ []
  begins : value.Leaves isBlank
  noTag : '<' ∉ value
  noSlot : ¬ ['{', '{'] <:+: value

/-- The expression of a slot. -/
structure IsScript (script : Text) : Prop where
  noEnd : ¬ ['}', '}'] <:+: script
  ends : script.getLast? ≠ some '}'

/-- The name of a tag or an attribute. -/
structure IsName (name : Text) : Prop where
  nonempty : name ≠ []
  plain : ∀ character ∈ name, Token.isForeignToNames character = false
  noOpening : ¬ ['{', '{'] <:+: name
  noClosing : ¬ ['}', '}'] <:+: name

theorem isName_of_goesOn {name rest : Text} (nonempty : name ≠ [])
    (goesOn : Token.GoesOn Token.endsName name rest) : IsName name := by
  rcases Token.goesOn_name_iff.mp goesOn with ⟨plain, -, ⟨noOpening, -⟩, noClosing, -⟩
  exact ⟨nonempty, plain, noOpening, noClosing⟩

/-- A name goes on to its end, unless the rest turns its last character into
another sign. -/
theorem IsName.goesOn {name rest : Text} (isName : IsName name)
    (closes : ¬ (name.getLast? = some '/' ∧ rest.head? = some '>'))
    (noBrace : rest.head? ≠ some '{' ∧ rest.head? ≠ some '}') :
    Token.GoesOn Token.endsName name rest :=
  Token.goesOn_name_iff.mpr ⟨isName.plain, closes,
    ⟨isName.noOpening, fun both => noBrace.1 both.2⟩,
    isName.noClosing, fun both => noBrace.2 both.2⟩

/-- Part of a name is a name. -/
theorem IsName.of_append {stem more : Text} (isName : IsName (stem ++ more))
    (nonempty : stem ≠ []) : IsName stem where
  nonempty := nonempty
  plain character member := isName.plain character (List.mem_append_left more member)
  noOpening inside := isName.noOpening (inside.trans (List.prefix_append stem more).isInfix)
  noClosing inside := isName.noClosing (inside.trans (List.prefix_append stem more).isInfix)

structure IsTag (tag : Text) : Prop where
  isName : IsName tag
  opens : tag.head? ≠ some '/'

structure Attribute.Formed (entry : Attribute) : Prop where
  isName : IsName entry.name
  quotable : ∀ value ∈ entry.value, '"' ∉ value ∨ '\'' ∉ value

/-- The attributes of one tag. -/
structure FormedAttributes (config : Config) (attributes : List Attribute) : Prop where
  each : ∀ entry ∈ attributes, entry.Formed
  distinct : config.strict = true → attributes.Pairwise (·.name ≠ ·.name)

theorem FormedAttributes.nil (config : Config) : FormedAttributes config [] where
  each := by simp
  distinct := fun _ => List.Pairwise.nil

theorem FormedAttributes.of_append {config : Config} {left right : List Attribute}
    (formed : FormedAttributes config (left ++ right)) : FormedAttributes config left where
  each := (List.forall_mem_append.mp formed.each).1
  distinct strict := (List.pairwise_append.mp (formed.distinct strict)).1

theorem formedAttributes_append_iff {config : Config} {attributes : List Attribute}
    {entry : Attribute} : FormedAttributes config (attributes ++ [entry]) ↔
      FormedAttributes config attributes ∧ entry.Formed ∧
        (config.strict && attributes.any (·.name = entry.name)) = false := by
  have distinct : (config.strict && attributes.any (·.name = entry.name)) = false ↔
      (config.strict = true → ∀ other ∈ attributes, other.name ≠ entry.name) := by
    cases config.strict <;> simp
  rw [distinct]
  constructor
  · intro formed
    refine ⟨formed.of_append, formed.each entry (List.mem_append_right _ List.mem_cons_self), ?_⟩
    intro strict other member
    exact (List.pairwise_append.mp (formed.distinct strict)).2.2 other member entry
      List.mem_cons_self
  · rintro ⟨⟨each, pairwise⟩, isFormed, apart⟩
    refine ⟨List.forall_mem_append.mpr ⟨each, by simpa using isFormed⟩, fun strict => ?_⟩
    refine List.pairwise_append.mpr ⟨pairwise strict, List.pairwise_singleton .., ?_⟩
    intro other member last isLast
    rw [List.mem_singleton.mp isLast]
    exact apart strict other member

/-! ## Parts are checked -/

instance (value : Text) : Decidable (IsTextRun value) :=
  decidable_of_iff
    (value ≠ [] ∧ value.Leaves isBlank ∧ '<' ∉ value ∧ ¬ ['{', '{'] <:+: value)
    ⟨fun ⟨nonempty, begins, noTag, noSlot⟩ => ⟨nonempty, begins, noTag, noSlot⟩,
      fun isRun => ⟨isRun.nonempty, isRun.begins, isRun.noTag, isRun.noSlot⟩⟩

instance (script : Text) : Decidable (IsScript script) :=
  decidable_of_iff (¬ ['}', '}'] <:+: script ∧ script.getLast? ≠ some '}')
    ⟨fun ⟨noEnd, ends⟩ => ⟨noEnd, ends⟩, fun isScript => ⟨isScript.noEnd, isScript.ends⟩⟩

instance (name : Text) : Decidable (IsName name) :=
  decidable_of_iff
    (name ≠ [] ∧ name.any Token.isForeignToNames = false ∧ ¬ ['{', '{'] <:+: name ∧
      ¬ ['}', '}'] <:+: name)
    ⟨fun ⟨nonempty, plain, noOpening, noClosing⟩ =>
        ⟨nonempty, by simpa using plain, noOpening, noClosing⟩,
      fun isName =>
        ⟨isName.nonempty, by simpa using isName.plain, isName.noOpening, isName.noClosing⟩⟩

instance (tag : Text) : Decidable (IsTag tag) :=
  decidable_of_iff (IsName tag ∧ tag.head? ≠ some '/')
    ⟨fun ⟨isName, opens⟩ => ⟨isName, opens⟩, fun isTag => ⟨isTag.isName, isTag.opens⟩⟩

instance (entry : Attribute) : Decidable entry.Formed :=
  decidable_of_iff (IsName entry.name ∧ ∀ value ∈ entry.value, '"' ∉ value ∨ '\'' ∉ value)
    ⟨fun ⟨isName, quotable⟩ => ⟨isName, quotable⟩,
      fun formed => ⟨formed.isName, formed.quotable⟩⟩

instance (config : Config) (attributes : List Attribute) :
    Decidable (FormedAttributes config attributes) :=
  decidable_of_iff
    ((∀ entry ∈ attributes, entry.Formed) ∧
      (config.strict = true → attributes.Pairwise (·.name ≠ ·.name)))
    ⟨fun ⟨each, distinct⟩ => ⟨each, distinct⟩, fun formed => ⟨formed.each, formed.distinct⟩⟩

/-! ## Nodes -/

namespace Node

variable {σ : Type}

/-- What a node can stand before. -/
def Adjoins : Node σ → Node σ → Prop
  | .text _, .text _ => False
  | .text value, .slot _ => value.getLast? ≠ some '{'
  | _, _ => True

mutual
/-- The form of a node inside so many elements. -/
def Formed (config : Config) (depth : Nat) : Node σ → Prop
  | .text value => IsTextRun value
  | .slot script => IsScript script
  | .element tag attributes children =>
      depth < config.maxDepth ∧ IsTag tag ∧ tag ≠ "style" ∧ FormedAttributes config attributes ∧
        children.IsChain Adjoins ∧ FormedAll config (depth + 1) children
  | .style attributes _ => depth < config.maxDepth ∧ FormedAttributes config attributes
  | .fragment _ | .foreign _ => False

def FormedAll (config : Config) (depth : Nat) : List (Node σ) → Prop
  | [] => True
  | node :: rest => Formed config depth node ∧ FormedAll config depth rest
end

instance decidableAdjoins : DecidableRel (Adjoins : Node σ → Node σ → Prop)
  | .text _, .text _ => isFalse not_false
  | .text value, .slot _ => inferInstanceAs (Decidable (value.getLast? ≠ some '{'))
  | .text _, .element .. | .text _, .style .. | .text _, .fragment _ | .text _, .foreign _ =>
      isTrue trivial
  | .slot _, _ | .element .., _ | .style .., _ | .fragment _, _ | .foreign _, _ => isTrue trivial

mutual
def decideFormed (config : Config) : (depth : Nat) → (node : Node σ) →
    Decidable (Formed config depth node)
  | _, .text value => inferInstanceAs (Decidable (IsTextRun value))
  | _, .slot script => inferInstanceAs (Decidable (IsScript script))
  | depth, .element tag attributes children =>
      have := decideFormedAll config (depth + 1) children
      inferInstanceAs (Decidable (depth < config.maxDepth ∧ IsTag tag ∧ tag ≠ "style" ∧
        FormedAttributes config attributes ∧ children.IsChain Adjoins ∧
          FormedAll config (depth + 1) children))
  | depth, .style attributes _ =>
      inferInstanceAs (Decidable (depth < config.maxDepth ∧ FormedAttributes config attributes))
  | _, .fragment _ | _, .foreign _ => inferInstanceAs (Decidable False)

def decideFormedAll (config : Config) : (depth : Nat) → (nodes : List (Node σ)) →
    Decidable (FormedAll config depth nodes)
  | _, [] => inferInstanceAs (Decidable True)
  | depth, node :: rest =>
      have := decideFormed config depth node
      have := decideFormedAll config depth rest
      inferInstanceAs (Decidable (Formed config depth node ∧ FormedAll config depth rest))
end

instance (config : Config) (depth : Nat) (nodes : List (Node σ)) :
    Decidable (FormedAll config depth nodes) := decideFormedAll config depth nodes

variable {config : Config} {depth : Nat}

theorem formedAll_iff {nodes : List (Node σ)} :
    FormedAll config depth nodes ↔ ∀ node ∈ nodes, Formed config depth node := by
  induction nodes with
  | nil => simp [FormedAll]
  | cons node nodes induction => rw [FormedAll, induction, List.forall_mem_cons]

theorem formedAll_append_iff {nodes : List (Node σ)} {node : Node σ} :
    FormedAll config depth (nodes ++ [node]) ↔
      FormedAll config depth nodes ∧ Formed config depth node := by
  simp only [formedAll_iff, List.forall_mem_append, List.forall_mem_singleton]

/-! ## Nodes at every level -/

/-- What holds for these nodes and all nodes below them. -/
def Everywhere (holds : Node σ → Prop) (nodes : List (Node σ)) : Prop :=
  ∀ node ∈ walkAll nodes, holds node

instance (holds : Node σ → Prop) [DecidablePred holds] (nodes : List (Node σ)) :
    Decidable (Everywhere holds nodes) :=
  inferInstanceAs (Decidable (∀ node ∈ walkAll nodes, holds node))

variable {holds : Node σ → Prop}

theorem everywhere_nil : Everywhere holds [] := by simp [Everywhere, walkAll]

theorem everywhere_cons_iff {node : Node σ} {rest : List (Node σ)} :
    Everywhere holds (node :: rest) ↔
      (∀ below ∈ node.walk, holds below) ∧ Everywhere holds rest := by
  rw [Everywhere, walkAll, List.forall_mem_append]
  rfl

theorem forall_walk_element_iff {tag : Text} {attributes : List Attribute}
    {children : List (Node σ)} :
    (∀ below ∈ (element tag attributes children).walk, holds below) ↔
      holds (.element tag attributes children) ∧ Everywhere holds children := by
  rw [walk, List.forall_mem_cons]
  rfl

end Node

end ScopedMarkup.Markup
