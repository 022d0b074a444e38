import ScopedMarkup.Css.Sheet.Basic

namespace ScopedMarkup.Markup

/-! Markup trees. As in sheets, the type of what stands before the block of a
style rule is left open. -/

structure Attribute where
  name : Text
  value : Option Text := none
deriving DecidableEq, Repr

inductive Node (σ : Type) where
  | text (value : Text)
  /-- A placeholder with its expression, which is kept raw. -/
  | slot (script : Text)
  | element (tag : Text) (attributes : List Attribute) (children : List (Node σ))
  | style (attributes : List Attribute) (sheet : Css.Sheet σ)
  /-- Siblings at the top. -/
  | fragment (children : List (Node σ))
  | foreign (value : Foreign)
deriving Repr

/-- A name that may not be empty. -/
inductive EmptyName where
  | attribute
  | tag
deriving DecidableEq, Repr

def EmptyName.message : EmptyName → Text
  | .attribute => "Attribute name must be a non-empty string"
  | .tag => "Element tag_name must be a non-empty string"

def Attribute.make (name : Text) (value : Option Text) : Except EmptyName Attribute :=
  if name = [] then .error .attribute else .ok ⟨name, value⟩

namespace Node

def makeElement (tag : Text) (attributes : List Attribute) (children : List (Node σ)) :
    Except EmptyName (Node σ) :=
  if tag = [] then .error .tag else .ok (.element tag attributes children)

def children : Node σ → List (Node σ)
  | .element _ _ children => children
  | .fragment children => children
  | _ => []

/-! Equality of nodes is decided by walking both trees. -/

mutual
def same [DecidableEq σ] : Node σ → Node σ → Bool
  | .text left, .text right => left = right
  | .slot left, .slot right => left = right
  | .element left attributes children, .element right attributes' children' =>
      left = right && attributes = attributes' && sameAll children children'
  | .style left sheet, .style right sheet' => left = right && sheet = sheet'
  | .fragment left, .fragment right => sameAll left right
  | .foreign left, .foreign right => left = right
  | _, _ => false

def sameAll [DecidableEq σ] : List (Node σ) → List (Node σ) → Bool
  | [], [] => true
  | left :: leftRest, right :: rightRest => same left right && sameAll leftRest rightRest
  | _, _ => false
end

mutual
theorem same_iff [DecidableEq σ] : ∀ left right : Node σ, same left right = true ↔ left = right
  | .text _, right => by cases right <;> simp [same]
  | .slot _, right => by cases right <;> simp [same]
  | .element _ _ children, right => by
      cases right <;> simp [same, sameAll_iff children, and_assoc]
  | .style .., right => by cases right <;> simp [same]
  | .fragment children, right => by cases right <;> simp [same, sameAll_iff children]
  | .foreign _, right => by cases right <;> simp [same]

theorem sameAll_iff [DecidableEq σ] :
    ∀ left right : List (Node σ), sameAll left right = true ↔ left = right
  | [], right => by cases right <;> simp [sameAll]
  | left :: leftRest, right => by
      cases right <;> simp [sameAll, same_iff left, sameAll_iff leftRest]
end

instance [DecidableEq σ] : DecidableEq (Node σ) :=
  fun left right => decidable_of_iff (same left right = true) (same_iff left right)

end Node

end ScopedMarkup.Markup
