import ScopedMarkup.Foreign

namespace ScopedMarkup.Css

/-! Style sheets: rules in the order of their text. The type of what stands
before the block of a style rule is left open: a selector in a sheet that was
read, text in a sheet that was scoped. -/

structure Declaration where
  name : Text
  value : Text
deriving DecidableEq, Repr

structure Keyframe where
  key : Text
  declarations : List Declaration
deriving DecidableEq, Repr

/-- The rules whose body holds when a condition does. -/
inductive Conditional where
  | media
  | supports
  | document (keyword : Text)
deriving DecidableEq, Repr

inductive Rule (σ : Type) where
  /-- The value keeps its quotes. -/
  | charset (value : Text)
  | nameSpace (value : Text)
  | fontFace (declarations : List Declaration)
  | conditional (clause : Conditional) (condition : Text) (rules : List (Rule σ))
  | page (selector : Text) (declarations : List Declaration)
  | keyframes (keyword name : Text) (frames : List Keyframe)
  | style (prelude : σ) (declarations : List Declaration)
  | foreign (value : Foreign)
deriving Repr

structure Sheet (σ : Type) where
  rules : List (Rule σ) := []
deriving Repr

def Conditional.kind : Conditional → Text
  | .media => "MediaRule"
  | .supports => "SupportsRule"
  | .document _ => "DocumentRule"

namespace Rule

/-- The name that messages use. -/
def kind : Rule σ → Text
  | .charset _ => "CharsetRule"
  | .nameSpace _ => "NamespaceRule"
  | .fontFace _ => "FontFaceRule"
  | .conditional clause _ _ => clause.kind
  | .page .. => "PageRule"
  | .keyframes .. => "KeyframesRule"
  | .style .. => "StyleRule"
  | .foreign value => value.kind

mutual
/-- The rule with another prelude in each style rule, at every depth. -/
def map (change : σ → τ) : Rule σ → Rule τ
  | .charset value => .charset value
  | .nameSpace value => .nameSpace value
  | .fontFace declarations => .fontFace declarations
  | .conditional clause condition rules =>
      .conditional clause condition (mapAll change rules)
  | .page selector declarations => .page selector declarations
  | .keyframes keyword name frames => .keyframes keyword name frames
  | .style prelude declarations => .style (change prelude) declarations
  | .foreign value => .foreign value

def mapAll (change : σ → τ) : List (Rule σ) → List (Rule τ)
  | [] => []
  | rule :: rest => map change rule :: mapAll change rest
end

mutual
/-- Like `map` with a change that may fail. The first failure in the order of
the text counts. -/
def traverse (change : σ → Except ε τ) : Rule σ → Except ε (Rule τ)
  | .charset value => .ok (.charset value)
  | .nameSpace value => .ok (.nameSpace value)
  | .fontFace declarations => .ok (.fontFace declarations)
  | .conditional clause condition rules =>
      (traverseAll change rules).map (.conditional clause condition)
  | .page selector declarations => .ok (.page selector declarations)
  | .keyframes keyword name frames => .ok (.keyframes keyword name frames)
  | .style prelude declarations => (change prelude).map (.style · declarations)
  | .foreign value => .ok (.foreign value)

def traverseAll (change : σ → Except ε τ) : List (Rule σ) → Except ε (List (Rule τ))
  | [] => .ok []
  | rule :: rest =>
      match traverse change rule with
      | .error error => .error error
      | .ok changed => (traverseAll change rest).map (changed :: ·)
end

/-! Equality of rules is decided by walking both trees. -/

mutual
def same [DecidableEq σ] : Rule σ → Rule σ → Bool
  | .charset left, .charset right => left = right
  | .nameSpace left, .nameSpace right => left = right
  | .fontFace left, .fontFace right => left = right
  | .conditional left condition rules, .conditional right condition' rules' =>
      left = right && condition = condition' && sameAll rules rules'
  | .page left declarations, .page right declarations' =>
      left = right && declarations = declarations'
  | .keyframes left name frames, .keyframes right name' frames' =>
      left = right && name = name' && frames = frames'
  | .style left declarations, .style right declarations' =>
      left = right && declarations = declarations'
  | .foreign left, .foreign right => left = right
  | _, _ => false

def sameAll [DecidableEq σ] : List (Rule σ) → List (Rule σ) → Bool
  | [], [] => true
  | left :: leftRest, right :: rightRest => same left right && sameAll leftRest rightRest
  | _, _ => false
end

mutual
theorem same_iff [DecidableEq σ] : ∀ left right : Rule σ, same left right = true ↔ left = right
  | .charset _, right => by cases right <;> simp [same]
  | .nameSpace _, right => by cases right <;> simp [same]
  | .fontFace _, right => by cases right <;> simp [same]
  | .conditional _ _ rules, right => by
      cases right <;> simp [same, sameAll_iff rules, and_assoc]
  | .page .., right => by cases right <;> simp [same]
  | .keyframes .., right => by cases right <;> simp [same, and_assoc]
  | .style .., right => by cases right <;> simp [same]
  | .foreign _, right => by cases right <;> simp [same]

theorem sameAll_iff [DecidableEq σ] :
    ∀ left right : List (Rule σ), sameAll left right = true ↔ left = right
  | [], right => by cases right <;> simp [sameAll]
  | left :: leftRest, right => by
      cases right <;> simp [sameAll, same_iff left, sameAll_iff leftRest]
end

instance [DecidableEq σ] : DecidableEq (Rule σ) :=
  fun left right => decidable_of_iff (same left right = true) (same_iff left right)

end Rule

deriving instance DecidableEq for Sheet

namespace Sheet

def map (change : σ → τ) (sheet : Sheet σ) : Sheet τ := ⟨Rule.mapAll change sheet.rules⟩

end Sheet

end ScopedMarkup.Css
