import ScopedMarkup.Css.Selector.Evaluation
import ScopedMarkup.Css.Sheet.Virtual

namespace ScopedMarkup.Css

/-! How a program scopes a sheet: rule by rule into a virtual sheet, on the same
stack as its selectors. -/

def Declaration.property (declaration : Declaration) : StyleProperty :=
  ⟨declaration.name, declaration.value⟩

def Keyframe.virtual (frame : Keyframe) : VirtualKeyframe :=
  ⟨frame.key, frame.declarations.map Declaration.property⟩

namespace Rule

mutual
/-- The virtual rules of a block at a depth. -/
def blockWithin (context : Context) : Nat → Nat → List (Rule Selector) →
    Except Halt (List VirtualRule)
  | 0, _, _ => .error .outOfStack
  | room + 1, depth, rules =>
      if depth > context.maxDepth then .error (.refused (.rulesTooDeep context.maxDepth))
      else eachWithin context room depth rules
termination_by structural room => room

/-- Going through a list is a call of its own. -/
def eachWithin (context : Context) : Nat → Nat → List (Rule Selector) →
    Except Halt (List VirtualRule)
  | 0, _, _ => .error .outOfStack
  | room + 1, depth, rules => rules.mapM (virtualWithin context room depth)

def virtualWithin (context : Context) : Nat → Nat → Rule Selector → Except Halt VirtualRule
  | 0, _, _ => .error .outOfStack
  | room + 1, depth, rule =>
      match rule with
      | .style selector declarations => do
          let text ← selector.textWithin context room 0
          return .style text (declarations.map Declaration.property)
      | .charset value => .ok (.charset value)
      | .nameSpace value => .ok (.nameSpace value)
      | .fontFace declarations => .ok (.fontFace (declarations.map Declaration.property))
      | .conditional clause condition rules => do
          let inside ← blockWithin context room (depth + 1) rules
          return match clause with
            | .media => .media condition inside
            | .supports => .supports condition inside
            | .document keyword => .document keyword condition inside
      | .page selector declarations =>
          .ok (.page selector (declarations.map Declaration.property))
      | .keyframes keyword name frames =>
          .ok (.keyframes keyword name (frames.map Keyframe.virtual))
      | .foreign value => .error (.refused (.unsupportedRule value.kind))
end

end Rule

/-- The virtual sheet of a sheet, on a stack with this much room. -/
def Sheet.evaluate (room : Nat) (sheet : Sheet Selector) (scope : Text) (config : Config) :
    Except Halt VirtualSheet :=
  match room with
  | 0 => .error .outOfStack
  | room + 1 => do
      let context ← Context.make scope config
      let rules ← Rule.blockWithin context room 0 sheet.rules
      return ⟨rules⟩

end ScopedMarkup.Css
