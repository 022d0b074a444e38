import ScopedMarkup.Css.Sheet.Evaluation
import ScopedMarkup.Proofs.Outcome

/-! # The text of virtual sheets

A sheet with text for its selectors has a virtual sheet with the same fields. The two are
written by functions of their own, and written alike.
-/

namespace ScopedMarkup.Css

/-! ## The fields of a virtual sheet -/

namespace Rule

mutual
/-- The virtual rule with the fields of a rule. -/
def virtual : Rule Text → VirtualRule
  | .charset value => .charset value
  | .nameSpace value => .nameSpace value
  | .fontFace declarations => .fontFace (declarations.map Declaration.property)
  | .conditional .media condition rules => .media condition (virtualAll rules)
  | .conditional .supports condition rules => .supports condition (virtualAll rules)
  | .conditional (.document keyword) condition rules =>
      .document keyword condition (virtualAll rules)
  | .page selector declarations => .page selector (declarations.map Declaration.property)
  | .keyframes keyword name frames => .keyframes keyword name (frames.map Keyframe.virtual)
  | .style text declarations => .style text (declarations.map Declaration.property)
  | .foreign value => .foreign value

def virtualAll : List (Rule Text) → List VirtualRule
  | [] => []
  | rule :: rest => virtual rule :: virtualAll rest
end

theorem length_virtualAll (rules : List (Rule Text)) :
    (virtualAll rules).length = rules.length := by
  induction rules with
  | nil => rfl
  | cons rule rules induction => rw [virtualAll, List.length_cons, induction, List.length_cons]

/-! ## Its text -/

theorem propertyBlock_map (indent head : Text) (declarations : List Declaration) :
    propertyBlock indent head (declarations.map Declaration.property) =
      declarationBlock indent head declarations := by
  rw [propertyBlock, List.flatMap_map]
  rfl

theorem flatMap_render_virtual (indent : Text) (frames : List Keyframe) :
    (frames.map Keyframe.virtual).flatMap (VirtualKeyframe.render indent) =
      frames.flatMap (Keyframe.render indent) := by
  rw [List.flatMap_map]
  exact congrArg (frames.flatMap ·) (funext fun frame => propertyBlock_map indent frame.key _)

/-- A block is written when what is in it is. -/
theorem bind_block {fault? : Option Unprintable} {outcome : Except Unprintable Text}
    {lines : Text} (inside : outcome = stopAt fault? lines) (indent head : Text) :
    (outcome >>= fun lines => .ok (block indent head lines)) =
      stopAt fault? (block indent head lines) := by
  rw [inside]
  cases fault? <;> rfl

mutual
theorem write_virtual : ∀ (indent : Text) (rule : Rule Text),
    rule.virtual.write indent = stopAt (rule.unprintable? fun _ => none) (rule.render id indent)
  | indent, .conditional .media condition rules =>
      bind_block (writeAll_virtualAll (deeper indent) rules) indent _
  | indent, .conditional .supports condition rules =>
      bind_block (writeAll_virtualAll (deeper indent) rules) indent _
  | indent, .conditional (.document keyword) condition rules =>
      bind_block (writeAll_virtualAll (deeper indent) rules) indent _
  | indent, .keyframes keyword name frames => by
      rw [virtual, VirtualRule.write, flatMap_render_virtual]
      rfl
  | indent, .fontFace declarations => congrArg Except.ok (propertyBlock_map indent _ declarations)
  | indent, .page selector declarations =>
      congrArg Except.ok (propertyBlock_map indent _ declarations)
  | indent, .style text declarations => congrArg Except.ok (propertyBlock_map indent _ declarations)
  | _, .charset _ | _, .nameSpace _ | _, .foreign _ => rfl

/-- Virtual rules are written like the rules that they have the fields of. -/
theorem writeAll_virtualAll : ∀ (indent : Text) (rules : List (Rule Text)),
    VirtualRule.writeAll indent (virtualAll rules) =
      stopAt (unprintableIn? (fun _ => none) rules) (renderAll id indent rules)
  | _, [] => rfl
  | indent, rule :: rest => by
      rw [virtualAll, VirtualRule.writeAll, write_virtual indent rule,
        writeAll_virtualAll indent rest]
      exact stopAt_bind (map_stopAt _ _ _)
end

end Rule

namespace Sheet

def virtual (sheet : Sheet Text) : VirtualSheet := ⟨Rule.virtualAll sheet.rules⟩

theorem length_rules_virtual (sheet : Sheet Text) :
    sheet.virtual.rules.length = sheet.rules.length := Rule.length_virtualAll sheet.rules

/-- A virtual sheet is written like the sheet that it has the fields of. -/
theorem write_virtual (sheet : Sheet Text) : sheet.virtual.write = sheet.writeScoped := by
  rw [VirtualSheet.write, virtual, Rule.writeAll_virtualAll, writeScoped, Sheet.unprintable?]
  cases Rule.unprintableIn? (fun _ => none) sheet.rules <;> rfl

end Sheet

end ScopedMarkup.Css
