import ScopedMarkup.Proofs.Css.Selector.Reading
import ScopedMarkup.Proofs.Css.Sheet.Reading

/-! # Sheets without foreign values

Whatever the text, reading makes no foreign rules, and no selectors but formed ones.
-/

namespace ScopedMarkup.Css

namespace Rule

variable {σ τ ε : Type}

/-! ## Rules whose preludes are changed -/

mutual
theorem unprintable?_of_traverse {change : σ → Except ε τ} : ∀ {rule : Rule σ} {changed : Rule τ},
    traverse change rule = .ok changed →
      unprintable? (fun _ => none) changed = unprintable? (fun _ => none) rule
  | .conditional .., _, found => by
      rcases map_eq_ok_iff.mp found with ⟨inner, traversed, rfl⟩
      exact unprintableIn?_of_traverseAll traversed
  | .style .., _, found => by
      rcases map_eq_ok_iff.mp found with ⟨inner, -, rfl⟩
      rfl
  | .charset _, _, found | .nameSpace _, _, found | .fontFace _, _, found | .page .., _, found
  | .keyframes .., _, found | .foreign _, _, found => by
      cases found
      rfl

theorem unprintableIn?_of_traverseAll {change : σ → Except ε τ} :
    ∀ {rules : List (Rule σ)} {changed : List (Rule τ)}, traverseAll change rules = .ok changed →
      unprintableIn? (fun _ => none) changed = unprintableIn? (fun _ => none) rules
  | [], _, found => by
      cases found
      rfl
  | rule :: rest, _, found => by
      rcases exists_of_traverseAll_cons found with ⟨first, others, rfl, here, later⟩
      rw [unprintableIn?, unprintableIn?, unprintable?_of_traverse here,
        unprintableIn?_of_traverseAll later]
end

mutual
theorem exists_of_mem_preludes {change : σ → Except ε τ} :
    ∀ {rule : Rule σ} {changed : Rule τ}, traverse change rule = .ok changed →
      ∀ prelude ∈ preludes changed, ∃ original, change original = .ok prelude
  | .conditional .., _, found, prelude, member => by
      rcases map_eq_ok_iff.mp found with ⟨inner, traversed, rfl⟩
      exact exists_of_mem_preludesIn traversed prelude member
  | .style original _, _, found, prelude, member => by
      rcases map_eq_ok_iff.mp found with ⟨inner, succeeded, rfl⟩
      rw [List.mem_singleton.mp member]
      exact ⟨original, succeeded⟩
  | .charset _, _, found, _, member | .nameSpace _, _, found, _, member
  | .fontFace _, _, found, _, member | .page .., _, found, _, member
  | .keyframes .., _, found, _, member | .foreign _, _, found, _, member => by
      cases found
      cases member

/-- Each prelude of changed rules is what some prelude changed to. -/
theorem exists_of_mem_preludesIn {change : σ → Except ε τ} :
    ∀ {rules : List (Rule σ)} {changed : List (Rule τ)}, traverseAll change rules = .ok changed →
      ∀ prelude ∈ preludesIn changed, ∃ original, change original = .ok prelude
  | [], _, found, _, member => by
      cases found
      cases member
  | rule :: rest, _, found, prelude, member => by
      rcases exists_of_traverseAll_cons found with ⟨first, others, rfl, here, later⟩
      rcases List.mem_append.mp member with member | member
      · exact exists_of_mem_preludes here prelude member
      · exact exists_of_mem_preludesIn later prelude member
end

mutual
theorem traverse_eq_ok {change : σ → Except ε τ} {value : σ → τ} : ∀ {rule : Rule σ},
    (∀ prelude ∈ preludes rule, change prelude = .ok (value prelude)) →
      traverse change rule = .ok (map value rule)
  | .conditional .., succeeds => by
      rw [traverse, traverseAll_eq_ok succeeds]
      rfl
  | .style prelude _, succeeds => by
      rw [traverse, succeeds prelude (List.mem_singleton_self prelude)]
      rfl
  | .charset _, _ | .nameSpace _, _ | .fontFace _, _ | .page .., _ | .keyframes .., _
  | .foreign _, _ => rfl

/-- Where the change of each prelude succeeds, so does that of the rules. -/
theorem traverseAll_eq_ok {change : σ → Except ε τ} {value : σ → τ} : ∀ {rules : List (Rule σ)},
    (∀ prelude ∈ preludesIn rules, change prelude = .ok (value prelude)) →
      traverseAll change rules = .ok (mapAll value rules)
  | [], _ => rfl
  | rule :: rest, succeeds => by
      rcases List.forall_mem_append.mp succeeds with ⟨here, later⟩
      rw [traverseAll, traverse_eq_ok here, traverseAll_eq_ok later]
      rfl
end

theorem unprintableIn?_append {prelude : σ → Option Unprintable} (left right : List (Rule σ)) :
    unprintableIn? prelude (left ++ right) =
      (unprintableIn? prelude left).or (unprintableIn? prelude right) := by
  induction left with
  | nil => rfl
  | cons rule left induction =>
      rw [List.cons_append, unprintableIn?, induction, unprintableIn?, Option.or_assoc]

end Rule

namespace Sheet

/-! ## Reading makes no foreign rules -/

/-- No rule in the body is foreign. -/
def Body.Native (body : Body) : Prop := Rule.unprintableIn? (fun _ => none) body.rules = none

def Move.Native : Move → Prop
  | .add rule => rule.unprintable? (fun _ => none) = none
  | .await _ | .declare _ | .enter _ | .leave => True

structure Progress.Native (progress : Progress) : Prop where
  around : ∀ block ∈ progress.around, block.2.Native
  inside : progress.inside.Native

theorem Body.Native.addRule {body : Body} {rule : Rule Lexeme} (native : body.Native)
    (added : rule.unprintable? (fun _ => none) = none) : (body.addRule rule).Native := by
  rw [Body.Native, Body.addRule, Rule.unprintableIn?_append, native, Rule.unprintableIn?, added]
  rfl

theorem Body.Native.addBlock {body inner : Body} {head : Head} (native : body.Native)
    (inside : inner.Native) : (body.addBlock head inner).Native := by
  cases head with
  | conditional clause condition => exact native.addRule inside
  | keyframe key => exact native
  | keyframes _ _ | fontFace | page _ | style _ => exact native.addRule rfl

theorem native_of_move? {awaited : Awaited} {terminal : Terminal} {action : Lexeme → Move}
    (moved : awaited.move? terminal = some action) (piece : Lexeme) : (action piece).Native := by
  cases moves_of_move? moved with
  | charsetValue | nameSpaceValue => rfl
  | _ => trivial

theorem Progress.Native.advance {progress next : Progress} {text : Text} {move : Move}
    (native : progress.Native) (moveNative : move.Native)
    (advanced : progress.advance? text move = some next) : next.Native := by
  cases move with
  | await _ | declare _ =>
      cases advanced
      exact ⟨native.around, native.inside⟩
  | add rule =>
      cases advanced
      exact ⟨native.around, native.inside.addRule moveNative⟩
  | enter head =>
      cases advanced
      exact ⟨List.forall_mem_cons.mpr ⟨native.inside, native.around⟩, rfl⟩
  | leave =>
      rcases progress with ⟨awaited, around, inside, lastPiece⟩
      cases around with
      | nil => simp [advance?] at advanced
      | cons block around =>
          cases advanced
          rcases List.forall_mem_cons.mp native.around with ⟨body, around⟩
          exact ⟨around, body.addBlock native.inside⟩

theorem Progress.native_start (text : Text) : (Progress.start text).Native :=
  ⟨List.forall_mem_nil _, rfl⟩

theorem native_of_rulesFrom {source text : Text} {progress : Progress}
    {rules : List (Rule Lexeme)} (native : progress.Native)
    (read : rulesFrom source progress text = .ok rules) :
    Rule.unprintableIn? (fun _ => none) rules = none := by
  fun_induction rulesFrom source progress text with
  | case1 =>
      cases read
      exact native.inside
  | case2 | case3 | case4 => simp at read
  | case5 progress text rest nonempty found matched piece next advanced induction =>
      have moved := (of_firstMatch?_candidates matched).1
      exact induction (native.advance (native_of_move? moved piece) advanced) read

/-! ## Sheets that were read -/

/-- Nothing in the sheet is foreign, and its selectors are formed. -/
structure Native (sheet : Sheet Selector) : Prop where
  rules : Rule.unprintableIn? (fun _ => none) sheet.rules = none
  selectors : ∀ selector ∈ Rule.preludesIn sheet.rules, Selector.Formed .whole selector

theorem native_empty : Native {} := ⟨rfl, List.forall_mem_nil _⟩

theorem native_of_read {config : Config} {source : Text} {sheet : Sheet Selector}
    (read : Sheet.read config source = .ok sheet) : sheet.Native := by
  rcases read_eq_ok_iff.mp read with ⟨-, rules, raw, traversed⟩
  refine ⟨?_, fun selector member => ?_⟩
  · rw [Rule.unprintableIn?_of_traverseAll traversed]
    exact native_of_rulesFrom (Progress.native_start source) raw
  · rcases Rule.exists_of_mem_preludesIn traversed selector member with ⟨prelude, found⟩
    exact (Selector.formed_of_ofClean (preludeSelector_eq_ok_iff.mp found)).1

end Sheet

end ScopedMarkup.Css
