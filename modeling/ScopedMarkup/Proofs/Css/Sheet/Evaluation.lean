import ScopedMarkup.Proofs.Css.Room
import ScopedMarkup.Proofs.Css.Selector.Evaluation
import ScopedMarkup.Proofs.Css.Sheet.Acceptance
import ScopedMarkup.Proofs.Css.Sheet.Virtual

/-! # What scoping a sheet on a stack gives

A virtual sheet has the rules of the sheet that it was made of, field by field, with the
text of the marked selector in each style rule.
-/

namespace ScopedMarkup.Css

namespace Rule

/-! ## Calls -/

mutual
/-- The most calls that are open at once while a rule is scoped: three for each conditional
rule around a selector. -/
def calls : Rule Selector → Nat
  | .conditional _ _ rules => callsIn rules + 3
  | .style selector _ => selector.calls + 1
  | .charset _ | .nameSpace _ | .fontFace _ | .page .. | .keyframes .. | .foreign _ => 1

def callsIn : List (Rule Selector) → Nat
  | [] => 0
  | rule :: rest => max (calls rule) (callsIn rest)
end

theorem calls_pos : ∀ rule : Rule Selector, 0 < calls rule
  | .charset _ | .nameSpace _ | .fontFace _ | .page .. | .keyframes .. | .foreign _ =>
      Nat.one_pos
  | .conditional .. | .style .. => Nat.succ_pos _

mutual
theorem calls_lt_of_mem_preludes {selector : Selector} : ∀ {rule : Rule Selector},
    selector ∈ preludes rule → selector.calls < calls rule
  | .conditional _ _ rules, member => by
      have less := @calls_lt_of_mem_preludesIn selector rules member
      rw [calls]
      omega
  | .style _ _, member => by
      rw [List.mem_singleton.mp member, calls]
      exact Nat.lt_succ_self _

/-- A selector takes fewer calls than the rules that it stands in. -/
theorem calls_lt_of_mem_preludesIn {selector : Selector} : ∀ {rules : List (Rule Selector)},
    selector ∈ preludesIn rules → selector.calls < callsIn rules
  | rule :: rest, member => by
      rw [callsIn]
      rcases List.mem_append.mp member with here | later
      · exact Nat.lt_of_lt_of_le (calls_lt_of_mem_preludes here) (Nat.le_max_left ..)
      · exact Nat.lt_of_lt_of_le (calls_lt_of_mem_preludesIn later) (Nat.le_max_right ..)
end

/-! ## Runs -/

variable {marker : Text} {limit room : Nat}

/-- The virtual rule with the text of the marked selector in each style rule. -/
def scopedRule (marker : Text) (rule : Rule Selector) : VirtualRule :=
  (rule.map fun selector => (selector.mark marker).render).virtual

def scopedRules (marker : Text) (rules : List (Rule Selector)) : List VirtualRule :=
  virtualAll (mapAll (fun selector => (selector.mark marker).render) rules)

/-- What a function that scopes rules on this much room gives for each of them. -/
def Scopes (marker : Text) (limit room : Nat)
    (makeAt : Nat → Rule Selector → Except Halt VirtualRule) : Prop :=
  ∀ depth rule, Runs room (calls rule) (fault? limit depth rule) (scopedRule marker rule)
    (makeAt depth rule)

theorem Scopes.each {makeAt : Nat → Rule Selector → Except Halt VirtualRule}
    (scopes : Scopes marker limit room makeAt) (depth : Nat) :
    ∀ rules : List (Rule Selector), Runs room (callsIn rules) (faultIn? limit depth rules)
      (scopedRules marker rules) (rules.mapM (makeAt depth))
  | [] => .done room []
  | rule :: rest => by
      rw [List.mapM_cons]
      exact (scopes depth rule).bind _ ((scopes.each depth rest).map (scopedRule marker rule :: ·))

/-- The fault of a block at a depth, which is checked first. -/
def blockFault? (limit depth : Nat) (rules : List (Rule Selector)) : Option ScopeError :=
  if depth > limit then some (.rulesTooDeep limit) else faultIn? limit depth rules

theorem blockWithin_runs (room : Nat) (scopes : ∀ left < room,
      Scopes marker limit left (virtualWithin (Selector.contextOf marker limit) left))
    (depth : Nat) (rules : List (Rule Selector)) :
    Runs room (callsIn rules + 2) (blockFault? limit depth rules) (scopedRules marker rules)
      (blockWithin (Selector.contextOf marker limit) room depth rules) := by
  cases room with
  | zero => exact .outOfStack (Nat.succ_pos _)
  | succ room =>
      rw [blockWithin, blockFault?]
      by_cases deep : depth > limit
      · rw [if_pos deep, if_pos deep]
        exact .refused ..
      · rw [if_neg deep, if_neg deep]
        refine Runs.call ?_
        cases room with
        | zero => exact .outOfStack (Nat.succ_pos _)
        | succ left => exact ((scopes left (by omega)).each depth rules).call

/-- On any room, the functions of a run scope rules. -/
theorem scopes_virtualWithin (marker : Text) (limit room : Nat) :
    Scopes marker limit room (virtualWithin (Selector.contextOf marker limit) room) := by
  induction room using Nat.strongRecOn with
  | ind room below =>
      intro depth rule
      cases room with
      | zero => exact .outOfStack (calls_pos rule)
      | succ room =>
          cases rule with
          | style selector declarations =>
              exact ((Selector.scopes_textWithin marker limit room 0 selector).map
                fun text => VirtualRule.style text (declarations.map Declaration.property)).call
          | conditional clause condition rules =>
              have scopes (left : Nat) (less : left < room) := below left (Nat.lt_succ_of_lt less)
              have inside := blockWithin_runs room scopes (depth + 1) rules
              cases clause with
              | media => exact (inside.map (VirtualRule.media condition)).call
              | supports => exact (inside.map (VirtualRule.supports condition)).call
              | document keyword => exact (inside.map (VirtualRule.document keyword condition)).call
          | foreign value => exact .refused ..
          | charset | nameSpace | fontFace | page | keyframes => exact (Runs.done room _).call

end Rule

namespace Sheet

/-- The most calls that are open at once while a sheet is scoped. -/
def calls (sheet : Sheet Selector) : Nat := Rule.callsIn sheet.rules + 3

variable {scope : Text} {config : Config}

theorem evaluate_runs (nonempty : scope ≠ []) (room : Nat) (sheet : Sheet Selector)
    (config : Config) :
    Runs room sheet.calls (Rule.faultIn? config.maxDepth 0 sheet.rules)
      (sheet.map (Selector.spelling scope config)).virtual (sheet.evaluate room scope config) := by
  cases room with
  | zero => exact .outOfStack (Nat.succ_pos _)
  | succ room =>
      have block := Rule.blockWithin_runs room (fun left _ => Rule.scopes_virtualWithin
        (config.marker scope) config.maxDepth left) 0 sheet.rules
      rw [Rule.blockFault?, if_neg (Nat.not_lt_zero _)] at block
      rw [evaluate, Context.make, if_neg nonempty]
      exact (block.map VirtualSheet.mk).call

theorem evaluate_of_empty (empty : scope = []) (room : Nat) (sheet : Sheet Selector)
    (config : Config) : sheet.evaluate (room + 1) scope config = .error (.refused .emptyScope) := by
  rw [evaluate, Context.make, if_pos empty]
  rfl

/-- On a stack with room for its calls a sheet is scoped as on any other; with less room,
nothing else comes out. -/
theorem evaluate_eq_scope (room : Nat) (sheet : Sheet Selector) (scope : Text) (config : Config) :
    (sheet.evaluate room scope config =
        ((sheet.scope scope config).map virtual).mapError .refused ∨
      sheet.evaluate room scope config = .error .outOfStack) ∧
    (sheet.calls ≤ room → sheet.evaluate room scope config =
      ((sheet.scope scope config).map virtual).mapError .refused) := by
  by_cases empty : scope = []
  · rw [Sheet.scope, if_pos empty]
    cases room with
    | zero => exact ⟨.inr rfl, fun fits => absurd fits (Nat.not_succ_le_zero _)⟩
    | succ room =>
        rw [evaluate_of_empty empty]
        exact ⟨.inl rfl, fun _ => rfl⟩
  · have plain : ((sheet.scope scope config).map virtual).mapError .refused =
        stopAt ((Rule.faultIn? config.maxDepth 0 sheet.rules).map Halt.refused)
          (sheet.map (Selector.spelling scope config)).virtual := by
      rw [scope_eq_stopAt empty]
      cases Rule.faultIn? config.maxDepth 0 sheet.rules <;> rfl
    have runs := evaluate_runs empty room sheet config
    rw [plain]
    exact ⟨runs.agrees, runs.complete⟩

/-! ## Which sheets are scoped -/

theorem ends_of_calls_le {room : Nat} {sheet : Sheet Selector} (fits : sheet.calls ≤ room)
    (scope : Text) (config : Config) : Ends (sheet.evaluate room scope config) := by
  by_cases empty : scope = []
  · cases room with
    | zero => exact absurd fits (Nat.not_succ_le_zero _)
    | succ room =>
        rw [evaluate_of_empty empty]
        exact .refused _
  · exact (evaluate_runs empty room sheet config).ends fits

/-- The scoping of a sheet ends where there is room for its calls, and where there is room for
as many as any sheet takes under the limit. If it ends, the sheet is scoped just when there is
a scope and scoping accepts the sheet, and refused otherwise. -/
theorem evaluate_succeeds_iff (room : Nat) (sheet : Sheet Selector) (scope : Text)
    (config : Config) :
    (sheet.calls ≤ room ∨ 7 * config.maxDepth + 9 ≤ room →
      Ends (sheet.evaluate room scope config)) ∧
    (Ends (sheet.evaluate room scope config) →
      ((∃ result, sheet.evaluate room scope config = .ok result) ↔
        scope ≠ [] ∧ sheet.Scopable config.maxDepth) ∧
      ((∃ error, sheet.evaluate room scope config = .error (.refused error)) ↔
        ¬ (scope ≠ [] ∧ sheet.Scopable config.maxDepth))) := by
  refine ⟨?_, fun ends => ?_⟩
  · rintro (fits | enough)
    · exact ends_of_calls_le fits scope config
    · exact ends_evaluate enough sheet scope
  · by_cases empty : scope = []
    · have without : ¬ (scope ≠ [] ∧ sheet.Scopable config.maxDepth) := fun both => both.1 empty
      cases room with
      | zero => exact absurd rfl ends
      | succ room =>
          rw [evaluate_of_empty empty]
          exact ⟨iff_of_false nofun without, iff_of_true ⟨_, rfl⟩ without⟩
    · have runs := evaluate_runs empty room sheet config
      rw [← faultIn?_eq_none_iff_scopable, and_iff_right empty]
      exact ⟨runs.exists_ok_iff ends, runs.exists_refused_iff ends⟩

/-- A chain on the right of a combinator is the one level that the limit allows. -/
theorem evaluate_succeeds_iff_chain_on_right :
    7 * 1 + 9 ≤ 16 ∧
    ∃ result, Sheet.evaluate 16 ⟨[.style (.combine .child (.simple .any) (.combine .child
      (.simple .any) (.simple .any))) []]⟩ "x" ⟨"m", 1, false, by decide, by decide⟩ =
        .ok result := by
  have holds := evaluate_succeeds_iff 16 ⟨[.style (.combine .child (.simple .any)
    (.combine .child (.simple .any) (.simple .any))) []]⟩ "x" ⟨"m", 1, false, by decide, by decide⟩
  have ends := holds.1 (.inr (by decide))
  refine ⟨by decide, (holds.2 ends).1.mpr ⟨by decide, ?_⟩⟩
  exact faultIn?_eq_none_iff_scopable.mp (by decide)

/-! ## Sheets that take many calls -/

end Sheet

namespace Selector

/-- The selector `a b:not(a b:not(c))`, with as many negations. -/
def nestedNegations : Nat → Selector
  | 0 => .simple (.type "c")
  | levels + 1 => .combine .descendant (.simple (.type "a"))
      (.compound [.simple (.type "b"), .negation (nestedNegations levels)])

/-- Each negation takes four calls: the selector, its chain, a part of the chain and the
compound. -/
theorem calls_nestedNegations (count : Nat) : calls (nestedNegations count) = 4 * count + 1 := by
  induction count with
  | zero => rfl
  | succ count induction =>
      have more : calls (nestedNegations (count + 1)) =
          max 1 (max (calls (nestedNegations count)) 0 + 2 + 0) + 2 := rfl
      rw [more, induction]
      omega

theorem composed_nestedNegations : ∀ count : Nat, Composed (nestedNegations count)
  | 0 => trivial
  | count + 1 => by
      refine ⟨trivial, List.cons_ne_nil _ _, ?_, trivial, composed_nestedNegations count, trivial⟩
      simp [isMember]

theorem levels_nestedNegations (count : Nat) : levels (nestedNegations count) = count := by
  induction count with
  | zero => rfl
  | succ count induction =>
      have more : levels (nestedNegations (count + 1)) =
          max 0 (max 0 (max (levels (nestedNegations count) + 1) 0)) := rfl
      rw [more, induction]
      omega

theorem scopable_nestedNegations {count limit : Nat} (within : count ≤ limit) :
    (nestedNegations count).Scopable limit where
  composed := composed_nestedNegations count
  shallow := by
    rw [← (composed_nestedNegations count).levels_le_iff, levels_nestedNegations]
    exact within

end Selector

namespace Sheet

variable {levels room : Nat} {scope : Text} {config : Config}

/-- A sheet with one style rule. -/
def ofSelector (selector : Selector) : Sheet Selector := ⟨[.style selector []]⟩

theorem scopable_nestedNegations {limit : Nat} (within : levels ≤ limit) :
    (ofSelector (Selector.nestedNegations levels)).Scopable limit where
  rulesOnly := rfl
  shallow := Nat.zero_le limit
  selectors selector member := by
    rw [List.mem_singleton.mp member]
    exact Selector.scopable_nestedNegations within

theorem calls_nestedNegations (levels : Nat) :
    (ofSelector (Selector.nestedNegations levels)).calls = 4 * levels + 5 := by
  have around : (ofSelector (Selector.nestedNegations levels)).calls =
      max ((Selector.nestedNegations levels).calls + 1) 0 + 3 := rfl
  rw [around, Selector.calls_nestedNegations]
  omega

/-- A sheet that nests no deeper than the limit may still take more calls than there is
room for. -/
theorem evaluate_nestedNegations (within : levels ≤ config.maxDepth)
    (nonempty : scope ≠ []) (less : room < 4 * levels + 5) :
    (ofSelector (Selector.nestedNegations levels)).evaluate room scope config =
      .error .outOfStack := by
  have runs := evaluate_runs nonempty room (ofSelector (Selector.nestedNegations levels)) config
  rw [faultIn?_eq_none_iff_scopable.mpr (scopable_nestedNegations within)] at runs
  rw [← calls_nestedNegations] at less
  exact runs.eq_outOfStack less

theorem evaluate_foreign_ne_ok (nonempty : scope ≠ []) (value : Foreign)
    (result : VirtualSheet) :
    (ofSelector (.foreign value)).evaluate room scope config ≠ .ok result := by
  intro succeeds
  have faultless := ((evaluate_runs nonempty room _ config).eq_of_ok succeeds).1
  have refused : Rule.faultIn? config.maxDepth 0 (ofSelector (.foreign value)).rules =
      some (.unsupportedSelector value.kind) := by
    simp [ofSelector, Rule.faultIn?, Rule.fault?, Selector.fault?]
  rw [refused] at faultless
  cases faultless

/-- A selector of another kind is refused, though there is no group and no compound in it,
and it has no part but itself. And 256 levels of negations need more room than a stack of
1000 calls has. -/
theorem exists_refused_without_fault :
    (∃ value : Foreign, value.kind = "Sheet" ∧
      (∀ part count, Selector.CountedUnder part count (.foreign value) →
        part = .foreign value ∧ count = 0) ∧
      ∀ room result, (ofSelector (.foreign value)).evaluate room "x" .standard ≠ .ok result) ∧
    (ofSelector (Selector.nestedNegations 256)).Scopable Config.standard.maxDepth ∧
    ∀ room ≤ 1000, (ofSelector (Selector.nestedNegations 256)).evaluate room "x" .standard =
      .error .outOfStack := by
  refine ⟨⟨⟨"Sheet", "Sheet()"⟩, rfl, ?_, fun _ => evaluate_foreign_ne_ok (by decide) _⟩,
    scopable_nestedNegations (Nat.le_refl 256), fun room le => ?_⟩
  · intro part count counted
    cases counted
    exact ⟨rfl, rfl⟩
  · exact evaluate_nestedNegations (Nat.le_refl 256) (by decide) (by omega)

end Sheet

end ScopedMarkup.Css
