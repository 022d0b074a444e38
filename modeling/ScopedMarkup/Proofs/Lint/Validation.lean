import ScopedMarkup.Lint.Validation
import ScopedMarkup.Proofs.Lint.Offence

/-! # All checks together

To leave a check out is to drop its findings. Only two checks come up with errors: the one
for imports always, and the one for repeated attributes in strict linting.
-/

namespace ScopedMarkup.Lint

open Markup

variable {strict : Bool} {ignored : List Text} {tree : Node Css.Selector} {finding : Finding}

/-! ## Checks that are left out -/

/-- A finding as it is reported. -/
def Finding.reported (strict : Bool) (finding : Finding) : Finding :=
  if strict then finding.escalate else finding

theorem Finding.rule_reported (strict : Bool) (finding : Finding) :
    (finding.reported strict).rule = finding.rule := by
  rw [reported, escalate]
  repeat' split
  all_goals rfl

/-- Findings carry the name of their check. -/
theorem rule_of_mem_findings {check : Check} (member : check ∈ Check.all)
    (found : finding ∈ check.findings tree) : finding.rule = check.name := by
  simp only [Check.all, List.mem_cons, List.not_mem_nil, or_false] at member
  rcases member with rfl | rfl | rfl | rfl
  · rcases exists_repeated_of_mem found with ⟨path, tag, name, rfl⟩
    rfl
  · rcases exists_emptySlot_of_mem found with ⟨path, rfl⟩
    rfl
  · rcases exists_nestedStyle_of_mem found with ⟨path, rfl⟩
    rfl
  · rcases exists_missingSource_of_mem found with ⟨path, rfl⟩
    rfl

theorem flatMap_findings_filter {checks : List Check}
    (own : ∀ check ∈ checks, ∀ finding ∈ check.findings tree, finding.rule = check.name)
    (kept : Text → Bool) :
    (checks.filter fun check => kept check.name).flatMap (fun check => check.findings tree) =
      (checks.flatMap fun check => check.findings tree).filter fun finding =>
        kept finding.rule := by
  induction checks with
  | nil => rfl
  | cons check checks induction =>
      rcases List.forall_mem_cons.mp own with ⟨here, further⟩
      have same : (check.findings tree).filter (fun finding => kept finding.rule) =
          (check.findings tree).filter fun _ => kept check.name :=
        List.filter_congr fun finding found => by rw [here finding found]
      rw [List.flatMap_cons, List.filter_append, ← induction further, same, List.filter_cons]
      cases kept check.name with
      | true => rw [if_pos rfl, List.flatMap_cons, List.filter_true]
      | false => rw [if_neg Bool.false_ne_true, List.filter_false, List.nil_append]

theorem validate_eq_flatMap (strict : Bool) (ignored : List Text) (tree : Node Css.Selector) :
    validate { strict, ignored } tree =
      ((Check.all.filter fun check => !ignored.contains check.name).flatMap fun check =>
        check.findings tree).map (Finding.reported strict) := by
  rw [validate, List.append_nil]
  cases strict with
  | true => rfl
  | false => exact (List.map_id _).symm

theorem validate_eq (strict : Bool) (ignored : List Text) (tree : Node Css.Selector) :
    validate { strict, ignored } tree =
      ((Check.all.flatMap fun check => check.findings tree).filter fun finding =>
        !ignored.contains finding.rule).map (Finding.reported strict) := by
  rw [validate_eq_flatMap]
  exact congrArg (List.map _) (flatMap_findings_filter
    (fun check member finding => rule_of_mem_findings member) fun name => !ignored.contains name)

/-- What is left out are the findings of the checks that are left out. -/
theorem validate_eq_filter (strict : Bool) (ignored : List Text) (tree : Node Css.Selector) :
    validate { strict, ignored } tree =
      (validate { strict } tree).filter fun finding => finding.rule ∉ ignored := by
  rw [validate_eq, validate_eq, List.filter_map, List.filter_filter]
  refine congrArg (List.map _) (List.filter_congr fun finding _ => ?_)
  simp [Finding.rule_reported]

/-! ## Errors -/

theorem mem_validate_iff :
    finding ∈ validate { strict, ignored } tree ↔
      ∃ check ∈ Check.all, check.name ∉ ignored ∧
        ∃ found ∈ check.findings tree, found.reported strict = finding := by
  rw [validate_eq_flatMap]
  simp only [List.mem_map, List.mem_flatMap, List.mem_filter, Bool.not_eq_true',
    List.contains_eq_mem, decide_eq_false_iff_not]
  constructor
  · rintro ⟨found, ⟨check, ⟨member, kept⟩, inside⟩, rfl⟩
    exact ⟨check, member, kept, found, inside, rfl⟩
  · rintro ⟨check, member, kept, found, inside, rfl⟩
    exact ⟨found, ⟨check, ⟨member, kept⟩, inside⟩, rfl⟩

theorem isError_reported_repeated (strict : Bool) (path : List Text) (tag name : Text) :
    ((Finding.repeated path tag name).reported strict).isError = strict := by
  cases strict <;> rfl

theorem isError_reported_emptySlot (strict : Bool) (path : List Text) :
    ((Finding.emptySlot path).reported strict).isError = false := by
  cases strict <;> rfl

theorem isError_reported_nestedStyle (strict : Bool) (path : List Text) :
    ((Finding.nestedStyle path).reported strict).isError = false := by
  cases strict <;> rfl

theorem isError_reported_missingSource (strict : Bool) (path : List Text) :
    ((Finding.missingSource path).reported strict).isError = true := by
  cases strict <;> rfl

/-- An error is about an import without a source, or in strict linting about a repeated
attribute. -/
theorem exists_isError_iff :
    (∃ finding ∈ validate { strict, ignored } tree, finding.isError = true) ↔
      Check.importSource.name ∉ ignored ∧ Check.importSource.findings tree ≠ [] ∨
        strict = true ∧ Check.duplicateAttributes.name ∉ ignored ∧
          Check.duplicateAttributes.findings tree ≠ [] := by
  constructor
  · rintro ⟨_, reported, isError⟩
    rcases mem_validate_iff.mp reported with ⟨check, member, kept, finding, found, rfl⟩
    have present : check.findings tree ≠ [] := List.ne_nil_of_mem found
    simp only [Check.all, List.mem_cons, List.not_mem_nil, or_false] at member
    rcases member with rfl | rfl | rfl | rfl
    · rcases exists_repeated_of_mem found with ⟨path, tag, name, rfl⟩
      rw [isError_reported_repeated] at isError
      exact .inr ⟨isError, kept, present⟩
    · rcases exists_emptySlot_of_mem found with ⟨path, rfl⟩
      rw [isError_reported_emptySlot] at isError
      cases isError
    · rcases exists_nestedStyle_of_mem found with ⟨path, rfl⟩
      rw [isError_reported_nestedStyle] at isError
      cases isError
    · exact .inl ⟨kept, present⟩
  · rintro (⟨kept, present⟩ | ⟨rfl, kept, present⟩)
    · rcases List.exists_mem_of_ne_nil _ present with ⟨finding, found⟩
      refine ⟨_, mem_validate_iff.mpr ⟨_, by simp [Check.all], kept, finding, found, rfl⟩, ?_⟩
      rcases exists_missingSource_of_mem found with ⟨path, rfl⟩
      exact isError_reported_missingSource strict path
    · rcases List.exists_mem_of_ne_nil _ present with ⟨finding, found⟩
      refine ⟨_, mem_validate_iff.mpr ⟨_, by simp [Check.all], kept, finding, found, rfl⟩, ?_⟩
      rcases exists_repeated_of_mem found with ⟨path, tag, name, rfl⟩
      exact isError_reported_repeated true path tag name

/-! ## What is refused -/

/-- An import that names no source stands in the tree, or in strict linting an element or
a style element that repeats an attribute, and the check for it is not left out. -/
def Refuses (strict : Bool) (ignored : List Text) (tree : Node Css.Selector) : Prop :=
  (("check_import_src" : Text) ∉ ignored ∧
      ∃ attributes children, .element "import" attributes children ∈ tree.walk ∧
        ∀ entry ∈ attributes, entry.name ≠ ("src" : Text)) ∨
    strict = true ∧ ("check_duplicate_attributes" : Text) ∉ ignored ∧
      ∃ node ∈ tree.walk, (node.isElement = true ∨ node.isStyle = true) ∧
        ¬ (node.attributes.map Attribute.name).Nodup

theorem importSource_findings_ne_nil_iff :
    Check.importSource.findings tree ≠ [] ↔
      ∃ attributes children, .element "import" attributes children ∈ tree.walk ∧
        ∀ entry ∈ attributes, entry.name ≠ ("src" : Text) := by
  rw [ne_eq, importSource_findings_eq_nil_iff]
  constructor
  · intro some
    simp only [not_forall, Bool.not_eq_false] at some
    rcases some with ⟨node, member, lacks⟩
    cases node with
    | element tag attributes children =>
        rcases Bool.and_eq_true_iff.mp lacks with ⟨isImport, none⟩
        cases of_decide_eq_true isImport
        exact ⟨attributes, children, member, by simpa using none⟩
    | style _ _ | slot _ | text _ | fragment _ | foreign _ => cases lacks
  · rintro ⟨attributes, children, member, none⟩ all
    have lacks :
        lacksSource (.element "import" attributes children : Node Css.Selector) = true := by
      simpa [lacksSource] using none
    rw [all _ member] at lacks
    cases lacks

theorem duplicateAttributes_findings_ne_nil_iff :
    Check.duplicateAttributes.findings tree ≠ [] ↔
      ∃ node ∈ tree.walk, (node.isElement = true ∨ node.isStyle = true) ∧
        ¬ (node.attributes.map Attribute.name).Nodup := by
  rw [ne_eq, findings_eq_nil_iff]
  constructor
  · intro some
    simp only [not_forall] at some
    rcases some with ⟨node, member, repeats⟩
    refine ⟨node, member, ?_, repeats⟩
    cases node with
    | element _ _ _ => exact .inl rfl
    | style _ _ => exact .inr rfl
    | slot _ | text _ | fragment _ | foreign _ => exact absurd List.nodup_nil repeats
  · rintro ⟨node, member, -, repeats⟩ all
    exact repeats (all node member)

theorem exists_isError_iff_refuses :
    (∃ finding ∈ validate { strict, ignored } tree, finding.isError = true) ↔
      Refuses strict ignored tree := by
  rw [exists_isError_iff, importSource_findings_ne_nil_iff,
    duplicateAttributes_findings_ne_nil_iff]
  rfl

theorem errors_eq_nil_iff :
    (validate { strict, ignored } tree).filter Finding.isError = [] ↔
      ¬ Refuses strict ignored tree := by
  rw [← exists_isError_iff_refuses, List.filter_eq_nil_iff, not_exists]
  exact forall_congr' fun finding => not_and.symm

/-- A tree is refused with just the errors among its findings, or accepted with all of them. -/
theorem requireValid_eq (options : Options) (tree : Node Css.Selector) :
    requireValid options tree =
      if (validate options tree).filter Finding.isError = [] then .ok (validate options tree)
      else .error ⟨(validate options tree).filter Finding.isError⟩ := by
  rw [requireValid]
  split
  · rename_i none
    rw [if_pos none]
  · rename_i some
    rw [if_neg (by rw [some]; exact List.cons_ne_nil _ _), some]

/-- To leave checks out is to drop their findings. A tree is refused, with the errors among
its findings, just for what `Refuses` says; else it is accepted with all its findings. -/
theorem requireValid_ignoring (strict : Bool) (ignored : List Text) (tree : Node Css.Selector) :
    validate { strict, ignored } tree =
        (validate { strict } tree).filter (fun finding => finding.rule ∉ ignored) ∧
      (requireValid { strict, ignored } tree =
          .error ⟨(validate { strict, ignored } tree).filter Finding.isError⟩ ↔
        Refuses strict ignored tree) ∧
      (requireValid { strict, ignored } tree = .ok (validate { strict, ignored } tree) ↔
        ¬ Refuses strict ignored tree) := by
  refine ⟨validate_eq_filter strict ignored tree, ?_⟩
  rw [requireValid_eq]
  split
  · rename_i none
    have accepted := errors_eq_nil_iff.mp none
    exact ⟨iff_of_false nofun accepted, iff_of_true rfl accepted⟩
  · rename_i some
    have refused := not_not.mp (mt errors_eq_nil_iff.mpr some)
    exact ⟨iff_of_true rfl refused, iff_of_false nofun (not_not_intro refused)⟩

end ScopedMarkup.Lint
