import Mathlib.Data.List.Nodup
import ScopedMarkup.Lint.Check

/-! # Names that repeat

Every name that stands in a list more than once is repeated, in the order of the second
places. The names go by once; those before the current one are kept.
-/

namespace ScopedMarkup.Lint

variable {before names : List Text} {name : Text}

/-- The name at an index, if it stands there for the second time. -/
def secondAt? (names : List Text) (index : Nat) : Option Text :=
  names[index]?.filter fun name => (names.take index).count name = 1

example : secondAt? ["a", "b", "a"] 2 = some ("a" : Text) ∧ secondAt? ["a", "b", "a"] 1 = none := by
  decide

theorem secondAt?_append_cons (before : List Text) (name : Text) (rest : List Text) :
    secondAt? (before ++ name :: rest) before.length =
      if before.count name = 1 then some name else none := by
  rw [secondAt?, List.getElem?_append_right (Nat.le_refl _), Nat.sub_self, List.getElem?_cons_zero,
    List.take_left, Option.filter_some]
  simp only [decide_eq_true_eq]

theorem repeatedAfter_eq_filterMap (before names : List Text) :
    repeatedAfter before names =
      (List.range' before.length names.length).filterMap (secondAt? (before ++ names)) := by
  induction names generalizing before with
  | nil => rfl
  | cons name names induction =>
      have further := induction (before ++ [name])
      rw [List.length_append, List.length_singleton, List.append_assoc, List.singleton_append]
        at further
      rw [repeatedAfter, further, List.length_cons, List.range'_succ, List.filterMap_cons,
        secondAt?_append_cons]
      split <;> rfl

/-- The repeated names are those that stand somewhere for the second time, in the order of
these places. -/
theorem repeatedNames_eq_filterMap (names : List Text) :
    repeatedNames names = (List.range names.length).filterMap (secondAt? names) := by
  rw [repeatedNames, repeatedAfter_eq_filterMap, List.range_eq_range']
  rfl

theorem mem_repeatedAfter_cons {other : Text} :
    name ∈ repeatedAfter before (other :: names) ↔
      before.count other = 1 ∧ name = other ∨ name ∈ repeatedAfter (before ++ [other]) names := by
  rw [repeatedAfter]
  split
  · rename_i once
    rw [List.mem_cons, and_iff_right once]
  · rename_i different
    exact (or_iff_right fun both => different both.1).symm

theorem mem_repeatedAfter_iff :
    name ∈ repeatedAfter before names ↔
      before.count name ≤ 1 ∧ 2 ≤ before.count name + names.count name := by
  induction names generalizing before with
  | nil =>
      refine iff_of_false List.not_mem_nil ?_
      rw [List.count_nil]
      omega
  | cons other names induction =>
      rw [mem_repeatedAfter_cons, induction, List.count_append]
      by_cases same : name = other
      · subst same
        rw [List.count_singleton_self, List.count_cons_self, and_iff_left rfl]
        omega
      · rw [List.count_singleton, List.count_cons_of_ne (Ne.symm same)]
        simp [same, Ne.symm same]

/-- The repeated names are those that stand in the list more than once. -/
theorem mem_repeatedNames_iff : name ∈ repeatedNames names ↔ 2 ≤ names.count name := by
  rw [repeatedNames, mem_repeatedAfter_iff, List.count_nil]
  omega

theorem nodup_repeatedAfter (before names : List Text) : (repeatedAfter before names).Nodup := by
  induction names generalizing before with
  | nil => exact List.nodup_nil
  | cons name names induction =>
      rw [repeatedAfter]
      split
      · rename_i once
        refine List.nodup_cons.mpr ⟨fun again => ?_, induction _⟩
        -- Behind its second place a name is no longer listed.
        have early := (mem_repeatedAfter_iff.mp again).1
        rw [List.count_append, once, List.count_singleton_self] at early
        omega
      · exact induction _

/-- Each repeated name is listed once. -/
theorem nodup_repeatedNames (names : List Text) : (repeatedNames names).Nodup :=
  nodup_repeatedAfter [] names

theorem repeatedNames_eq_nil_iff : repeatedNames names = [] ↔ names.Nodup := by
  rw [List.eq_nil_iff_forall_not_mem, List.nodup_iff_count_le_one]
  refine forall_congr' fun name => ?_
  rw [mem_repeatedNames_iff]
  omega

end ScopedMarkup.Lint
