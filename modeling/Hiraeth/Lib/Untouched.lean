import Mathlib.Data.List.Basic

/-!
# Rows that are not touched

What is selected from a list of rows stays the same, when other rows are deleted, changed or
added.

## Main results

* `Untouched.filter_filter`, `Untouched.filter_map`, `Untouched.filter_append`
-/

namespace Untouched

universe u

variable {R : Type u} {rows more : List R} {wanted keep : R → Bool} {change : R → R}

/-- Rows that are deleted, when none of them is wanted. -/
theorem filter_filter (keeps : ∀ row ∈ rows, wanted row → keep row) :
    (rows.filter keep).filter wanted = rows.filter wanted := by
  rw [List.filter_filter]
  refine List.filter_congr fun row member => ?_
  cases isWanted : wanted row with
  | false => rfl
  | true => rw [keeps row member isWanted, Bool.and_true]

/-- Rows that are changed, when none of them is wanted, before or after. -/
theorem filter_map (same : ∀ row ∈ rows, wanted (change row) = wanted row)
    (fixes : ∀ row ∈ rows, wanted row → change row = row) :
    (rows.map change).filter wanted = rows.filter wanted := by
  induction rows with
  | nil => rfl
  | cons row rows inductionHypothesis =>
      have later := inductionHypothesis
        (fun other member => same other (List.mem_cons_of_mem _ member))
        (fun other member => fixes other (List.mem_cons_of_mem _ member))
      rw [List.map_cons, List.filter_cons, List.filter_cons, later,
        same row List.mem_cons_self]
      split_ifs with isWanted
      · rw [fixes row List.mem_cons_self isWanted]
      · rfl

/-- Rows that are added, when none of them is wanted. -/
theorem filter_append (unwanted : ∀ row ∈ more, ¬ wanted row) :
    (rows ++ more).filter wanted = rows.filter wanted := by
  rw [List.filter_append, List.filter_eq_nil_iff.mpr unwanted, List.append_nil]

end Untouched
