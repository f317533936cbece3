import Mathlib

/-!
A cursor over increasing keys.  It moves over keys whose work is done and stops in front of the
first key whose work is not.
-/

namespace KeysetCursor

/-- Without an open key above the cursor it moves to the last completed key, and otherwise to the
last completed key before the first open one. -/
def advance (cursor : Nat) (unfinished completed : List Nat) : Nat :=
  match (unfinished.filter fun k => cursor < k).min? with
  | none => max cursor (completed.max?.getD 0)
  | some gap => ((completed.filter fun k => cursor < k && k < gap).max?).getD cursor

variable {cursor k : Nat} {unfinished completed : List Nat}

theorem advance_lt (hk : k ∈ unfinished) (hcurs : cursor < k) :
    advance cursor unfinished completed < k := by
  have hopen : k ∈ unfinished.filter fun k => cursor < k :=
    List.mem_filter.mpr ⟨hk, decide_eq_true hcurs⟩
  unfold advance
  split
  · rename_i hnone
    rw [List.min?_eq_none_iff.mp hnone] at hopen
    exact absurd hopen List.not_mem_nil
  · rename_i gap hgap
    have hfst : gap ≤ k := (List.min?_eq_some_iff.mp hgap).2 k hopen
    cases hmax : (completed.filter _).max? with
    | none => exact hcurs
    | some last =>
      have hlast := (List.mem_filter.mp (List.max?_mem hmax)).2
      rw [Bool.and_eq_true, decide_eq_true_eq, decide_eq_true_eq] at hlast
      exact lt_of_lt_of_le hlast.2 hfst

end KeysetCursor
