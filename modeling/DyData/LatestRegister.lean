import Mathlib

/-!
A register that keeps the greatest write.  A write replaces the value held when its rank is greater;
of the writes with one rank the first is kept.
-/

namespace LatestRegister

open List

variable {α β : Type*} [LinearOrder β] (rank : α → β)

def write (held : Option α) (a : α) : Option α :=
  match held with
  | none => some a
  | some cur => if rank cur < rank a then some a else some cur

def writeAll (held : Option α) (writes : List α) : Option α := writes.foldl (write rank) held

variable {rank}

/-- Writes that are not greater leave the value. -/
theorem writeAll_of_le {cur : α} {writes : List α} (h : ∀ a ∈ writes, rank a ≤ rank cur) :
    writeAll rank (some cur) writes = some cur := by
  induction writes with
  | nil => rfl
  | cons a writes ih =>
    have hkept : write rank (some cur) a = some cur :=
      if_neg (not_lt.mpr (h a mem_cons_self))
    have hrest : ∀ b ∈ writes, rank b ≤ rank cur := fun b hb => h b (mem_cons_of_mem a hb)
    calc writeAll rank (some cur) (a :: writes)
        = writeAll rank (write rank (some cur) a) writes := rfl
      _ = writeAll rank (some cur) writes := by rw [hkept]
      _ = some cur := ih hrest

/-- Over a value, a greatest one of the value and the writes is held. -/
theorem writeAll_some (cur : α) (writes : List α) :
    ∃ a ∈ cur :: writes, writeAll rank (some cur) writes = some a ∧
      ∀ b ∈ cur :: writes, rank b ≤ rank a := by
  induction writes generalizing cur with
  | nil => exact ⟨cur, mem_cons_self, rfl, fun b hb => by rw [mem_singleton.mp hb]⟩
  | cons first writes ih =>
    by_cases hlt : rank cur < rank first
    · have hstep : writeAll rank (some cur) (first :: writes) = writeAll rank (some first) writes := by
        change writeAll rank (write rank (some cur) first) writes = _
        rw [write, if_pos hlt]
      obtain ⟨a, ha, heq, hmax⟩ := ih first
      refine ⟨a, mem_cons_of_mem cur ha, hstep.trans heq, ?_⟩
      intro b hb
      rcases mem_cons.mp hb with rfl | hb
      · exact hlt.le.trans (hmax first mem_cons_self)
      · exact hmax b hb
    · have hstep : writeAll rank (some cur) (first :: writes) = writeAll rank (some cur) writes := by
        change writeAll rank (write rank (some cur) first) writes = _
        rw [write, if_neg hlt]
      obtain ⟨a, ha, heq, hmax⟩ := ih cur
      refine ⟨a, ?_, hstep.trans heq, ?_⟩
      · rcases mem_cons.mp ha with rfl | ha
        · exact mem_cons_self
        · exact mem_cons_of_mem cur (mem_cons_of_mem first ha)
      · intro b hb
        rcases mem_cons.mp hb with rfl | hb
        · exact hmax b mem_cons_self
        · rcases mem_cons.mp hb with rfl | hb
          · exact (not_lt.mp hlt).trans (hmax cur mem_cons_self)
          · exact hmax b (mem_cons_of_mem cur hb)

/-- An empty register ends with a greatest one of its writes. -/
theorem writeAll_none {writes : List α} (hne : writes ≠ []) :
    ∃ a ∈ writes, writeAll rank none writes = some a ∧ ∀ b ∈ writes, rank b ≤ rank a := by
  cases writes with
  | nil => exact absurd rfl hne
  | cons first writes => exact writeAll_some first writes

end LatestRegister
