import DyData.SparseBuild
import DyData.BillingSourceTotals

/-!
The months a sparse build spreads to.  A round reads the adjustments of its months with a query of
at most 121 distinct pairs and no order.  Once that many pairs lie within the months, the pairs
that lead on may be left out.
-/

namespace DyData.Sparse

open Relational DyData.Settlement List

/-- The original and the posting month of an adjustment. -/
def Adjusts (db : Settlement.Db) (p : Month × Month) : Prop :=
  ∃ a ∈ db.adjustments.rows, (a.originalBusinessMonth, a.adjustmentPostingMonth) = p

/-- The month of a frozen entry and the month of the current result of its coupon. -/
def Moves (db : Settlement.Db) (p : Month × Month) : Prop :=
  ∃ e ∈ db.billing.protectedEntries, ∃ r ∈ db.currentResults, e.1.sourceType = .original ∧
    e.1.couponId = r.couponId ∧ e.1.feeDirection = r.feeDirection ∧
    (e.2.statementMonth, r.originalBusinessMonth) = p

def Touches (values : List Month) (p : Month × Month) : Prop := p.1 ∈ values ∨ p.2 ∈ values

def Within (values : List Month) (p : Month × Month) : Prop := p.1 ∈ values ∧ p.2 ∈ values

def Closed (db : Settlement.Db) (S : Set Month) : Prop :=
  ∀ p, Adjusts db p ∨ Moves db p → (p.1 ∈ S ↔ p.2 ∈ S)

/-- What the limited query may answer. -/
structure Answer (db : Settlement.Db) (values : List Month) (pairs : List (Month × Month)) :
    Prop where
  nodup : pairs.Nodup
  found : ∀ p ∈ pairs, Adjusts db p ∧ Touches values p
  full : pairs.length = maxSparseMonths + 1 ∨ ∀ p, Adjusts db p → Touches values p → p ∈ pairs

/-- One round that keeps within the limit of months. -/
def Round (db : Settlement.Db) (values next : List Month) : Prop :=
  next.Nodup ∧ next.length ≤ maxSparseMonths ∧ ∃ pairs, Answer db values pairs ∧
    ∀ m, m ∈ next ↔ m ∈ values ∨
      ∃ p, (p ∈ pairs ∨ Moves db p ∧ Touches values p) ∧ (m = p.1 ∨ m = p.2)

/-- What rounds come to. -/
def Reached (db : Settlement.Db) (affected values : List Month) : Prop :=
  affected.dedup.length ≤ maxSparseMonths ∧ Relation.ReflTransGen (Round db) affected.dedup values

/-- What a call may return: the months of a round that adds none. -/
def Returned (db : Settlement.Db) (affected months : List Month) : Prop :=
  ∃ values next, Reached db affected values ∧ Round db values next ∧
    next.length = values.length ∧ months = values.insertionSort (· ≤ ·)

/-! ### The rounds of the model -/

section Rounds

variable {db : Settlement.Db} {values affected months : List Month}

theorem round_linkedMonths
    (hlen : (values ++ linkedMonths db values).dedup.length ≤ maxSparseMonths) :
    Round db values (values ++ linkedMonths db values).dedup := by
  refine ⟨nodup_dedup _, hlen, ((db.adjustments.rows.filter fun a =>
    values.contains a.originalBusinessMonth || values.contains a.adjustmentPostingMonth).map
    fun a => (a.originalBusinessMonth, a.adjustmentPostingMonth)).dedup.take (maxSparseMonths + 1),
    ⟨(nodup_dedup _).sublist (take_sublist _ _), ?_, ?_⟩, ?_⟩
  · intro p hp
    have hp := mem_of_mem_take hp
    simp only [mem_dedup, mem_map, mem_filter, bool_to_prop, contains_iff_mem] at hp
    obtain ⟨a, ⟨ha, htch⟩, rfl⟩ := hp
    exact ⟨⟨a, ha, rfl⟩, htch⟩
  · rw [length_take, or_iff_not_imp_left]
    rintro hshort p ⟨a, ha, rfl⟩ htch
    rw [take_of_length_le (by omega)]
    simp only [mem_dedup, mem_map, mem_filter, bool_to_prop, contains_iff_mem]
    exact ⟨a, ⟨ha, htch⟩, rfl⟩
  · intro m
    simp only [linkedMonths, mem_dedup, mem_append, mem_flatMap, mem_cons, not_mem_nil, or_false]
    refine or_congr_right (exists_congr fun p => and_congr_left fun _ => or_congr_right ?_)
    simp only [mem_map, mem_filter, bool_to_prop, contains_iff_mem, Moves, Touches]
    constructor
    · rintro ⟨e, he, r, ⟨hr, ⟨⟨hsrc, hcoup⟩, hdir⟩, htch⟩, rfl⟩
      exact ⟨⟨e, he, r, hr, hsrc, hcoup, hdir, rfl⟩, htch⟩
    · rintro ⟨⟨e, he, r, hr, hsrc, hcoup, hdir, rfl⟩, htch⟩
      exact ⟨e, he, r, ⟨hr, ⟨⟨hsrc, hcoup⟩, hdir⟩, htch⟩, rfl⟩

/-- The rounds of the model are rounds, and as each adds a month, they do not run out. -/
theorem expandRounds_spec {n : Nat} (hnd : values.Nodup) (hlen : values.length ≤ maxSparseMonths)
    (hn : maxSparseMonths < values.length + n) :
    expandRounds db (n + 1) values = expandRounds db n values ∧
      ∀ months, expandRounds db n values = .ok months → ∃ last next,
        Relation.ReflTransGen (Round db) values last ∧ Round db last next ∧
          next.length = last.length ∧ months = last.insertionSort (· ≤ ·) := by
  induction n generalizing values with
  | zero => omega
  | succ n ih =>
    have hstep (k : Nat) : expandRounds db (k + 1) values =
        if maxSparseMonths < (values ++ linkedMonths db values).dedup.length then
          .error (.valueError "adjustment month closure exceeds sparse limit")
        else if (values ++ linkedMonths db values).dedup.length = values.length then
          .ok (values.insertionSort (· ≤ ·))
        else expandRounds db k (values ++ linkedMonths db values).dedup := rfl
    have hgrow := (hnd.subperm fun m hm => mem_dedup.mpr
      (mem_append_left (linkedMonths db values) hm)).length_le
    rw [hstep, hstep]
    split
    · exact ⟨rfl, fun _ h => by cases h⟩
    · rename_i hle
      have hround := round_linkedMonths (Nat.le_of_not_lt hle)
      split
      · rename_i hsame
        refine ⟨rfl, fun months h => ?_⟩
        cases h
        exact ⟨values, _, .refl, hround, hsame, rfl⟩
      · obtain ⟨hfuel, hok⟩ := ih (nodup_dedup _) (Nat.le_of_not_lt hle) (by omega)
        refine ⟨hfuel, fun months h => ?_⟩
        obtain ⟨last, next, hrun, hlast⟩ := hok months h
        exact ⟨last, next, hrun.head hround, hlast⟩

theorem expandAffectedMonths_returned (h : expandAffectedMonths db affected = .ok months) :
    Returned db affected months := by
  obtain ⟨_, -, h⟩ := Except.of_bind h
  obtain ⟨_, hlen, h⟩ := Except.of_bind h
  have hlen := of_decide_eq_true (Except.ensure_eq_ok_iff.mp hlen)
  obtain ⟨last, next, hrun, hlast⟩ := (expandRounds_spec (nodup_dedup _) hlen (by omega)).2 months h
  exact ⟨last, next, ⟨hlen, hrun⟩, hlast⟩

/-! ### What a call returns -/

/-- Closed is: every pair with a month of the set lies within. -/
theorem closed_iff : Closed db {m | m ∈ values} ↔
    ∀ p, Adjusts db p ∨ Moves db p → Touches values p → Within values p := by
  constructor
  · intro h p hp htch
    have hsame : p.1 ∈ values ↔ p.2 ∈ values := h p hp
    rcases htch with hx | hy
    · exact ⟨hx, hsame.mp hx⟩
    · exact ⟨hsame.mpr hy, hy⟩
  · intro h p hp
    exact ⟨fun hx => (h p hp (Or.inl hx)).2, fun hy => (h p hp (Or.inr hy)).1⟩

theorem Reached.spec (h : Reached db affected values) :
    values.Nodup ∧ values.length ≤ maxSparseMonths ∧ affected ⊆ values ∧
      ∀ S, Closed db S → (∀ m ∈ affected, m ∈ S) → ∀ m ∈ values, m ∈ S := by
  obtain ⟨hlen, hrun⟩ := h
  induction hrun with
  | refl =>
    exact ⟨nodup_dedup _, hlen, fun m => mem_dedup.mpr, fun S _ hS m hm => hS m (mem_dedup.mp hm)⟩
  | tail _ hround ih =>
    obtain ⟨hnd, hmax, _, hans, hmem⟩ := hround
    obtain ⟨-, -, hsub, hleast⟩ := ih
    refine ⟨hnd, hmax, fun m hm => (hmem m).mpr (Or.inl (hsub hm)), ?_⟩
    intro S hS haff m hm
    have hin := hleast S hS haff
    rcases (hmem m).mp hm with hm | ⟨p, hp, hm⟩
    · exact hin m hm
    · -- the pair touches a month of the set, so both of its months are in it
      have hlink : (Adjusts db p ∨ Moves db p) ∧ (p.1 ∈ S ∨ p.2 ∈ S) := by
        rcases hp with hp | ⟨hmov, htch⟩
        · obtain ⟨hadj, htch⟩ := hans.found p hp
          exact ⟨Or.inl hadj, htch.imp (hin _) (hin _)⟩
        · exact ⟨Or.inr hmov, htch.imp (hin _) (hin _)⟩
      have hsame := hS p hlink.1
      rcases hm with rfl | rfl
      · exact hlink.2.elim id hsame.mpr
      · exact hlink.2.elim hsame.mp id

/-- What is returned is the least closed set exactly when it is closed. -/
theorem isLeast_iff (h : Reached db affected values) :
    IsLeast {S : Set Month | (∀ m ∈ affected, m ∈ S) ∧ Closed db S}
      {m | m ∈ values.insertionSort (· ≤ ·)} ↔ Closed db {m | m ∈ values} := by
  obtain ⟨-, -, hsub, hleast⟩ := h.spec
  simp only [mem_insertionSort]
  exact ⟨fun h => h.1.2, fun h => ⟨⟨hsub, h⟩, fun S hS m hm => hleast S hS.2 hS.1 m hm⟩⟩

end Rounds

/-! ### Sixteen months with 136 pairs -/

def CrowdedMonths.months : List Month := range' formalSettlementStart 16

/-- Adjustments of every month in every later one, and one of the last month in the next. -/
def CrowdedMonths.pairs : List (Month × Month) :=
  (months.flatMap fun x => (months.filter (x ≤ ·)).map fun y => (x, y)) ++
    [(formalSettlementStart + 15, formalSettlementStart + 16)]

def CrowdedMonths.adjustment (p : Month × Month) : FeeAdjustment :=
  { BillingSourceSample.refund with
    adjustmentId := String.ofList [Char.ofNat (p.1 % 100), Char.ofNat (p.2 % 100)]
    originalBusinessMonth := p.1
    adjustmentPostingMonth := p.2 }

def CrowdedMonths.db : Settlement.Db where
  adjustments := ⟨pairs.map adjustment, by decide +kernel⟩

end DyData.Sparse
