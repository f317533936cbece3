import DyData.RelationalTable

/-!
Dictionaries of accumulators and grouped queries.  A loop that adds each entry to the
accumulator of its key, and a query that groups rows by a key, both give a key exactly what the
entries of that key come to.
-/

namespace Relational

open List Option

abbrev Dict (κ β : Type*) := Table (Prod.fst : κ × β → κ)

namespace Dict

variable {κ α β ρ : Type*} [DecidableEq κ]

def value? (d : Dict κ β) (k : κ) : Option β := (d.get? k).map Prod.snd

theorem value?_eq_some_iff {d : Dict κ β} {k : κ} {b : β} :
    d.value? k = some b ↔ (k, b) ∈ d.rows := by
  unfold value?
  constructor
  · intro h
    obtain ⟨_, he, rfl⟩ := map_eq_some_iff.mp h
    have hkey := d.key_of_get? he
    rw [← hkey]
    exact d.mem_of_get? he
  · intro h
    have hget : d.get? k = some (k, b) := d.get?_of_mem h
    rw [hget, map_some]

theorem value?_eq_none_iff {d : Dict κ β} {k : κ} :
    d.value? k = none ↔ k ∉ d.rows.map Prod.fst := by
  unfold value?
  rw [map_eq_none_iff, Table.get?_eq_none_iff, List.mem_map]
  push Not
  rfl

theorem value?_empty (k : κ) : value? (.empty : Dict κ β) k = none := rfl

/-- The accumulator of a key changes, from `start` where the key is new. -/
def modify (d : Dict κ β) (start : β) (k : κ) (f : β → β) : Dict κ β :=
  d.put (k, f ((d.value? k).getD start))

theorem value?_modify (d : Dict κ β) (start : β) (k : κ) (f : β → β) (j : κ) :
    (d.modify start k f).value? j =
      if j = k then some (f ((d.value? k).getD start)) else d.value? j := by
  unfold modify
  rw [value?, Table.get?_put]
  split
  · rw [map_some]
  · rfl

/-- Each entry goes to the accumulator of its key, in turn. -/
def tally (start : β) (f : β → α → β) (d : Dict κ β) (entries : List (κ × α)) : Dict κ β :=
  entries.foldl (fun d e => d.modify start e.1 fun b => f b e.2) d

def entriesOf (k : κ) (entries : List (κ × α)) : List α :=
  (entries.filter fun e => e.1 = k).map Prod.snd

theorem entriesOf_cons (k : κ) (e : κ × α) (entries : List (κ × α)) : entriesOf k (e :: entries) =
      if e.1 = k then e.2 :: entriesOf k entries else entriesOf k entries := by
  unfold entriesOf
  rw [filter_cons]
  by_cases h : e.1 = k
  · rw [if_pos (decide_eq_true h), if_pos h, map_cons]
  · rw [if_neg (by simpa using h), if_neg h]

/-- Under distinct keys a key has one entry at most. -/
theorem entriesOf_of_nodup {rows : List (κ × β)} (h : (rows.map Prod.fst).Nodup) (k : κ) :
    entriesOf k rows = ((rows.find? fun e => e.1 = k).map Prod.snd).toList := by
  induction rows with
  | nil => rfl
  | cons e rows ih =>
    obtain ⟨hfr, hrows⟩ := nodup_cons.mp h
    rw [entriesOf_cons, find?_cons]
    by_cases hk : e.1 = k
    · have hnone : entriesOf k rows = [] := by
        refine map_eq_nil_iff.mpr (filter_eq_nil_iff.mpr fun e' he' hsame => hfr ?_)
        rw [hk, ← of_decide_eq_true hsame]
        exact List.mem_map_of_mem he'
      rw [if_pos hk, hnone, decide_eq_true hk]
      rfl
    · rw [if_neg hk, ih hrows, decide_eq_false hk]

theorem filter_eq_of_nodup {δ : Type*} [DecidableEq δ] {l : List δ} (h : l.Nodup) (a : δ) :
    l.filter (fun b => b = a) = if a ∈ l then [a] else [] := by
  have hcnt : l.filter (fun b => b = a) = replicate (l.count a) a := filter_beq a
  rw [hcnt]
  split
  · rename_i hmem
    rw [count_eq_one_of_mem h hmem]
    rfl
  · rename_i hmem
    rw [count_eq_zero_of_not_mem hmem]
    rfl

/-- An item that is entered under several distinct keys is under each of them once. -/
theorem entriesOf_spread {δ γ : Type*} [DecidableEq δ] (group : α → κ) (dims : α → List δ)
    (value : α → γ) (hdims : ∀ a, (dims a).Nodup) (items : List α) (k : κ) (d : δ) :
    entriesOf (k, d) (items.flatMap fun a => (dims a).map fun d => ((group a, d), value a)) =
      (items.filter fun a => group a = k && decide (d ∈ dims a)).map value := by
  induction items with
  | nil => rfl
  | cons a items ih =>
    have hhead : entriesOf (k, d) ((dims a).map fun d => ((group a, d), value a)) =
        if group a = k && decide (d ∈ dims a) then [value a] else [] := by
      unfold entriesOf
      rw [List.filter_map]
      by_cases hgrp : group a = k
      · have hkey : ((fun e : (κ × δ) × γ => decide (e.1 = (k, d))) ∘
            fun d => ((group a, d), value a)) = fun b => decide (b = d) := by
          funext b
          simp [hgrp]
        rw [hkey, filter_eq_of_nodup (hdims a)]
        simp only [hgrp, decide_true, Bool.true_and, decide_eq_true_eq]
        split <;> rfl
      · have hkey : ((fun e : (κ × δ) × γ => decide (e.1 = (k, d))) ∘
            fun d => ((group a, d), value a)) = fun _ => false := by
          funext b
          simp [hgrp]
        simp [hgrp]
    have happ : entriesOf (k, d) ((a :: items).flatMap
        fun a => (dims a).map fun d => ((group a, d), value a)) =
        entriesOf (k, d) ((dims a).map fun d => ((group a, d), value a)) ++
          entriesOf (k, d) (items.flatMap
            fun a => (dims a).map fun d => ((group a, d), value a)) := by
      unfold entriesOf
      rw [flatMap_cons, filter_append, map_append]
    rw [happ, hhead, ih, filter_cons]
    split <;> rfl

/-- A key holds what its own entries come to, and is absent when it never occurred. -/
theorem value?_tally (start : β) (f : β → α → β) (d : Dict κ β) (entries : List (κ × α))
    (k : κ) : (tally start f d entries).value? k = if entriesOf k entries = [] then d.value? k
      else some ((entriesOf k entries).foldl f ((d.value? k).getD start)) := by
  induction entries generalizing d with
  | nil => rfl
  | cons e entries ih =>
    change (tally start f (d.modify start e.1 fun b => f b e.2) entries).value? k = _
    rw [ih, entriesOf_cons, value?_modify]
    by_cases h : e.1 = k
    · rw [if_pos h, if_pos h.symm, if_neg (cons_ne_nil _ _), foldl_cons, h]
      split
      · rename_i hnil
        rw [hnil, foldl_nil]
      · rw [getD_some]
    · have hk : ¬ k = e.1 := fun he => h he.symm
      simp only [if_neg h, if_neg hk]

/-- A tally that adds holds the sum of a key's entries. -/
theorem getD_tally_add [AddMonoid β] (entries : List (κ × β)) (k : κ) :
    ((tally 0 (· + ·) (.empty : Dict κ β) entries).value? k).getD 0 =
      (entriesOf k entries).sum := by
  rw [value?_tally]
  split
  · rename_i hnil
    rw [hnil]
    rfl
  · rw [getD_some, value?_empty, getD_none, sum_eq_foldl]

/-- `GROUP BY key`: a row for each key, from the rows of that key. -/
def groupBy (key : ρ → κ) (aggregate : κ → List ρ → β) (rows : List ρ) : Dict κ β where
  rows := (rows.map key).dedup.map fun k => (k, aggregate k (rows.filter fun r => key r = k))
  nodup := by
    rw [List.map_map]
    exact (List.map_id _).symm ▸ nodup_dedup _

theorem value?_groupBy (key : ρ → κ) (aggregate : κ → List ρ → β) (rows : List ρ) (k : κ) :
    (groupBy key aggregate rows).value? k = if rows.filter (fun r => key r = k) = [] then none
      else some (aggregate k (rows.filter fun r => key r = k)) := by
  by_cases h : rows.filter (fun r => key r = k) = []
  · rw [if_pos h]
    refine eq_none_iff_forall_ne_some.mpr fun b hb => ?_
    obtain ⟨k', hk', he⟩ := List.mem_map.mp (value?_eq_some_iff.mp hb)
    obtain rfl : k' = k := (Prod.mk.inj he).1
    obtain ⟨r, hr, hkey⟩ := List.mem_map.mp (mem_dedup.mp hk')
    exact filter_eq_nil_iff.mp h r hr (decide_eq_true hkey)
  · rw [if_neg h, value?_eq_some_iff]
    obtain ⟨r, hr⟩ := exists_mem_of_ne_nil _ h
    obtain ⟨hr, hkey⟩ := mem_filter.mp hr
    refine List.mem_map.mpr ⟨k, mem_dedup.mpr (List.mem_map.mpr ⟨r, hr, ?_⟩), rfl⟩
    exact of_decide_eq_true hkey

end Dict

end Relational
