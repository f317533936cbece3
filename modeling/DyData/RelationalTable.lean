import Mathlib

/-!
Tables with a primary key.  A table is a list of rows in which no two rows share their
key, so a statement that would break the key cannot produce a table.
-/

namespace Relational

open List

/-- Rewriting the rows that satisfy `p` keeps every attribute that the rewriting keeps. -/
theorem map_rewrite {ρ α : Type*} {g : ρ → α} {f : ρ → ρ} (hg : ∀ r, g (f r) = g r) (p : ρ → Bool)
    (rows : List ρ) : (rows.map fun r => if p r then f r else r).map g = rows.map g := by
  rw [map_map]
  refine map_congr_left fun r _ => ?_
  by_cases hp : p r = true
  · simp [hp, hg]
  · simp [hp]

/-- Rows that agree key by key have the same total. -/
theorem sum_eq_of_keys {α β κ : Type*} {l : List α} {m : List β} {k : α → κ} {j : β → κ}
    {f : α → Int} {g : β → Int} (hl : (l.map k).Nodup) (hm : (m.map j).Nodup)
    (hlm : ∀ a ∈ l, ∃ b ∈ m, k a = j b ∧ f a = g b)
    (hml : ∀ b ∈ m, ∃ a ∈ l, k a = j b ∧ f a = g b) : (l.map f).sum = (m.map g).sum := by
  have hperm : (l.map fun a => (k a, f a)).Perm (m.map fun b => (j b, g b)) := by
    have hleft : (l.map fun a => (k a, f a)).Nodup :=
      Nodup.of_map Prod.fst (by rw [map_map]; exact hl)
    have hright : (m.map fun b => (j b, g b)).Nodup :=
      Nodup.of_map Prod.fst (by rw [map_map]; exact hm)
    rw [perm_ext_iff_of_nodup hleft hright]
    intro e
    constructor
    · intro he
      obtain ⟨a, ha, rfl⟩ := mem_map.mp he
      obtain ⟨b, hb, hkey, hval⟩ := hlm a ha
      exact mem_map.mpr ⟨b, hb, by rw [hkey, hval]⟩
    · intro he
      obtain ⟨b, hb, rfl⟩ := mem_map.mp he
      obtain ⟨a, ha, hkey, hval⟩ := hml b hb
      exact mem_map.mpr ⟨a, ha, by rw [hkey, hval]⟩
  have hsum := (hperm.map Prod.snd).sum_eq
  rw [map_map, map_map] at hsum
  exact hsum

/-- Rows with distinct keys that are found again, key by key, add up to no more. -/
theorem sum_le_of_keys {α β κ M : Type*} [AddCommMonoid M] [PartialOrder M] [IsOrderedAddMonoid M]
    {l : List α} {m : List β} {k : α → κ} {j : β → κ} {f : α → M} {g : β → M} (hl : (l.map k).Nodup)
    (hlm : ∀ a ∈ l, ∃ b ∈ m, k a = j b ∧ f a = g b) (hg : ∀ b ∈ m, 0 ≤ g b) :
    (l.map f).sum ≤ (m.map g).sum := by
  have hsubs : (l.map fun a => (k a, f a)) ⊆ m.map fun b => (j b, g b) := by
    intro e he
    obtain ⟨a, ha, rfl⟩ := mem_map.mp he
    obtain ⟨b, hb, hkey, hval⟩ := hlm a ha
    exact mem_map.mpr ⟨b, hb, by rw [hkey, hval]⟩
  have hnd : (l.map fun a => (k a, f a)).Nodup :=
    Nodup.of_map Prod.fst (by rw [map_map]; exact hl)
  obtain ⟨found, hperm, hsubl⟩ := subperm_of_subset hnd hsubs
  have hsum : (found.map Prod.snd).sum = (l.map f).sum := by
    rw [(hperm.map Prod.snd).sum_eq, map_map]
    rfl
  have hle := (hsubl.map Prod.snd).sum_le_sum (by
    intro x hx
    rw [map_map] at hx
    obtain ⟨b, hb, rfl⟩ := mem_map.mp hx
    exact hg b hb)
  rw [hsum, map_map] at hle
  exact hle

/-- The rows of one table, with `key` its primary key. -/
structure Table {κ ρ : Type*} (key : ρ → κ) where
  rows : List ρ
  nodup : (rows.map key).Nodup

namespace Table

variable {κ ρ : Type*} {key : ρ → κ}

def empty : Table key := ⟨[], by simp⟩

def get? [DecidableEq κ] (t : Table key) (k : κ) : Option ρ :=
  t.rows.find? fun r => key r = k

/-- `UPDATE … SET f WHERE p`, for an `f` that leaves the key alone. -/
def update (t : Table key) (p : ρ → Bool) (f : ρ → ρ)
    (hf : ∀ r, key (f r) = key r) : Table key where
  rows := t.rows.map fun r => if p r then f r else r
  nodup := by
    rw [map_rewrite hf]
    exact t.nodup

/-- `INSERT`, refused when the key is taken. -/
def insert? [DecidableEq κ] (t : Table key) (r : ρ) : Option (Table key) :=
  if h : key r ∈ t.rows.map key then none
  else some ⟨t.rows ++ [r], by
    rw [map_append, map_singleton]
    exact nodup_append.mpr ⟨t.nodup, nodup_singleton _,
      fun a ha b hb hab => h (by rw [mem_singleton] at hb; rw [← hb, ← hab]; exact ha)⟩⟩

/-- `DELETE … WHERE p`. -/
def delete (t : Table key) (p : ρ → Bool) : Table key where
  rows := t.rows.filter fun r => !p r
  nodup := t.nodup.sublist (filter_sublist.map key)

/-- The row replaces the row of its key, or is appended when there is none. -/
def put [DecidableEq κ] (t : Table key) (r : ρ) : Table key where
  rows := t.rows.filter (fun s => key s ≠ key r) ++ [r]
  nodup := by
    rw [map_append, map_singleton, nodup_append_comm]
    refine nodup_cons.mpr ⟨?_, t.nodup.sublist (filter_sublist.map key)⟩
    intro h
    obtain ⟨s, hs, hkey⟩ := mem_map.mp h
    have hne := (mem_filter.mp hs).2
    exact (decide_eq_true_iff.mp hne) hkey

/-- `DELETE … WHERE p` followed by the insert of `added`, refused when a key would repeat. -/
def replace? [DecidableEq κ] (t : Table key) (p : ρ → Bool) (added : List ρ) :
    Option (Table key) :=
  if h : ((t.rows.filter (fun r => !p r) ++ added).map key).Nodup then some ⟨_, h⟩ else none

theorem rows_replace? [DecidableEq κ] {t t' : Table key} {p : ρ → Bool} {added : List ρ}
    (h : t.replace? p added = some t') : t'.rows = t.rows.filter (fun r => !p r) ++ added := by
  unfold replace? at h
  split at h
  · cases h
    rfl
  · cases h

/-- `INSERT` of several rows, refused when a key would repeat. -/
def append? [DecidableEq κ] (t : Table key) (added : List ρ) : Option (Table key) :=
  if h : ((t.rows ++ added).map key).Nodup then some ⟨_, h⟩ else none

theorem rows_append? [DecidableEq κ] {t t' : Table key} {added : List ρ}
    (h : t.append? added = some t') : t'.rows = t.rows ++ added := by
  unfold append? at h
  split at h
  · cases h
    rfl
  · cases h

/-- Two rows of a table with the same key are the same row. -/
theorem eq_of_key_eq (t : Table key) {r s : ρ} (hr : r ∈ t.rows) (hs : s ∈ t.rows)
    (h : key r = key s) : r = s :=
  inj_on_of_nodup_map t.nodup hr hs h

section Lookup

variable [DecidableEq κ]

section

variable (t : Table key)
include t

theorem get?_eq_some_iff {k : κ} {r : ρ} : t.get? k = some r ↔ r ∈ t.rows ∧ key r = k := by
  constructor
  · intro h
    refine ⟨mem_of_find?_eq_some h, ?_⟩
    simpa using find?_some h
  · rintro ⟨hr, hk⟩
    cases hfd : t.get? k with
    | none =>
      have hall := find?_eq_none.mp hfd r hr
      simp [hk] at hall
    | some s =>
      have hs := mem_of_find?_eq_some hfd
      have hsk : key s = k := by simpa using find?_some hfd
      rw [t.eq_of_key_eq hs hr (hsk.trans hk.symm)]

theorem get?_eq_none_iff {k : κ} : t.get? k = none ↔ ∀ r ∈ t.rows, key r ≠ k := by
  simp [get?]

theorem get?_of_mem {r : ρ} (hr : r ∈ t.rows) : t.get? (key r) = some r :=
  t.get?_eq_some_iff.mpr ⟨hr, rfl⟩

theorem mem_of_get? {k : κ} {r : ρ} (h : t.get? k = some r) : r ∈ t.rows :=
  (t.get?_eq_some_iff.mp h).1

theorem key_of_get? {k : κ} {r : ρ} (h : t.get? k = some r) : key r = k :=
  (t.get?_eq_some_iff.mp h).2

@[simp] theorem get?_update (p : ρ → Bool) (f : ρ → ρ) (hf : ∀ r, key (f r) = key r) (k : κ) :
    (t.update p f hf).get? k = (t.get? k).map fun r => if p r then f r else r := by
  have hkey : ∀ r : ρ, key (if p r = true then f r else r) = key r := by
    intro r
    by_cases hp : p r = true
    · simp [hp, hf]
    · simp [hp]
  have hsame : ((fun r => decide (key r = k)) ∘ fun r => if p r = true then f r else r) =
      fun r => decide (key r = k) := by
    funext r
    rw [Function.comp_apply, hkey]
  unfold get? update
  rw [find?_map, hsame]

end

section

variable {t t' : Table key} {r : ρ} (h : t.insert? r = some t')
include h

theorem get?_of_insert? : t.get? (key r) = none := by
  unfold insert? at h
  split at h
  · cases h
  · rename_i hfr
    exact t.get?_eq_none_iff.mpr fun s hs he => hfr (he ▸ mem_map_of_mem hs)

theorem get?_insert? (k : κ) : t'.get? k = if k = key r then some r else t.get? k := by
  have hnone := get?_of_insert? h
  unfold insert? at h
  split at h
  · cases h
  · cases h
    unfold get? at hnone ⊢
    by_cases hk : k = key r
    · subst hk
      simp [find?_append, hnone]
    · have hne : ¬ key r = k := fun he => hk he.symm
      simp [find?_append, hk, hne]

/-- An insertion keeps the rows that are there. -/
theorem get?_insert?_of_some {k : κ} {s : ρ} (hs : t.get? k = some s) : t'.get? k = some s := by
  rw [get?_insert? h, if_neg, hs]
  rintro rfl
  rw [get?_of_insert? h] at hs
  cases hs

end

theorem get?_delete (t : Table key) (p : ρ → Bool) (k : κ) :
    (t.delete p).get? k = (t.get? k).filter fun r => !p r := by
  cases hk : t.get? k with
  | none =>
    rw [get?_eq_none_iff] at hk
    rw [Option.filter_none, get?_eq_none_iff]
    intro r hr
    exact hk r (mem_filter.mp hr).1
  | some r =>
    obtain ⟨hmem, hkey⟩ := t.get?_eq_some_iff.mp hk
    by_cases hp : p r = true
    · rw [Option.filter_some_neg (by simp [hp]), get?_eq_none_iff]
      intro s hs hsk
      obtain ⟨hs, hps⟩ := mem_filter.mp hs
      have hsr : s = r := t.eq_of_key_eq hs hmem (hsk.trans hkey.symm)
      simp [hsr, hp] at hps
    · rw [Option.filter_some_pos (by simpa using hp), get?_eq_some_iff]
      exact ⟨mem_filter.mpr ⟨hmem, by simpa using hp⟩, hkey⟩

@[simp] theorem get?_put (t : Table key) (r : ρ) (k : κ) :
    (t.put r).get? k = if k = key r then some r else t.get? k := by
  by_cases hk : k = key r
  · rw [if_pos hk, get?_eq_some_iff]
    exact ⟨mem_append_right _ (mem_singleton_self r), hk.symm⟩
  · rw [if_neg hk]
    cases hrow : t.get? k with
    | none =>
      rw [get?_eq_none_iff] at hrow ⊢
      intro s hs
      rcases mem_append.mp hs with hs | hs
      · exact hrow s (mem_filter.mp hs).1
      · rw [mem_singleton.mp hs]
        exact fun he => hk he.symm
    | some s =>
      obtain ⟨hs, hsk⟩ := t.get?_eq_some_iff.mp hrow
      rw [get?_eq_some_iff]
      refine ⟨mem_append_left _ (mem_filter.mpr ⟨hs, decide_eq_true ?_⟩), hsk⟩
      exact fun he => hk (hsk.symm.trans he)

end Lookup

theorem mem_update (t : Table key) (p : ρ → Bool) (f : ρ → ρ)
    (hf : ∀ r, key (f r) = key r) {r : ρ} :
    r ∈ (t.update p f hf).rows ↔ ∃ s ∈ t.rows, (if p s then f s else s) = r := by
  simp [update]

theorem map_update {α : Type*} {g : ρ → α} (t : Table key) (p : ρ → Bool) (f : ρ → ρ)
    (hf : ∀ r, key (f r) = key r) (hg : ∀ r, g (f r) = g r) :
    (t.update p f hf).rows.map g = t.rows.map g :=
  map_rewrite hg p t.rows

theorem rows_insert? [DecidableEq κ] {t t' : Table key} {r : ρ} (h : t.insert? r = some t') :
    t'.rows = t.rows ++ [r] := by
  unfold insert? at h
  split at h
  · cases h
  · cases h; rfl

/-- A row with a new key can be added. -/
theorem exists_insert? [DecidableEq κ] {t : Table key} {r : ρ} (h : t.get? (key r) = none) :
    ∃ t', t.insert? r = some t' := by
  have hnew : key r ∉ t.rows.map key := by
    intro hmem
    obtain ⟨s, hs, hkey⟩ := mem_map.mp hmem
    exact t.get?_eq_none_iff.mp h s hs hkey
  rw [insert?, dif_neg hnew]
  exact ⟨_, rfl⟩

section RowWise

variable [DecidableEq κ]

/-- Both tables hold the same keys, and the rows of each key are related by `R`. -/
def RowWise (R : ρ → ρ → Prop) (t t' : Table key) : Prop :=
  ∀ k, Option.Rel R (t.get? k) (t'.get? k)

variable {R S : ρ → ρ → Prop} {t t' t'' : Table key}

theorem RowWise.refl (hR : ∀ r, R r r) (t : Table key) : RowWise R t t := by
  intro k
  cases t.get? k with
  | none => exact .none
  | some r => exact .some (hR r)

theorem RowWise.mono (hRS : ∀ a b, R a b → S a b) (h : RowWise R t t') : RowWise S t t' := by
  intro k
  have hk := h k
  revert hk
  generalize t.get? k = x
  generalize t'.get? k = y
  intro hk
  cases hk with
  | none => exact .none
  | some hab => exact .some (hRS _ _ hab)

theorem rowWise_update (p : ρ → Bool) (f : ρ → ρ) (hf : ∀ r, key (f r) = key r)
    (hp : ∀ r ∈ t.rows, p r = true → R r (f r)) (hn : ∀ r, R r r) :
    RowWise R t (t.update p f hf) := by
  intro k
  rw [get?_update]
  cases hk : t.get? k with
  | none => exact .none
  | some r =>
    by_cases hr : p r = true
    · simpa [hr] using hp r (t.mem_of_get? hk) hr
    · simpa [hr] using hn r

/-- Rewriting the row of one key. -/
theorem rowWise_update_row {r : ρ} (hr : r ∈ t.rows) (f : ρ → ρ) (hf : ∀ r, key (f r) = key r)
    (hR : R r (f r)) (hn : ∀ r, R r r) : RowWise R t (t.update (fun s => key s = key r) f hf) := by
  refine rowWise_update _ f hf ?_ hn
  intro s hs hkey
  have hsame : s = r := t.eq_of_key_eq hs hr (by simpa using hkey)
  rw [hsame]
  exact hR

/-- The row that a row of the first table became. -/
theorem RowWise.forward (h : RowWise R t t') {k : κ} {r : ρ} (hr : t.get? k = some r) :
    ∃ r', t'.get? k = some r' ∧ R r r' := by
  have hk := h k
  rw [hr] at hk
  match t'.get? k, hk with
  | some r', .some hR => exact ⟨r', rfl, hR⟩

/-- The row that a row of the second table was. -/
theorem RowWise.backward (h : RowWise R t t') {k : κ} {r' : ρ} (hr : t'.get? k = some r') :
    ∃ r, t.get? k = some r ∧ R r r' := by
  have hk := h k
  rw [hr] at hk
  match t.get? k, hk with
  | some r, .some hR => exact ⟨r, rfl, hR⟩

theorem RowWise.trans (hR : ∀ {a b c}, R a b → R b c → R a c) (h : RowWise R t t')
    (h' : RowWise R t' t'') : RowWise R t t'' := by
  intro k
  match t.get? k, t'.get? k, t''.get? k, h k, h' k with
  | _, _, _, .none, .none => exact .none
  | _, _, _, .some hab, .some hbc => exact .some (hR hab hbc)

end RowWise

end Table

end Relational
