import DyData.ProjectionProgress

/-!
The rows of a compaction in the order they are written and read: partitions are ordered, so the
rows of one head come in one order only, and a builder can always write a fresh generation.
-/

namespace DyData.Projection

open Relational List Option

section Order

theorem partitionLe_iff {a b : Artifact × String} :
    partitionLe a b = true ↔ a.1.rank < b.1.rank ∨ a.1 = b.1 ∧ a.2 ≤ b.2 := by
  simp [partitionLe]

theorem Artifact.rank_injective {a b : Artifact} (h : a.rank = b.rank) : a = b := by
  cases a <;> cases b <;> first | rfl | cases h

theorem partitionLe_trans (a b c : Artifact × String) (hab : partitionLe a b = true)
    (hbc : partitionLe b c = true) : partitionLe a c = true := by
  rw [partitionLe_iff] at hab hbc ⊢
  rcases hab with hab | ⟨hab, hle⟩
  · rcases hbc with hbc | ⟨hbc, -⟩
    · exact .inl (by omega)
    · exact .inl (hbc ▸ hab)
  · rcases hbc with hbc | ⟨hbc, hle'⟩
    · exact .inl (hab ▸ hbc)
    · exact .inr ⟨hab.trans hbc, String.le_trans hle hle'⟩

theorem partitionLe_total (a b : Artifact × String) :
    (partitionLe a b || partitionLe b a) = true := by
  rw [Bool.or_eq_true, partitionLe_iff, partitionLe_iff]
  rcases Nat.lt_trichotomy a.1.rank b.1.rank with hlt | heq | hgt
  · exact .inl (.inl hlt)
  · have hsame := Artifact.rank_injective heq
    rcases String.le_total a.2 b.2 with hle | hle
    · exact .inl (.inr ⟨hsame, hle⟩)
    · exact .inr (.inr ⟨hsame.symm, hle⟩)
  · exact .inr (.inl hgt)

theorem partitionLe_antisymm {a b : Artifact × String} (hab : partitionLe a b = true)
    (hba : partitionLe b a = true) : a = b := by
  rw [partitionLe_iff] at hab hba
  rcases hab with hab | ⟨hab, hle⟩
  · rcases hba with hba | ⟨hba, -⟩
    · omega
    · rw [hba] at hab
      omega
  · rcases hba with hba | ⟨-, hle'⟩
    · rw [hab] at hba
      omega
    · exact Prod.ext hab (String.le_antisymm hle hle')

end Order

section Rows

variable {db db' : Db}

theorem pairwise_lineagePartitions (db : Db) (rows : List Generation) :
    (lineagePartitions db rows).Pairwise fun a b => partitionLe a b = true :=
  pairwise_mergeSort partitionLe_trans partitionLe_total _

theorem nodup_lineagePartitions (db : Db) (rows : List Generation) :
    (lineagePartitions db rows).Nodup :=
  (mergeSort_perm _ _).nodup_iff.mpr (nodup_dedup _)

/-- The partitions of a lineage depend on its own rows only. -/
theorem lineagePartitions_frame {rows : List Generation}
    (hsame : ∀ x ∈ rows, SameContent db db' x.generationId) :
    lineagePartitions db' rows = lineagePartitions db rows := by
  have hperm : (lineagePartitions db' rows).Perm (lineagePartitions db rows) := by
    refine (perm_ext_iff_of_nodup (nodup_lineagePartitions db' rows)
      (nodup_lineagePartitions db rows)).mpr fun p => ?_
    unfold lineagePartitions
    simp only [mem_mergeSort, mem_dedup, List.mem_map, mem_filter, decide_eq_true_eq]
    constructor
    · rintro ⟨m, ⟨hm, x, hx, hid⟩, hp⟩
      exact ⟨m, ⟨((hsame x hx).mem_manifests hid.symm).mp hm, x, hx, hid⟩, hp⟩
    · rintro ⟨m, ⟨hm, x, hx, hid⟩, hp⟩
      exact ⟨m, ⟨((hsame x hx).mem_manifests hid.symm).mpr hm, x, hx, hid⟩, hp⟩
  exact hperm.eq_of_pairwise (fun a b _ _ hab hba => partitionLe_antisymm hab hba)
    (pairwise_lineagePartitions db' rows) (pairwise_lineagePartitions db rows)

theorem keptRows_frame {history : List Generation}
    (hsame : ∀ x ∈ history, SameContent db db' x.generationId) :
    keptRows db' history = keptRows db history := by
  unfold keptRows
  rw [lineagePartitions_frame fun x hx => hsame x (chain_subset _ hx)]
  refine filterMap_congr fun p _ => ?_
  rw [view_frame hsame]

/-- The kept rows are in partition order, one for a partition. -/
theorem map_partition_keptRows (db : Db) (history : List Generation) :
    (keptRows db history).map Manifest.partition =
      (lineagePartitions db (chain history)).filter fun p =>
        (kept (view db p.1 p.2 history)).isSome := by
  unfold keptRows
  induction lineagePartitions db (chain history) with
  | nil => rfl
  | cons p rest ih =>
    cases hkept : kept (view db p.1 p.2 history) with
    | none =>
      simp only [filterMap_cons, filter_cons, hkept, isSome_none,
        Bool.false_eq_true, if_false, ih]
    | some m =>
      have hm : m.partition = p := by
        obtain ⟨hview, -⟩ := filter_eq_some_iff.mp hkept
        obtain ⟨-, -, hart, hkey⟩ := Db.mem_of_manifest? (view_mem hview).2
        exact Prod.ext hart hkey
      simp only [filterMap_cons, filter_cons, hkept, isSome_some, if_true, map_cons, ih, hm]

theorem pairwise_keptRows (db : Db) (history : List Generation) :
    (keptRows db history).Pairwise fun a b => partitionLe a.partition b.partition = true := by
  have hsort := (pairwise_lineagePartitions db (chain history)).sublist
    (filter_sublist (p := fun p => (kept (view db p.1 p.2 history)).isSome))
  rw [← map_partition_keptRows, pairwise_map] at hsort
  exact hsort

theorem nodup_keptRows (db : Db) (history : List Generation) (id : String) :
    (((keptRows db history).map (.compacted id)).map Manifest.identity).Nodup := by
  have hnd := (nodup_lineagePartitions db (chain history)).sublist
    (filter_sublist (p := fun p => (kept (view db p.1 p.2 history)).isSome))
  rw [← map_partition_keptRows] at hnd
  refine Nodup.of_map Prod.snd ?_
  rw [List.map_map, List.map_map]
  exact hnd

/-- The rows of a compaction come back in the order they were written. -/
theorem manifestsOf_keptRows {id : String} {history : List Generation}
    (hrows : (db'.manifests.rows.filter fun m => m.generationId = id) =
      (keptRows db history).map (.compacted id)) :
    db'.manifestsOf id = (keptRows db history).map (.compacted id) := by
  rw [Db.manifestsOf, hrows]
  refine mergeSort_of_pairwise ?_
  rw [pairwise_map]
  exact pairwise_keptRows db history

def closureRow (id : String) (source : String × String) : ClosureRow := ⟨id, source.1, source.2⟩

theorem closureRows_written {id : String} {closure : List (String × String)}
    (hrows : (db'.closure.rows.filter fun r => r.compactGenerationId = id) =
      closure.map (closureRow id))
    (hsort : closure.Pairwise fun a b => a.1 ≤ b.1)
    (hbd : closure.length ≤ maxCompactProvenanceSources) :
    (closureRows db' id).map (fun r => (r.sourceGenerationId, r.sourceDigest)) = closure := by
  unfold closureRows
  rw [hrows, mergeSort_of_pairwise, take_of_length_le, List.map_map]
  · exact List.map_id _
  · rw [length_map]
    omega
  · rw [pairwise_map]
    exact hsort.imp fun hab => decide_eq_true hab

/-- Two orderings of the sources of one history are the same list. -/
theorem provenance_unique {digests : Digests} {history : List Generation}
    (h : History digests db history) {closure closure' : List (String × String)}
    (hperm : closure.Perm (history.map sourceDigest))
    (hperm' : closure'.Perm (history.map sourceDigest))
    (hsort : closure.Pairwise fun a b => a.1 ≤ b.1)
    (hsort' : closure'.Pairwise fun a b => a.1 ≤ b.1) : closure = closure' := by
  refine (hperm.trans hperm'.symm).eq_of_pairwise ?_ hsort hsort'
  intro a b ha hb hab hba
  obtain ⟨x, hx, rfl⟩ := List.mem_map.mp (hperm.mem_iff.mp ha)
  obtain ⟨y, hy, rfl⟩ := List.mem_map.mp (hperm'.mem_iff.mp hb)
  have hid : x.generationId = y.generationId := String.le_antisymm hab hba
  have hxrow := (h.published_of_mem hx).row
  rw [hid, (h.published_of_mem hy).row] at hxrow
  rw [some.inj hxrow]

end Rows

theorem replace?_exists {κ ρ : Type} [DecidableEq κ] {key : ρ → κ} (t : Table key) {p : ρ → Bool}
    {added : List ρ} (hadded : (added.map key).Nodup)
    (hoth : ∀ r ∈ t.rows, p r = false → ∀ a ∈ added, key r ≠ key a) :
    ∃ t', t.replace? p added = some t' := by
  have hnd : ((t.rows.filter (fun r => !p r) ++ added).map key).Nodup := by
    rw [map_append, nodup_append]
    refine ⟨t.nodup.sublist (filter_sublist.map key), hadded, ?_⟩
    intro k hk k' hk' hsame
    obtain ⟨r, hr, rfl⟩ := List.mem_map.mp hk
    obtain ⟨a, ha, rfl⟩ := List.mem_map.mp hk'
    obtain ⟨hmem, hp⟩ := mem_filter.mp hr
    exact hoth r hmem (by simpa using hp) a ha hsame
  unfold Table.replace?
  rw [dif_pos hnd]
  exact ⟨_, rfl⟩

/-- A builder can write a new generation under a fresh fingerprint. -/
theorem writeGeneration_exists {db : Db} {g : Generation} (manifests : List Manifest)
    (closure : List ClosureRow) (overlays : List OverlayRow) (hstt : g.state ≠ .published)
    (hnew : db.generations.get? g.generationId = none)
    (hfp : ∀ x ∈ db.generations.rows, x.inputFingerprint ≠ g.inputFingerprint)
    (hmans : ∀ m ∈ manifests, m.generationId = g.generationId)
    (hmnod : (manifests.map Manifest.identity).Nodup)
    (hcl : ∀ r ∈ closure, r.compactGenerationId = g.generationId)
    (hcnod : (closure.map ClosureRow.identity).Nodup)
    (hover : ∀ o ∈ overlays, o.generationId = g.generationId) :
    ∃ db', db.writeGeneration g manifests closure overlays = some db' := by
  have hwrit : db.writable g manifests closure overlays = true := by
    simp only [Db.writable, hnew, all_none, Bool.and_true, bool_to_prop, List.all_eq_true]
    exact ⟨⟨⟨hstt, hmans⟩, hcl⟩, hover⟩
  obtain ⟨newManifests, hm⟩ := replace?_exists db.manifests
    (p := fun m => m.generationId = g.generationId) hmnod (by
      intro r _ hr a ha hsame
      refine of_decide_eq_false hr ?_
      rw [← hmans a ha]
      exact (Prod.mk.inj hsame).1)
  obtain ⟨newClosure, hc⟩ := replace?_exists db.closure
    (p := fun r => r.compactGenerationId = g.generationId) hcnod (by
      intro r _ hr a ha hsame
      refine of_decide_eq_false hr ?_
      rw [← hcl a ha]
      exact (Prod.mk.inj hsame).1)
  have hnd : ((db.generations.put g).rows.map Generation.inputFingerprint).Nodup := by
    change ((db.generations.rows.filter _ ++ [g]).map Generation.inputFingerprint).Nodup
    rw [map_append, nodup_append]
    refine ⟨db.fingerprints.sublist (filter_sublist.map _), nodup_singleton _, ?_⟩
    intro a ha b hb hsame
    obtain ⟨x, hx, rfl⟩ := List.mem_map.mp ha
    rw [map_singleton, mem_singleton] at hb
    exact hfp x (mem_filter.mp hx).1 (hsame.trans hb)
  refine ⟨{ db with
    generations := db.generations.put g
    manifests := newManifests
    closure := newClosure
    overlays := db.overlays.filter (fun o => !decide (o.generationId = g.generationId)) ++ overlays
    fingerprints := hnd }, ?_⟩
  unfold Db.writeGeneration
  rw [hwrit]
  refine bind_eq_some_iff.mpr ⟨newManifests, hm, ?_⟩
  refine bind_eq_some_iff.mpr ⟨newClosure, hc, ?_⟩
  rw [dif_pos hnd]

end DyData.Projection
