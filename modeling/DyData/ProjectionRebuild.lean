import DyData.ProjectionFrame

/-!
A sparse rebuild: what it checks of its base, and that the rows it leaves are complete.
-/

namespace DyData.Projection

open Relational List
open Except (of_bind)

@[simp] theorem expect_eq_ok_iff {condition : Bool} {message : String} {u : Unit} :
    expect condition message = .ok u ↔ condition = true :=
  Except.ensure_eq_ok_iff

def RebuildInput.manifests (input : RebuildInput) : List Manifest :=
  input.partitions.map (sparseManifestValues input.generationId input.baseGenerationId)

def RebuildInput.overlays (input : RebuildInput) : List OverlayRow :=
  input.partitions.flatMap fun p =>
    replicate p.rowCount ⟨input.generationId, p.artifact, p.partitionKey⟩

structure Rebuilt (digests : Digests) (db db' : Db) (input : RebuildInput) : Prop where
  active : db.active.bind id = some input.baseGenerationId
  base : ∃ base, db.generations.get? input.baseGenerationId = some base ∧
    base.state = .published ∧ base.lineageDepth < maxLineageDepth ∧
    db.writeGeneration (sparseGeneration digests input (base.lineageDepth + 1) input.manifests)
      input.manifests [] input.overlays = some db'

theorem buildSettlementSparseOverlay_ok {digests : Digests} {db db' : Db} {input : RebuildInput}
    (h : buildSettlementSparseOverlay digests db input = .ok db') :
    Rebuilt digests db db' input := by
  iterate 3 obtain ⟨_, -, h⟩ := of_bind h
  obtain ⟨_, hact, h⟩ := of_bind h
  obtain ⟨_, hbase, h⟩ := of_bind h
  obtain ⟨_, -, h⟩ := of_bind h
  rw [Except.ofOption_eq_ok_iff] at h
  rw [expect_eq_ok_iff, decide_eq_true_eq] at hact
  obtain ⟨base', hrow, hbase⟩ := of_bind hbase
  obtain ⟨_, hstt, hbase⟩ := of_bind hbase
  obtain ⟨_, hdep, hbase⟩ := of_bind hbase
  iterate 5 obtain ⟨_, -, hbase⟩ := of_bind hbase
  obtain rfl := Except.pure_eq_ok_iff.mp hbase
  rw [Except.ofOption_eq_ok_iff] at hrow
  rw [expect_eq_ok_iff, decide_eq_true_eq] at hstt hdep
  exact ⟨hact, base', hrow, hstt, hdep, h⟩

theorem sparseManifestValues_identity (id base : String) (p : PartitionBuild) :
    (sparseManifestValues id base p).identity = (id, p.artifact, p.partitionKey) := by
  unfold sparseManifestValues
  split <;> rfl

/-- The overlay rows of one partition among those of pairwise different ones. -/
theorem count_overlays {id : String} {partitions : List PartitionBuild}
    (hnd : (partitions.map fun p => (p.artifact, p.partitionKey)).Nodup) {p : PartitionBuild}
    (hp : p ∈ partitions) : (partitions.flatMap fun p => replicate p.rowCount
      (⟨id, p.artifact, p.partitionKey⟩ : OverlayRow)).count ⟨id, p.artifact, p.partitionKey⟩ =
      p.rowCount := by
  have habs : ∀ {rest : List PartitionBuild} {q : PartitionBuild},
      (q.artifact, q.partitionKey) ∉ rest.map (fun p => (p.artifact, p.partitionKey)) →
      (rest.flatMap fun p => replicate p.rowCount
        (⟨id, p.artifact, p.partitionKey⟩ : OverlayRow)).count
        ⟨id, q.artifact, q.partitionKey⟩ = 0 := by
    intro rest q hq
    rw [count_eq_zero]
    intro hmem
    obtain ⟨r, hr, hrow⟩ := mem_flatMap.mp hmem
    have hsame := (mem_replicate.mp hrow).2
    refine hq (mem_map.mpr ⟨r, hr, ?_⟩)
    exact Prod.ext (congrArg OverlayRow.artifact hsame).symm
      (congrArg OverlayRow.partitionKey hsame).symm
  induction partitions with
  | nil => cases hp
  | cons q rest ih =>
    rw [map_cons, nodup_cons] at hnd
    rw [flatMap_cons, count_append]
    rcases mem_cons.mp hp with rfl | hp
    · rw [count_replicate_self, habs hnd.1, Nat.add_zero]
    · have hne : (⟨id, q.artifact, q.partitionKey⟩ : OverlayRow) ≠
          ⟨id, p.artifact, p.partitionKey⟩ := by
        intro hsame
        refine hnd.1 (mem_map.mpr ⟨p, hp, ?_⟩)
        exact Prod.ext (congrArg OverlayRow.artifact hsame).symm
          (congrArg OverlayRow.partitionKey hsame).symm
      rw [ih hnd.2 hp, count_eq_zero.mpr, Nat.zero_add]
      intro hmem
      exact hne (mem_replicate.mp hmem).2.symm

theorem Rebuilt.built {digests : Digests} {db db' : Db} {input : RebuildInput} {depth : Nat}
    (hwrote : Wrote db db' (sparseGeneration digests input depth input.manifests)
      input.manifests [] input.overlays) :
    Built digests db' (sparseGeneration digests input depth input.manifests) := by
  have hids : ∀ {p : PartitionBuild}, (sparseManifestValues input.generationId
      input.baseGenerationId p).identity = (input.generationId, p.artifact, p.partitionKey) :=
    sparseManifestValues_identity _ _ _
  have hnd : (input.partitions.map fun p => (p.artifact, p.partitionKey)).Nodup := by
    have hkeys : (input.manifests.map Manifest.identity).Nodup := by
      rw [← hwrote.manifests]
      exact db'.manifests.nodup.sublist (filter_sublist.map _)
    refine Nodup.of_map (fun pair => (input.generationId, pair.1, pair.2)) ?_
    rw [map_map]
    rw [RebuildInput.manifests, map_map] at hkeys
    have hsame : Manifest.identity ∘ sparseManifestValues input.generationId
        input.baseGenerationId = (fun pair : Artifact × String =>
          (input.generationId, pair.1, pair.2)) ∘ fun p : PartitionBuild =>
            (p.artifact, p.partitionKey) := by
      funext p
      exact hids
    rw [← hsame]
    exact hkeys
  refine ⟨?_, ?_⟩
  · intro m hm hid
    have hmem : m ∈ input.manifests := by
      rw [← hwrote.manifests]
      exact mem_filter.mpr ⟨hm, decide_eq_true hid⟩
    obtain ⟨p, hp, rfl⟩ := mem_map.mp hmem
    have hcnt : db'.presentCount input.generationId p.artifact p.partitionKey = p.rowCount :=
      (hwrote.overlays p.artifact p.partitionKey).trans (count_overlays hnd hp)
    unfold sparseManifestValues
    split
    · exact ⟨rfl, rfl, .inr ⟨rfl, rfl, p.digestHex, hcnt⟩⟩
    · exact ⟨rfl, rfl, .inl rfl⟩
  · rw [Db.manifestsOf, hwrote.manifests]
    rfl

end DyData.Projection
