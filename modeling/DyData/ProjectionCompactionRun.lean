import DyData.ProjectionCompactionRows

/-!
A compaction of the active head runs to its end: the builder leaves a ready generation, and a
publication finds exactly the rows it expects.
-/

namespace DyData.Projection

open Relational List
open Except (bind_ok ofOption_eq_ok_iff ensure_bind ofOption_bind)

def headPlan (digests : Digests) (db : Db) (batchSize : Nat) (history : List Generation) :
    CompactionPlan :=
  summarizeCompactionPlan digests batchSize (keptRows db history)

def headCompaction (digests : Digests) (db : Db) (args : CompactionArguments) (b : Generation)
    (older : List Generation) (closure : List (String × String)) : Generation :=
  compactGeneration digests b.generationId (b.manifestChecksum.getD "") closure
    (headPlan digests db args.batchSize (b :: older))
    (expandedProvenanceChecksum digests (chain (b :: older)) closure)
    (compactionResource (keptRows db (b :: older)).length closure.length args.limits).1
    args.batchSize

structure Compactable (digests : Digests) (db : Db) (args : CompactionArguments) (b : Generation)
    (older : List Generation) : Prop where
  sound : Sound digests db (b :: older)
  kind : b.generationKind = .lineage
  depth : args.minimumLineageDepth ≤ b.lineageDepth
  valid : args.valid = true
  budget : (compactIds (b :: older)).length ≤ maxLineageDepth
  bound : (b :: older).length ≤ maxCompactProvenanceSources
  keys : ∀ m ∈ db.manifests.rows, CanonicalKey m.partitionKey
  resource : (compactionResource (keptRows db (b :: older)).length (b :: older).length
    args.limits).2 = none

namespace Compactable

variable {digests : Digests} {db : Db} {args : CompactionArguments} {b : Generation}
  {older : List Generation}

variable (h : Compactable digests db args b older)
include h

theorem batch : 0 < args.batchSize ∧ args.batchSize ≤ 400 := by
  have hval := h.valid
  simp only [CompactionArguments.valid, bool_to_prop] at hval
  omega

theorem active :
    db.active = some (some b.generationId) := h.sound.active

/-- The provenance of the head, in the one order the builder gives it. -/
theorem closure_exists :
    ∃ closure, compactionProvenanceRows db (chain (b :: older)) = .ok closure ∧
      closure.Perm ((b :: older).map sourceDigest) ∧
      closure.length ≤ maxCompactProvenanceSources ∧ closure.Pairwise fun a b => a.1 ≤ b.1 := by
  obtain ⟨closure, hok⟩ := h.sound.chained.provenance_exists h.budget h.bound
  exact ⟨closure, hok, h.sound.chained.provenance_perm hok⟩

theorem payloads :
    compactionPayloads db b.generationId (chain (b :: older)) args.batchSize =
      .ok (keptRows db (b :: older)) := by
  refine compactionPayloads_ok h.sound.chained h.budget h.keys h.batch.1 ?_
  exact Nat.le_trans h.batch.2 (by decide)

/-- The builder leaves a ready generation with the rows of the head. -/
theorem build (hfr : ∀ checksum effective provenance, (∀ x ∈ db.generations.rows,
      x.inputFingerprint ≠
        digests.compactionFingerprint b.generationId checksum effective provenance) ∧
      db.generations.get? ("settlement-compact:" ++
        digests.compactionFingerprint b.generationId checksum effective provenance) = none) :
    ∃ closure db', compactionProvenanceRows db (chain (b :: older)) = .ok closure ∧
      compactProjectionMetadata digests args db b.generationId = .ok db' ∧
      Wrote db db' (headCompaction digests db args b older closure)
        ((keptRows db (b :: older)).map (.compacted
          (headCompaction digests db args b older closure).generationId))
        (closure.map (closureRow (headCompaction digests db args b older closure).generationId))
        [] := by
  obtain ⟨closure, hcl, hperm, _, _⟩ := h.closure_exists
  have hlen : closure.length = (b :: older).length := by
    rw [hperm.length_eq, length_map]
  set g := headCompaction digests db args b older closure with hg
  have hcnod : ((closure.map (closureRow g.generationId)).map ClosureRow.identity).Nodup := by
    have hids : (closure.map Prod.fst).Nodup := by
      refine (hperm.map Prod.fst).nodup_iff.mpr ?_
      rw [map_map]
      exact h.sound.chained.nodup
    refine Nodup.of_map Prod.snd ?_
    rw [map_map, map_map]
    exact hids
  have hrdy : g.state ≠ .published := by
    change GenerationState.ready ≠ .published
    decide
  obtain ⟨db', hwr⟩ := writeGeneration_exists
    ((keptRows db (b :: older)).map (.compacted g.generationId))
    (closure.map (closureRow g.generationId)) [] hrdy (hfr _ _ _).2 (hfr _ _ _).1
    (fun m hm => by obtain ⟨_, -, rfl⟩ := mem_map.mp hm; rfl)
    (nodup_keptRows db _ _)
    (fun r hr => by obtain ⟨_, -, rfl⟩ := mem_map.mp hr; rfl) hcnod
    nofun
  refine ⟨closure, db', hcl, ?_, writeGeneration_ok hwr⟩
  have hhead : (chain (b :: older)).head? = some b := head?_chain b older
  have hnot : ¬ (b.generationKind = .compact ∨ b.lineageDepth < args.minimumLineageDepth) := by
    have := h.depth
    rw [h.kind]
    simp only [reduceCtorEq, false_or]
    omega
  have hgo : (compactionResource (headPlan digests db args.batchSize (b :: older)).manifestRows
      closure.length args.limits).2.isSome = false := by
    rw [hlen]
    change (compactionResource (keptRows db (b :: older)).length (b :: older).length
      args.limits).2.isSome = false
    rw [h.resource]
    rfl
  unfold compactProjectionMetadata
  rw [h.valid]
  refine bind_ok (h.sound.chained.loadCompactionLineage_ok h.active) ?_
  refine ofOption_bind hhead ?_
  rw [if_neg hnot]
  refine bind_ok hcl ?_
  refine bind_ok h.payloads ?_
  dsimp only
  rw [if_neg (by rw [Bool.not_eq_true]; exact hgo), ofOption_eq_ok_iff]
  exact hwr

/-- The head can still be compacted after the builder has left its rows. -/
theorem wrote {db' : Db} {g : Generation} {closure : List ClosureRow}
    (hkind : g.generationKind = .compact)
    (hwrote : Wrote db db' g ((keptRows db (b :: older)).map (.compacted g.generationId))
      closure []) :
    Compactable digests db' args b older ∧ keptRows db' (b :: older) = keptRows db (b :: older) := by
  have hsnd : Sound digests db' (b :: older) :=
    h.sound.write hwrote fun hne => absurd hkind hne
  have hkept : keptRows db' (b :: older) = keptRows db (b :: older) :=
    keptRows_frame fun x hx =>
      (hwrote.others _ (h.sound.ne_of_unpublished hwrote.old hx)).toSameContent
  refine ⟨⟨hsnd, h.kind, h.depth, h.valid, h.budget, h.bound, ?_, by rw [hkept]; exact h.resource⟩,
    hkept⟩
  intro m hm
  by_cases hid : m.generationId = g.generationId
  · have hnew : m ∈ (keptRows db (b :: older)).map (.compacted g.generationId) := by
      rw [← hwrote.manifests]
      exact mem_filter.mpr ⟨hm, decide_eq_true hid⟩
    obtain ⟨source, hsrc, rfl⟩ := mem_map.mp hnew
    obtain ⟨hview, -⟩ := Option.filter_eq_some_iff.mp (mem_keptRows.mp hsrc)
    exact h.keys source (Db.mem_of_manifest? (view_mem hview).2).1
  · exact h.keys m (((hwrote.others _ hid).mem_manifests rfl).mp hm)

end Compactable

theorem length_pages {α : Type} {size : Nat} (hsize : 0 < size) (fuel : Nat) (items : List α) :
    (pages size fuel items).length ≤ items.length := by
  induction fuel generalizing items with
  | zero => exact Nat.zero_le _
  | succ fuel ih =>
    rw [pages]
    split
    · exact Nat.zero_le _
    · rename_i hempty
      have hpos : 0 < items.length := by
        rw [length_pos_iff]
        exact fun hnil => hempty (by rw [hnil]; rfl)
      have hdrop := ih (items.drop size)
      rw [length_drop] at hdrop
      rw [length_cons]
      omega

/-- The checkpoint a builder leaves is the one a verification expects. -/
theorem validateCompactionCheckpoint_ok {base effectiveChecksum : String}
    {resource : CompactionResource} {batchSize batchCount partitionCount sources : Nat}
    (hpart : (partitionCount : Int) ≤ resource.manifestRows)
    (hbatc : (batchCount : Int) ≤ resource.manifestRows) :
    validateCompactionCheckpoint (compactionCheckpoint "ready" base batchSize batchCount
      partitionCount sources effectiveChecksum resource) base effectiveChecksum resource batchSize
      sources = .ok () := by
  set checkpoint := compactionCheckpoint "ready" base batchSize batchCount partitionCount sources
    effectiveChecksum resource with hcp
  have hbatchField : intField checkpoint "batch_count" = some (batchCount : Int) := rfl
  have hpartitionField : intField checkpoint "partition_count" = some (partitionCount : Int) := rfl
  unfold validateCompactionCheckpoint
  refine ensure_bind rfl ?_
  refine ensure_bind ?_ ?_
  · simp only [bool_to_prop]
    refine ⟨⟨⟨⟨⟨⟨⟨⟨⟨⟨⟨⟨rfl, rfl⟩, .inr rfl⟩, rfl⟩, rfl⟩, rfl⟩, rfl⟩, rfl⟩, rfl⟩, rfl⟩, rfl⟩, rfl⟩, rfl⟩
  refine ofOption_bind (a := (batchCount : Int)) ?_ ?_
  · rw [hbatchField, Option.filter_some_pos]
    exact decide_eq_true (Int.natCast_nonneg _)
  refine ofOption_bind (a := (partitionCount : Int)) ?_ ?_
  · rw [hpartitionField, Option.filter_some_pos]
    exact decide_eq_true (Int.natCast_nonneg _)
  refine ensure_bind ?_ ?_
  · rw [decide_eq_true hpart, decide_eq_true hbatc]
    rfl
  · rw [demand_eq_ok_iff]
    rfl

theorem checkpointResource_ok {phase base effectiveChecksum : String}
    {resource : CompactionResource} {batchSize batchCount partitionCount sources : Nat}
    (hrows : 0 ≤ resource.manifestRows) (hwrit : 0 ≤ resource.writeRows)
    (hbytes : 0 ≤ resource.writeBytes) (hwal : 0 ≤ resource.walBytes)
    (hdisk : 0 ≤ resource.diskHeadroomBytes) :
    checkpointResource (compactionCheckpoint phase base batchSize batchCount partitionCount sources
      effectiveChecksum resource) = .ok resource := by
  have hfield : ∀ {n : Int} {message : String}, 0 ≤ n →
      Except.ofOption ((some n).filter fun n => 0 ≤ n) (BootstrapError.mk message) = .ok n := by
    intro n message hn
    rw [ofOption_eq_ok_iff, Option.filter_some_pos]
    exact decide_eq_true hn
  refine bind_ok (hfield hrows) ?_
  refine bind_ok (hfield hwrit) ?_
  refine bind_ok (hfield hbytes) ?_
  refine bind_ok (hfield hwal) ?_
  exact bind_ok (hfield hdisk) rfl

theorem provenance_field (digests : Digests) (base baseChecksum : String)
    (closure : List (String × String)) (plan : CompactionPlan) (provenance : Option String)
    (resource : CompactionResource) (batchSize : Nat) :
    textField (compactGeneration digests base baseChecksum closure plan provenance resource
      batchSize).sourceInputJson "provenance_checksum" = provenance := by
  cases provenance with
  | none => rfl
  | some checksum => rfl

theorem compactionResource_nonneg {rows sources : Nat} {limits : ResourceLimits}
    (h : (compactionResource rows sources limits).2 = none) :
    0 ≤ (compactionResource rows sources limits).1.diskHeadroomBytes := by
  unfold compactionResource at h ⊢
  dsimp only at h ⊢
  split at h
  · cases h
  split at h
  · cases h
  split at h
  · cases h
  split at h
  · cases h
  omega

namespace Compactable

variable {digests : Digests} {db : Db} {args : CompactionArguments} {b : Generation}
  {older : List Generation}

theorem reverify (h : Compactable digests db args b older) (hbase : b.generationId ≠ "")
    {closure : List (String × String)}
    (hcl : compactionProvenanceRows db (chain (b :: older)) = .ok closure) {db' : Db}
    {g : Generation} (hg : g = headCompaction digests db args b older closure)
    (hwrote : Wrote db db' g ((keptRows db (b :: older)).map (.compacted g.generationId))
      (closure.map (closureRow g.generationId)) []) :
    reverifyReadyCompactionPublication digests db' g.generationId = .ok () := by
  have hkind : g.generationKind = .compact := by rw [hg]; rfl
  obtain ⟨h', hkept⟩ := h.wrote hkind hwrote
  obtain ⟨hperm, hbd, hsort⟩ := h.sound.chained.provenance_perm hcl
  obtain ⟨closure', hcl', hperm', -, hsort'⟩ := h'.closure_exists
  obtain rfl : closure' = closure :=
    provenance_unique h.sound.chained hperm' hperm hsort' hsort
  have hrow : db'.generations.get? g.generationId = some g :=
    db'.generations.get?_of_mem ((hwrote.rows g).mpr (.inl rfl))
  have hpays := h'.payloads
  rw [hkept] at hpays
  have hlen : closure'.length = (b :: older).length := by
    rw [hperm.length_eq, length_map]
  set resource := (compactionResource (keptRows db (b :: older)).length closure'.length
    args.limits).1 with hres
  have hstop : (compactionResource (keptRows db (b :: older)).length closure'.length
      args.limits).2 = none := by
    rw [hlen]
    exact h.resource
  have hmans := manifestsOf_keptRows hwrote.manifests
  have hhead : (chain (b :: older)).head?.bind Generation.manifestChecksum =
      b.manifestChecksum := by
    rw [head?_chain]
    rfl
  have hsum : (db'.manifestsOf g.generationId).map Manifest.compactionValue =
      (keptRows db (b :: older)).map Manifest.compactionValue := by
    rw [hmans, map_map]
    rfl
  have hpages := length_pages h.batch.1 (keptRows db (b :: older)).length (keptRows db (b :: older))
  unfold reverifyReadyCompactionPublication
  refine ofOption_bind hrow ?_
  subst hg
  refine ensure_bind rfl ?_
  refine ofOption_bind (a := b.generationId) ?_ ?_
  · exact Option.filter_some_pos (decide_eq_true hbase)
  refine bind_ok (h'.sound.chained.loadCompactionLineage_ok h'.active) ?_
  refine bind_ok hcl' ?_
  refine ensure_bind rfl ?_
  refine ofOption_bind rfl ?_
  refine bind_ok (a := resource) ?_ ?_
  · refine checkpointResource_ok ?_ ?_ ?_ ?_ (compactionResource_nonneg hstop)
    all_goals
      unfold compactionResource
      dsimp only
      omega
  refine bind_ok hpays ?_
  unfold verifyCompactionReady
  refine ensure_bind ?_ ?_
  · rw [hhead]
    simp only [bool_to_prop]
    exact ⟨⟨rfl, rfl⟩, provenance_field _ _ _ _ _ _ _ _⟩
  refine bind_ok (a := ()) ?_ ?_
  · refine validateCompactionCheckpoint_ok (Int.le_refl _) ?_
    exact Int.ofNat_le.mpr hpages
  refine ensure_bind ?_ ?_
  · simp only [bool_to_prop]
    exact ⟨⟨⟨⟨⟨⟨rfl, rfl⟩, rfl⟩, rfl⟩, rfl⟩, rfl⟩, rfl⟩
  refine ensure_bind (by simp; exact ⟨rfl, rfl⟩) ?_
  refine ensure_bind (by rw [h'.active]; simp) ?_
  refine ensure_bind (decide_eq_true hmans) ?_
  refine ensure_bind ?_ ?_
  · rw [hsum]
    exact decide_eq_true rfl
  · rw [demand_eq_ok_iff]
    exact decide_eq_true (closureRows_written hwrote.closure hsort hbd)

end Compactable

end DyData.Projection
