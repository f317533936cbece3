import DyData.ProjectionCompactionRun

/-!
Publications that go through: a rebuild over the active head, its publication, and the
publication of a verified compaction.
-/

namespace DyData.Projection

open Relational List
open Except (bind_ok ensure_bind ofOption_bind)
open DyData.HeavyQueue (JobRun JobEvent Timestamp)

variable {db : Db} {job : JobRun} {key base : String} {clock : PublishClock} {g : Generation}

theorem buildSettlementSparseOverlay_exists {digests : Digests} {b : Generation}
    {older : List Generation} (h : Sound digests db (b :: older)) (input : RebuildInput)
    (hid : input.generationId ≠ "" ∧ PythonText.strip input.generationId = input.generationId)
    (hhex : isLowerHex64 input.inputFingerprint = true)
    (hbase : input.baseGenerationId = b.generationId)
    (hnew : db.generations.get? input.generationId = none) (hdep : b.lineageDepth < maxLineageDepth)
    (hfp : ∀ x ∈ db.generations.rows, x.inputFingerprint ≠ input.inputFingerprint)
    (hpart : (input.partitions.map fun p => (p.artifact, p.partitionKey)).Nodup) :
    ∃ db', buildSettlementSparseOverlay digests db input = .ok db' := by
  have hb := h.chained.published_of_mem mem_cons_self
  have hself : input.generationId ≠ input.baseGenerationId := by
    intro he
    rw [he, hbase, hb.row] at hnew
    cases hnew
  have hrows : lineageRows db 66 (some b.generationId) = chain (b :: older) :=
    h.chained.lineageRows_eq_chain (Nat.lt_trans hdep (by decide))
  have hlen := h.chained.length_chain.1
  have hchainNodup : ((chain (b :: older)).map Generation.generationId).Nodup := by
    obtain ⟨_, _, _, hspl, hchn, -, -⟩ := h.chained.chain_split
    have hnd := h.chained.nodup
    rw [hspl, append_cons, ids, map_append] at hnd
    rw [hchn]
    exact (nodup_append.mp hnd).1
  have hchn : sparseBaseChain db input.baseGenerationId = .ok b := by
    rw [hbase]
    refine ofOption_bind hb.row ?_
    refine ensure_bind (decide_eq_true hb.state) ?_
    refine ensure_bind (decide_eq_true hdep) ?_
    rw [hrows]
    refine ensure_bind (decide_eq_true hchainNodup) ?_
    refine ensure_bind ?_ ?_
    · rw [hlen, decide_eq_true_eq]
      exact Nat.succ_le_of_lt (Nat.lt_trans hdep (by decide))
    refine ensure_bind ?_ ?_
    · rw [all_eq_true]
      intro x hx
      exact decide_eq_true (published_mem_inherited
        (h.chained.published_of_mem (chain_subset _ (mem_of_mem_tail hx))).state)
    refine ensure_bind ?_ ?_
    · have hlast := h.chained.last_base
      cases hl : (chain (b :: older)).getLast? with
      | none => rfl
      | some x =>
        rw [hl] at hlast
        exact Option.isNone_iff_eq_none.mpr hlast
    refine bind_ok (a := ()) ?_ rfl
    rw [hlen]
    simp
  have hrdy : (sparseGeneration digests input (b.lineageDepth + 1) input.manifests).state ≠
      .published := by
    change GenerationState.ready ≠ .published
    decide
  have hidn : (input.manifests.map Manifest.identity).Nodup := by
    refine Nodup.of_map Prod.snd ?_
    rw [RebuildInput.manifests, map_map, map_map]
    have hsame : (Prod.snd ∘ Manifest.identity) ∘ sparseManifestValues input.generationId
        input.baseGenerationId = fun p : PartitionBuild => (p.artifact, p.partitionKey) := by
      funext p
      rw [Function.comp_apply, Function.comp_apply, sparseManifestValues_identity]
    rw [hsame]
    exact hpart
  obtain ⟨db', hwr⟩ := writeGeneration_exists
    (g := sparseGeneration digests input (b.lineageDepth + 1) input.manifests)
    input.manifests [] input.overlays hrdy hnew hfp
    (fun m hm => by
      obtain ⟨p, -, rfl⟩ := mem_map.mp hm
      exact congrArg Prod.fst (sparseManifestValues_identity _ _ p))
    hidn (forall_mem_nil _) nodup_nil
    (fun o ho => by
      obtain ⟨_, -, hmem⟩ := mem_flatMap.mp ho
      rw [(mem_replicate.mp hmem).2]
      rfl)
  refine ⟨db', ?_⟩
  refine ensure_bind (by simp [hid]) ?_
  refine ensure_bind (decide_eq_true hself) ?_
  refine ensure_bind hhex ?_
  refine ensure_bind (by rw [h.active, hbase]; simp) ?_
  refine bind_ok hchn ?_
  refine ensure_bind (by rw [hnew]; rfl) ?_
  rw [Except.ofOption_eq_ok_iff]
  exact hwr

def Db.published (db : Db) (g : Generation) (now : Timestamp) (e : JobEvent) : Db :=
  { db.promote g.generationId now with events := db.events ++ [e] }

theorem recordOnce_new {event : OnceEvent} {occurredAt : Timestamp}
    (hnew : ∀ e ∈ db.events, e.idempotencyKey ≠ some key) : db.recordOnce job key event occurredAt =
      .ok { db with events := db.events ++ [event.toJobEvent job key occurredAt] } := by
  have hnone : db.onceEvent? job.jobId key = none := by
    unfold Db.onceEvent?
    rw [find?_eq_none]
    intro e he
    simp [hnew e he]
  rw [Db.recordOnce, hnone]

structure Publishable (db : Db) (job : JobRun) (claimId : String) (clock : PublishClock)
    (g : Generation) (base checksum : String) : Prop where
  jobRow : db.jobs.get? job.jobId = some job
  claim : claimActive job claimId clock.claimCheck = true
  lease : leaseLive job clock.lockCheck = true
  row : db.generations.get? g.generationId = some g
  ready : g.state = .ready
  unpublished : g.publishedAt = none
  checksum : g.manifestChecksum = some checksum
  active : db.active = some (some base)
  other : base ≠ g.generationId

theorem Publishable.notYet {claimId : String} {checksum : String}
    (h : Publishable db job claimId clock g base checksum) :
    alreadyPublished (some base) g = false := by
  rw [Bool.eq_false_iff]
  intro hpub
  exact h.other (Option.some.inj (alreadyPublished_iff.mp hpub).1)

theorem publishRebuild_exists (ctx : PublishContext) {p : RebuildPublication}
    (hval : p.validate = .ok ())
    (h : Publishable db job p.claimId clock g p.baseGenerationId p.manifestChecksum)
    (hjob : job.jobId = p.jobId) (hname : job.jobName = "settlement_rebuild")
    (hid : g.generationId = p.generationId) (hkind : g.generationKind = .lineage)
    (hbase : g.baseGenerationId = some p.baseGenerationId)
    (hfp : g.inputFingerprint = p.inputFingerprint)
    (hsrc : g.sourceJobId.all (fun source => source = p.jobId) = true)
    (hkey : settlementRebuildPublishOnceKey ctx.sha256 p.jobId p.inputFingerprint = .ok key)
    (hnew : ∀ e ∈ db.events, e.idempotencyKey ≠ some key) :
    ∃ e : JobEvent, e.idempotencyKey = some key ∧
      (Publication.rebuild p).run ctx clock db = .ok (db.published g clock.published e) := by
  have hprom : ∀ changed notReady, comparePromote db (some p.baseGenerationId) g
      p.baseGenerationId clock.published changed notReady =
        .ok (db.promote g.generationId clock.published) := by
    intro changed notReady
    unfold comparePromote
    rw [h.notYet]
    refine ensure_bind (by simp) ?_
    exact ensure_bind (by simp [h.ready, h.unpublished]) rfl
  have hrec : ∀ event : OnceEvent, (db.promote g.generationId clock.published).recordOnce job key
      event clock.occurred = .ok (db.published g clock.published
        (event.toJobEvent job key clock.occurred)) := fun event => recordOnce_new hnew
  refine ⟨OnceEvent.toJobEvent
    { stageRunId := none
      status := job.status
      reason := "settlement rebuild projection published"
      conflict := "settlement rebuild publication once event conflicts"
      payload := publicationPayload p.inputFingerprint p.generationId p.manifestChecksum
        p.baseGenerationId } job key clock.occurred, rfl, ?_⟩
  refine Except.map_eq_ok_iff.mpr ⟨(_, publicationPayload p.inputFingerprint p.generationId
    p.manifestChecksum p.baseGenerationId), ?_, rfl⟩
  refine bind_ok hval ?_
  refine ofOption_bind (a := job) ?_ ?_
  · rw [← hjob, h.jobRow]
    exact Option.filter_some_pos (decide_eq_true hname)
  refine ensure_bind h.claim ?_
  refine ofOption_bind h.active ?_
  refine ofOption_bind (by rw [← hid]; exact h.row) ?_
  refine ensure_bind (by rw [hsrc, hkind, hbase, hfp]; simp) ?_
  refine ensure_bind (decide_eq_true h.checksum) ?_
  refine ensure_bind h.lease ?_
  refine bind_ok (hprom _ _) ?_
  refine bind_ok hkey ?_
  exact bind_ok (hrec _) rfl

theorem checkCompactionCheckpoint_ok {checksum : String} {resource : CompactionResource}
    {batchSize batchCount partitionCount sources : Nat} (hpos : 0 < batchSize)
    (hbat : batchSize ≤ 400) (hrows : 0 ≤ resource.manifestRows)
    (hwrit : 0 ≤ resource.writeRows) (hbytes : 0 ≤ resource.writeBytes)
    (hwal : 0 ≤ resource.walBytes) (hdisk : 0 ≤ resource.diskHeadroomBytes) :
    checkCompactionCheckpoint (compactionCheckpoint "ready" base batchSize batchCount
      partitionCount sources checksum resource) base checksum = .ok () := by
  have hfield : ∀ {n : Int} {label : String}, 0 ≤ n →
      strictInt (some (.num n)) label true = .ok n := by
    intro n label hn
    change (if true = true ∧ n < 0 then _ else Except.ok n) = _
    rw [if_neg]
    omega
  unfold checkCompactionCheckpoint
  refine ensure_bind ?_ ?_
  · simp only [bool_to_prop]
    exact ⟨⟨⟨⟨⟨⟨⟨⟨rfl, rfl⟩, rfl⟩, rfl⟩, rfl⟩, rfl⟩, rfl⟩, rfl⟩, rfl⟩
  refine bind_ok rfl ?_
  refine ensure_bind ?_ ?_
  · rw [Bool.and_eq_true, decide_eq_true_eq, decide_eq_true_eq]
    unfold maxBatchSize
    omega
  rw [Except.forM_eq_ok_iff]
  have hcnt : ∀ n : Nat, 0 ≤ (n : Int) := Int.natCast_nonneg
  intro name hname
  simp only [checkpointCounts, mem_cons, not_mem_nil, or_false] at hname
  rcases hname with rfl | rfl | rfl | rfl | rfl | rfl | rfl | rfl
  · exact bind_ok (hfield (hcnt batchCount)) rfl
  · exact bind_ok (hfield (hcnt partitionCount)) rfl
  · exact bind_ok (hfield (hcnt sources)) rfl
  · exact bind_ok (hfield hrows) rfl
  · exact bind_ok (hfield hwrit) rfl
  · exact bind_ok (hfield hbytes) rfl
  · exact bind_ok (hfield hwal) rfl
  · exact bind_ok (hfield hdisk) rfl

theorem publishCompaction_exists (ctx : PublishContext) {p : CompactionPublication}
    (hval : p.validate = .ok ())
    (h : Publishable db job p.claimId clock g base p.manifestChecksum) (hjob : job.jobId = p.jobId)
    (hname : job.jobName = "settlement_compaction") (hid : g.generationId = p.generationId)
    (hkind : g.generationKind = .compact) (hbase : g.compactionBaseGenerationId = some base)
    (hfp : g.inputFingerprint = p.inputFingerprint)
    (hcp : checkCompactionCheckpoint g.checkpointJson base p.manifestChecksum = .ok ())
    (hrev : ctx.reverify db g.generationId = .ok ())
    (hkey : settlementCompactionPublishOnceKey ctx.sha256 p.jobId p.inputFingerprint = .ok key)
    (hnew : ∀ e ∈ db.events, e.idempotencyKey ≠ some key) :
    ∃ e : JobEvent, e.idempotencyKey = some key ∧
      (Publication.compaction p).run ctx clock db = .ok (db.published g clock.published e) := by
  obtain ⟨hnone, hdep⟩ := History.base_none (g := g) (by rw [hkind]; decide)
  have hprom : verifyPromote ctx clock db job (some base) g base =
      .ok (db.promote g.generationId clock.published) := by
    unfold verifyPromote
    rw [h.notYet, hrev]
    refine ensure_bind h.lease ?_
    refine ensure_bind (by simp [h.ready, h.unpublished, hbase]) ?_
    exact ensure_bind (by simp) rfl
  have hrec : ∀ event : OnceEvent, (db.promote g.generationId clock.published).recordOnce job key
      event clock.occurred = .ok (db.published g clock.published
        (event.toJobEvent job key clock.occurred)) := fun event => recordOnce_new hnew
  set payload := [("generation_id", p.generationId), ("input_fingerprint", p.inputFingerprint),
    ("manifest_checksum", p.manifestChecksum), ("base_generation_id", base),
    ("compaction_protocol", compactionProtocol)] with hpay
  refine ⟨OnceEvent.toJobEvent
    { stageRunId := none
      status := job.status
      reason := "settlement compaction projection published"
      conflict := "settlement compaction publication once event conflicts"
      payload } job key clock.occurred, rfl, ?_⟩
  refine Except.map_eq_ok_iff.mpr ⟨(_, payload), ?_, rfl⟩
  refine bind_ok hval ?_
  refine ofOption_bind (a := job) ?_ ?_
  · rw [← hjob, h.jobRow]
    exact Option.filter_some_pos (decide_eq_true hname)
  refine ensure_bind h.claim ?_
  refine ofOption_bind h.active ?_
  refine ofOption_bind (by rw [← hid]; exact h.row) ?_
  refine bind_ok (a := ()) ?_ ?_
  · rw [hkind, hnone, hdep, hbase, hfp, h.checksum]
    simp
  refine ofOption_bind hbase ?_
  refine bind_ok hcp ?_
  refine bind_ok hprom ?_
  refine bind_ok hkey ?_
  exact bind_ok (hrec _) rfl

end DyData.Projection
