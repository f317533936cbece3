import DyData.ProjectionCampaign

/-!
Every round of the campaign goes through while at most 64 compactions are published, so a
reachable head with 65 of them exists.
-/

namespace DyData.Projection

open Relational List Option
open PythonText (isSpace strip strip_of_all)
open Except (bind_ok ensure_bind)
open DyData.HeavyQueue (JobEvent)

variable {head : Generation} {older : List Generation} {j : Nat}

variable {g : Generation} {now : DyData.HeavyQueue.Timestamp}

section Names

def NoSpace (s : String) : Prop := ∀ c ∈ s.toList, isSpace c = false

theorem noSpace_of_all {s : String} (h : (s.toList.all fun c => !isSpace c) = true) :
    NoSpace s := by
  intro c hc
  simpa using List.all_eq_true.mp h c hc

theorem noSpace_stamp {c d : Char} (hc : isSpace c = false)
    (hd : isSpace d = false) (k : Nat) : NoSpace (stamp c d k) := by
  intro x hx
  rcases mem_stamp hx with rfl | rfl
  · exact hc
  · exact hd

theorem noSpace_compactIdOf (k : Nat) : NoSpace (compactIdOf k) := by
  have hpref : NoSpace "settlement-compact:" := noSpace_of_all (by decide)
  unfold compactIdOf
  intro x hx
  rw [String.toList_append, mem_append] at hx
  rcases hx with hx | hx
  · exact hpref x hx
  · exact noSpace_stamp (by decide) (by decide) k x hx

theorem compactIdOf_ne_empty {k : Nat} (hk : k ≤ 64) : compactIdOf k ≠ "" := by
  intro he
  exact stamp_ne_empty 'b' 'c' hk (String.append_eq_empty_iff.mp he).2

theorem headIdOf_ok : ∀ {k : Nat}, k ≤ 64 → headIdOf k ≠ "" ∧ NoSpace (headIdOf k)
  | 0, _ => ⟨by decide, noSpace_of_all (by decide)⟩
  | k + 1, hk => ⟨compactIdOf_ne_empty (by omega), noSpace_compactIdOf k⟩

theorem lineageId_hex {k : Nat} (hk : k ≤ 64) : isLowerHex64 (lineageId k) = true :=
  isLowerHex64_stamp hk (by decide) (by decide)

theorem compactFingerprint_hex {k : Nat} (hk : k ≤ 64) :
    isLowerHex64 (compactFingerprint k) = true :=
  isLowerHex64_stamp hk (by decide) (by decide)

theorem hexDigest_hex : isLowerHex64 (hexDigest 'f') = true :=
  isLowerHex64_stamp (Nat.le_refl 64) (by decide) (by decide)

theorem lineageId_ne_compactFingerprint {k : Nat} (hj : j ≤ 64) :
    lineageId j ≠ compactFingerprint k := stamp_ne (by decide) hj

theorem rebuildKey_injective {k : Nat} (h : rebuildKey j = rebuildKey k) : j = k := by
  exact stamp_injective (by decide)
    ((String.append_right_inj _).mp ((String.append_right_inj _).mp h))

theorem compactionKey_injective {k : Nat} (h : compactionKey j = compactionKey k) : j = k := by
  exact stamp_injective (by decide)
    ((String.append_right_inj _).mp ((String.append_right_inj _).mp h))

theorem rebuildKey_ne_compactionKey (j k : Nat) : rebuildKey j ≠ compactionKey k := by
  intro h
  have htake := congrArg (fun s : String => s.toList.take 12) h
  unfold rebuildKey compactionKey at htake
  simp only [String.toList_append] at htake
  rw [take_append_of_le_length (by decide), take_append_of_le_length (by decide)] at htake
  exact absurd htake (by decide)

theorem roundRebuild_validate {k : Nat} (hk : k ≤ 64) : (roundRebuild k).validate = .ok () := by
  obtain ⟨hne, hspace⟩ := headIdOf_ok hk
  have hjob : identity "job_id" "rebuild" = .ok "rebuild" :=
    identity_ok (by decide) (noSpace_of_all (by decide))
  have hclm : identity "claim_id" "claim" = .ok "claim" :=
    identity_ok (by decide) (noSpace_of_all (by decide))
  refine bind_ok hjob ?_
  refine bind_ok hclm ?_
  refine bind_ok (identity_ok (stamp_ne_empty _ _ hk)
    (noSpace_stamp (by decide) (by decide) k)) ?_
  refine bind_ok (identity_ok hne hspace) ?_
  refine bind_ok (digest_ok (lineageId_hex hk)) ?_
  exact bind_ok (digest_ok hexDigest_hex) rfl

theorem roundCompaction_validate {k : Nat} (hk : k ≤ 64) :
    (roundCompaction k).validate = .ok () := by
  have hjob : identity "job_id" "compaction" = .ok "compaction" :=
    identity_ok (by decide) (noSpace_of_all (by decide))
  refine bind_ok hjob ?_
  refine bind_ok (identity_ok (compactIdOf_ne_empty hk) (noSpace_compactIdOf k)) ?_
  refine bind_ok (digest_ok (compactFingerprint_hex hk)) ?_
  refine bind_ok (digest_ok hexDigest_hex) ?_
  have hclm : strip "claim" = "claim" := strip_of_all (noSpace_of_all (by decide))
  simp [roundCompaction, hclm]

theorem rebuild_onceKey {k : Nat} (hk : k ≤ 64) :
    settlementRebuildPublishOnceKey campaignProtocol.context.sha256 "rebuild" (lineageId k) =
      .ok (rebuildKey k) := by
  have hlen : (rebuildKey k).length ≤ 128 := by
    unfold rebuildKey lineageId
    rw [String.length_append, String.length_append, length_stamp _ _ hk]
    decide
  refine bind_ok (digest_ok (lineageId_hex hk)) ?_
  exact ensure_bind (decide_eq_true hlen) rfl

theorem compaction_onceKey {k : Nat} (hk : k ≤ 64) :
    settlementCompactionPublishOnceKey campaignProtocol.context.sha256 "compaction"
      (compactFingerprint k) = .ok (compactionKey k) := by
  have hlen : (compactionKey k).length ≤ 128 := by
    unfold compactionKey compactFingerprint
    rw [String.length_append, String.length_append, length_stamp _ _ hk]
    decide
  refine bind_ok (digest_ok (compactFingerprint_hex hk)) ?_
  exact ensure_bind (decide_eq_true hlen) rfl

end Names

section Unused

variable {k : Nat} {db db' : Db}

theorem Unused.succ (h : Unused k db) : Unused (k + 1) db :=
  ⟨fun x hx j hj => h.generations x hx j (by omega), fun e he j hj => h.events e he j (by omega)⟩

theorem Unused.wrote {manifests : List Manifest} {closure : List ClosureRow}
    {overlays : List OverlayRow} (h : Unused k db)
    (hwrote : Wrote db db' g manifests closure overlays)
    (hg : ∀ j, k ≤ j → j ≤ 64 → g.inputFingerprint ≠ lineageId j ∧
      g.inputFingerprint ≠ compactFingerprint j ∧ g.generationId ≠ lineageId j ∧
      g.generationId ≠ compactIdOf j) : Unused k db' := by
  refine ⟨?_, by rw [hwrote.events]; exact h.events⟩
  intro x hx
  rcases (hwrote.rows x).mp hx with rfl | ⟨hx, -⟩
  · exact hg
  · exact h.generations x hx

theorem mem_published {x : Generation} {e : JobEvent}
    (hx : x ∈ (db.published g now e).generations.rows) :
    ∃ y ∈ db.generations.rows, x.generationId = y.generationId ∧
      x.inputFingerprint = y.inputFingerprint := by
  rcases mem_promote.mp hx with ⟨hx, -⟩ | ⟨old, hold, -, rfl⟩
  · exact ⟨x, hx, rfl, rfl⟩
  · exact ⟨old, hold, rfl, rfl⟩

theorem Unused.published {e : JobEvent} (h : Unused k db)
    (he : ∀ j, k ≤ j → j ≤ 64 → e.idempotencyKey ≠ some (rebuildKey j) ∧
      e.idempotencyKey ≠ some (compactionKey j)) : Unused k (db.published g now e) := by
  refine ⟨?_, ?_⟩
  · intro x hx
    obtain ⟨y, hy, hid, hfp⟩ := mem_published hx
    rw [hid, hfp]
    exact h.generations y hy
  · intro e' he'
    rcases mem_append.mp he' with he' | he'
    · exact h.events e' he'
    · rw [mem_singleton.mp he']
      exact he

end Unused

def OneMonth (db : Db) : Prop :=
  ∀ m ∈ db.manifests.rows, m.partition = (.monthly, campaignMonth)

theorem OneMonth.wrote {db db' : Db} {manifests : List Manifest} {closure : List ClosureRow}
    {overlays : List OverlayRow} (h : OneMonth db)
    (hwrote : Wrote db db' g manifests closure overlays)
    (hnew : ∀ m ∈ manifests, m.partition = (.monthly, campaignMonth)) : OneMonth db' := by
  intro m hm
  by_cases hid : m.generationId = g.generationId
  · refine hnew m ?_
    rw [← hwrote.manifests]
    exact mem_filter.mpr ⟨hm, decide_eq_true hid⟩
  · exact h m (((hwrote.others _ hid).mem_manifests rfl).mp hm)

theorem Sound.published {digests : Digests} {db : Db} {history : List Generation}
    (h : Sound digests (db.promote g.generationId now) history) (e : JobEvent) :
    Sound digests (db.published g now e) history :=
  h.congr rfl rfl rfl rfl rfl

theorem maintainAll_append (protocol : Protocol) (db : Db) (first rest : List MaintenanceAction) :
    db.maintainAll protocol (first ++ rest) =
      (db.maintainAll protocol first).maintainAll protocol rest :=
  foldl_append

theorem maintain_rebuild (protocol : Protocol) {db db' : Db} {input : RebuildInput}
    (h : buildSettlementSparseOverlay protocol.digests db input = .ok db') :
    db.maintain protocol (.rebuild input) = db' := by
  rw [Db.maintain, h]
  rfl

theorem maintain_compact (protocol : Protocol) {db db' : Db} {arguments : CompactionArguments}
    {base : String} (h : compactProjectionMetadata protocol.digests arguments db base = .ok db') :
    db.maintain protocol (.compact arguments base) = db' := by
  rw [Db.maintain, h]
  rfl

theorem maintain_publish (protocol : Protocol) {db db' : Db} {p : Publication}
    {clock : PublishClock} (h : p.run protocol.context clock db = .ok db') :
    db.maintain protocol (.publish p clock) = db' := by
  rw [Db.maintain, h]
  rfl

structure Midway (k : Nat) (db : Db) (g head : Generation) (older : List Generation) : Prop where
  sound : Sound campaignDigests db (g :: head :: older)
  id : g.generationId = lineageId k
  kind : g.generationKind = .lineage
  depth : g.lineageDepth = 1
  compactions : (compactIds (g :: head :: older)).length = k
  length : (g :: head :: older).length = 2 * k + 2
  unused : Unused (k + 1) db
  fresh : ∀ x ∈ db.generations.rows,
    x.inputFingerprint ≠ compactFingerprint k ∧ x.generationId ≠ compactIdOf k
  freshKey : ∀ e ∈ db.events, e.idempotencyKey ≠ some (compactionKey k)
  partitions : OneMonth db
  jobs : db.jobs = campaignStart.jobs
  month : ∃ m, db.manifest? g.generationId .monthly campaignMonth = some m ∧
    m.sourceKind ≠ .legacyRoot

theorem campaign_rebuildJob {db : Db} (h : db.jobs = campaignStart.jobs) :
    db.jobs.get? rebuildJob.jobId = some rebuildJob := by
  rw [h]
  exact campaignStart.jobs.get?_of_mem mem_cons_self

theorem campaign_compactionJob {db : Db} (h : db.jobs = campaignStart.jobs) :
    db.jobs.get? compactionJob.jobId = some compactionJob := by
  rw [h]
  exact campaignStart.jobs.get?_of_mem (mem_cons_of_mem _ mem_cons_self)

theorem Campaign.rebuild {k : Nat} (hk : k ≤ 64) {db : Db} (h : Campaign k db head older) :
    ∃ g, Midway k (db.maintainAll campaignProtocol [.rebuild (roundInput k),
      .publish (.rebuild (roundRebuild k)) roundClock]) g head older := by
  have hunus := fun x hx => h.unused.generations x hx k (Nat.le_refl k) hk
  have hnew : db.generations.get? (roundInput k).generationId = none := by
    rw [Table.get?_eq_none_iff]
    exact fun x hx => (hunus x hx).2.2.1
  have hhead := h.sound.chained.published_of_mem mem_cons_self
  obtain ⟨db₁, hbld⟩ := buildSettlementSparseOverlay_exists h.sound (roundInput k)
    ⟨stamp_ne_empty _ _ hk, strip_of_all (noSpace_stamp (by decide) (by decide) k)⟩
    (lineageId_hex hk) h.id.symm hnew (by rw [h.depth]; decide)
    (fun x hx => (hunus x hx).1) (nodup_singleton _)
  obtain ⟨-, base, hbase, -, -, hwr⟩ := buildSettlementSparseOverlay_ok hbld
  obtain rfl : base = head := by
    have hrow := hhead.row
    rw [h.id] at hrow
    exact mem_unique hbase hrow
  have hwrote := writeGeneration_ok hwr
  set g := sparseGeneration campaignDigests (roundInput k) (base.lineageDepth + 1)
    (roundInput k).manifests with hg
  have hrow : db₁.generations.get? g.generationId = some g :=
    db₁.generations.get?_of_mem ((hwrote.rows g).mpr (.inl rfl))
  have hact : db₁.active = some (some (headIdOf k)) := by
    rw [hwrote.active, h.sound.active, ← h.id]
    rfl
  have hoth : headIdOf k ≠ g.generationId := by
    intro he
    exact (hunus base (db.generations.mem_of_get? hhead.row)).2.2.1 (h.id.trans he)
  have hrdy : Publishable db₁ rebuildJob "claim" roundClock g (headIdOf k) (hexDigest 'f') :=
    ⟨campaign_rebuildJob (hwrote.jobs.trans h.jobs), by decide, by decide, hrow, rfl, rfl, rfl,
      hact, hoth⟩
  obtain ⟨e, hekey, hpubl⟩ := publishRebuild_exists campaignProtocol.context
    (roundRebuild_validate hk) hrdy rfl rfl rfl rfl rfl rfl rfl (rebuild_onceKey hk) (by
      rw [hwrote.events]
      exact fun e he => (h.unused.events e he k (Nat.le_refl k) hk).1)
  have hrun : db.maintainAll campaignProtocol [.rebuild (roundInput k),
      .publish (.rebuild (roundRebuild k)) roundClock] = db₁.published g roundClock.published e := by
    rw [Db.maintainAll, foldl_cons, foldl_cons, foldl_nil,
      maintain_rebuild campaignProtocol hbld, maintain_publish campaignProtocol hpubl]
  rw [hrun]
  have hids : ∀ x ∈ db₁.generations.rows, x = g ∨ x ∈ db.generations.rows := fun x hx =>
    ((hwrote.rows x).mp hx).imp_right fun hx => hx.1
  have hord : (g.publish roundClock.published).generationKind ≠ .compact := by
    change GenerationKind.lineage ≠ .compact
    decide
  have hmo : OneMonth db₁ := OneMonth.wrote h.partitions hwrote fun m hm => by
    obtain ⟨_, hp, rfl⟩ := List.mem_map.mp hm
    rw [mem_singleton.mp hp]
    rfl
  have hrowOfMonth : db₁.manifest? g.generationId .monthly campaignMonth =
      some (sparseManifestValues (lineageId k) (headIdOf k) emptyMonth) := by
    refine db₁.manifests.get?_eq_some_iff.mpr ⟨?_, rfl⟩
    have hmem : sparseManifestValues (lineageId k) (headIdOf k) emptyMonth ∈
        db₁.manifests.rows.filter fun m => m.generationId = g.generationId := by
      rw [hwrote.manifests]
      exact mem_singleton_self _
    exact (mem_filter.mp hmem).1
  refine ⟨g.publish roundClock.published, ?_⟩
  exact
    { sound := ((h.sound.rebuild hbld).promote_lineage hrow rfl rfl
        (congrArg some h.id.symm)).published e
      id := rfl
      kind := rfl
      depth := by
        change base.lineageDepth + 1 = 1
        rw [h.depth]
      compactions := by
        exact h.compactions
      length := by
        rw [length_cons, h.length]
      unused := (h.unused.succ.wrote hwrote fun j hj hj64 =>
        ⟨fun he => by have := stamp_injective (by decide) he; omega,
          lineageId_ne_compactFingerprint hk,
          fun he => by have := stamp_injective (by decide) he; omega,
          fun he => compactIdOf_ne_stamp hj64 hk he.symm⟩).published fun j hj _ => by
            rw [hekey]
            refine ⟨fun he => ?_, fun he => rebuildKey_ne_compactionKey _ _ (some.inj he)⟩
            have := rebuildKey_injective (some.inj he)
            omega
      fresh := by
        intro x hx
        obtain ⟨y, hy, hid, hfp⟩ := mem_published hx
        rw [hid, hfp]
        rcases hids y hy with rfl | hy
        · exact ⟨lineageId_ne_compactFingerprint hk, fun he => compactIdOf_ne_stamp hk hk he.symm⟩
        · exact ⟨(hunus y hy).2.1, (hunus y hy).2.2.2⟩
      freshKey := by
        intro e' he'
        rcases mem_append.mp he' with he' | he'
        · rw [hwrote.events] at he'
          exact (h.unused.events e' he' k (Nat.le_refl k) hk).2
        · rw [mem_singleton.mp he', hekey]
          exact fun he => rebuildKey_ne_compactionKey _ _ (some.inj he)
      partitions := hmo
      jobs := hwrote.jobs.trans h.jobs
      month := ⟨_, hrowOfMonth, by simp [sparseManifestValues, emptyMonth]⟩ }

theorem OneMonth.canonical {db : Db} (h : OneMonth db) :
    ∀ m ∈ db.manifests.rows, CanonicalKey m.partitionKey := by
  intro m hm
  have hkey : m.partitionKey = campaignMonth := congrArg Prod.snd (h m hm)
  rw [hkey]
  exact emptyMonth.canonicalKey

theorem OneMonth.length_keptRows {db : Db} (h : OneMonth db) (history : List Generation) :
    (keptRows db history).length ≤ 1 := by
  have hpart : lineagePartitions db (chain history) ⊆ [(Artifact.monthly, campaignMonth)] := by
    intro p hp
    unfold lineagePartitions at hp
    rw [mem_mergeSort, mem_dedup] at hp
    obtain ⟨m, hm, rfl⟩ := List.mem_map.mp hp
    rw [h m (mem_filter.mp hm).1]
    exact mem_singleton_self _
  have hlen := ((nodup_lineagePartitions db (chain history)).subperm hpart).length_le
  exact Nat.le_trans (length_filterMap_le _ _) hlen

theorem roundArguments_resource {rows sources : Nat} (hrows : rows ≤ 1) (hsrcs : sources ≤ 200) :
    (compactionResource rows sources roundArguments.limits).2 = none := by
  unfold compactionResource roundArguments
  dsimp only
  rw [if_neg (by omega), if_neg (by omega), if_neg (by omega), if_neg (by omega)]

theorem Midway.compactable {k : Nat} (hk : k ≤ 64) {db : Db} (h : Midway k db g head older) :
    Compactable campaignDigests db roundArguments g (head :: older) where
  sound := h.sound
  kind := h.kind
  depth := Nat.le_of_eq h.depth.symm
  valid := by decide
  budget := by rw [h.compactions]; exact hk
  bound := by
    rw [h.length]
    unfold maxCompactProvenanceSources
    omega
  keys := h.partitions.canonical
  resource := by
    refine roundArguments_resource (h.partitions.length_keptRows _) ?_
    rw [h.length]
    omega

theorem Midway.compact {k : Nat} (hk : k ≤ 64) {db : Db} {g : Generation} (h : Midway k db g head older) :
    ∃ c, Campaign (k + 1) (db.maintainAll campaignProtocol [.compact roundArguments (lineageId k),
      .publish (.compaction (roundCompaction k)) roundClock]) c (g :: head :: older) := by
  have hcomp := h.compactable hk
  have hrec : recolour g.generationId = compactFingerprint k := by
    rw [h.id, recolour_lineageId hk]
  obtain ⟨closure, db₁, hcl, hbld, hwrote⟩ := hcomp.build (by
    intro _ _ _
    change (∀ x ∈ db.generations.rows, x.inputFingerprint ≠ recolour g.generationId) ∧
      db.generations.get? ("settlement-compact:" ++ recolour g.generationId) = none
    rw [hrec, Table.get?_eq_none_iff]
    exact ⟨fun x hx => (h.fresh x hx).1, fun x hx => (h.fresh x hx).2⟩)
  set c := headCompaction campaignDigests db roundArguments g (head :: older) closure with hc
  have hid : c.generationId = compactIdOf k := by
    change "settlement-compact:" ++ recolour g.generationId = compactIdOf k
    rw [hrec]
    rfl
  have hfp : c.inputFingerprint = compactFingerprint k := hrec
  have hrev := hcomp.reverify (by rw [h.id]; exact stamp_ne_empty _ _ hk) hcl hc
    hwrote
  have hrow : db₁.generations.get? c.generationId = some c :=
    db₁.generations.get?_of_mem ((hwrote.rows c).mpr (.inl rfl))
  have hact : db₁.active = some (some g.generationId) := hwrote.active.trans h.sound.active
  have hoth : g.generationId ≠ c.generationId := by
    rw [h.id, hid]
    exact fun he => compactIdOf_ne_stamp hk hk he.symm
  have hrdy : Publishable db₁ compactionJob "claim" roundClock c g.generationId (hexDigest 'f') :=
    ⟨campaign_compactionJob (hwrote.jobs.trans h.jobs), by decide, by decide, hrow, rfl, rfl, rfl,
      hact, hoth⟩
  have hlen : closure.length = (g :: head :: older).length := by
    rw [(h.sound.chained.provenance_perm hcl).1.length_eq, length_map]
  have hcp : checkCompactionCheckpoint c.checkpointJson g.generationId (hexDigest 'f') =
      .ok () := by
    refine checkCompactionCheckpoint_ok (by decide) (by decide) ?_ ?_ ?_ ?_
      (compactionResource_nonneg (by rw [hlen]; exact hcomp.resource))
    all_goals
      unfold compactionResource
      dsimp only
      omega
  obtain ⟨e, hekey, hpubl⟩ := publishCompaction_exists campaignProtocol.context
    (roundCompaction_validate hk) hrdy rfl rfl hid rfl rfl hfp hcp
    (Except.mapError_eq_ok_iff.mpr hrev) (compaction_onceKey hk) (by
      rw [hwrote.events]
      exact h.freshKey)
  have hrun : db.maintainAll campaignProtocol [.compact roundArguments (lineageId k),
      .publish (.compaction (roundCompaction k)) roundClock] =
        db₁.published c roundClock.published e := by
    rw [Db.maintainAll, foldl_cons, foldl_cons, foldl_nil, ← h.id,
      maintain_compact campaignProtocol hbld, maintain_publish campaignProtocol hpubl]
  rw [hrun]
  have hsnd : Sound campaignDigests db₁ (g :: head :: older) :=
    h.sound.write hwrote fun hne => absurd rfl hne
  have hver : Verified campaignDigests db₁ c g (head :: older) :=
    hsnd.chained.reverify_ok hact hrow
      (fun n hn => batchSize_of_checkpoint hcp hn) hrev
  have hcompa : (c.publish roundClock.published).generationKind = .compact := rfl
  have hmo : OneMonth db₁ := OneMonth.wrote h.partitions hwrote fun m hm => by
    obtain ⟨source, hsrc, rfl⟩ := List.mem_map.mp hm
    obtain ⟨hview, -⟩ := filter_eq_some_iff.mp (mem_keptRows.mp hsrc)
    exact h.partitions source (Db.mem_of_manifest? (view_mem hview).2).1
  have hshown : (db₁.manifest? c.generationId .monthly campaignMonth).isSome = true := by
    obtain ⟨_, hm, hleg⟩ := h.month
    have hsame := (hwrote.others g.generationId hoth).toSameContent
    rw [hver.rows, view_of_manifest ((hsame.manifest? _ _).trans hm), kept,
      filter_some_pos (by simpa using hleg)]
    rfl
  refine ⟨c.publish roundClock.published, ?_⟩
  exact
    { sound := (hsnd.promote_compact hrow rfl rfl hver).published e
      id := hid
      depth := rfl
      compactions := by rw [compactIds_cons_compact hcompa, length_cons, h.compactions]
      length := by
        rw [length_cons, h.length]
        omega
      unused := (h.unused.wrote hwrote fun j hj hj64 => by
        rw [hid, hfp]
        exact ⟨fun he => lineageId_ne_compactFingerprint hj64 he.symm,
          fun he => by have := stamp_injective (by decide) he; omega,
          compactIdOf_ne_stamp hk hj64,
          fun he => by have := compactIdOf_injective he; omega⟩).published fun j hj _ => by
            rw [hekey]
            refine ⟨fun he => rebuildKey_ne_compactionKey _ _ (some.inj he).symm, fun he => ?_⟩
            have := compactionKey_injective (some.inj he)
            omega
      partitions := hmo
      jobs := hwrote.jobs.trans h.jobs
      tip := fun j hj => by
        obtain rfl : k = j := by omega
        exact ⟨rfl, congrArg some h.id, hshown⟩ }

theorem campaign_start : Campaign 0 campaignStart legacyRoot [] where
  sound := campaignStart_legacyHead.sound
  id := rfl
  depth := rfl
  compactions := rfl
  length := rfl
  unused := by
    refine ⟨?_, fun e he => by cases he⟩
    intro x hx j _ hj
    rw [mem_singleton.mp hx]
    have hshort : (headIdOf 0).length < 64 := by
      decide
    refine ⟨stamp_ne (by decide) (Nat.le_refl 64), stamp_ne (by decide) (Nat.le_refl 64), ?_, ?_⟩
    · intro he
      have hlen : (headIdOf 0).length = 64 := (congrArg String.length he).trans
        (length_stamp _ _ hj)
      omega
    · intro he
      have hlen : (headIdOf 0).length = (compactIdOf j).length := congrArg String.length he
      have hlong := length_compactIdOf hj
      omega
  partitions := fun m hm => by cases hm
  jobs := rfl
  tip := fun j hj => by cases hj

/-- The campaign goes on while at most 64 compactions are published. -/
theorem campaign_rounds {k : Nat} (hk : k ≤ 65) :
    ∃ head older, Campaign k (campaignStart.maintainAll campaignProtocol (campaign k)) head older := by
  induction k with
  | zero => exact ⟨legacyRoot, [], campaign_start⟩
  | succ k ih =>
    obtain ⟨head, older, h⟩ := ih (by omega)
    obtain ⟨g, hmidw⟩ := h.rebuild (by omega)
    obtain ⟨c, hcamp⟩ := hmidw.compact (by omega)
    refine ⟨c, g :: head :: older, ?_⟩
    have hspl : campaign (k + 1) = campaign k ++ round k := by
      unfold campaign
      rw [range_succ, flatMap_append, flatMap_singleton]
    have hhalv : round k = [.rebuild (roundInput k),
        .publish (.rebuild (roundRebuild k)) roundClock] ++
        [.compact roundArguments (lineageId k),
          .publish (.compaction (roundCompaction k)) roundClock] := rfl
    rw [hspl, hhalv, maintainAll_append, maintainAll_append]
    exact hcamp

end DyData.Projection
