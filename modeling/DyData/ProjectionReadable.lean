import DyData.ProjectionRounds

/-!
Reading the published heads.  Every run of rebuilds, compactions and publications over a legacy
head leaves a head that answers exactly while at most 64 compactions were published, and a
compaction that can be read shows what the head it merged shows.
-/

namespace DyData.Projection

open Relational List

variable {db : Db} {digests : Digests} {older : List Generation}

def Reachable (protocol : Protocol) (db : Db) : Prop :=
  ∃ start root actions, LegacyHead protocol.digests start root ∧
    db = start.maintainAll protocol actions

theorem Reachable.sound {protocol : Protocol} (h : Reachable protocol db) :
    ∃ history, Sound protocol.digests db history := by
  obtain ⟨_, _, actions, hst0, rfl⟩ := h
  exact hst0.sound.maintainAll actions

theorem Sound.compactions_eq {history : List Generation} (h : Sound digests db history) :
    db.compactions = (compactIds history).length := by
  have hnd : db.generations.rows.Nodup := db.generations.nodup.of_map _
  have hhist : history.Nodup := h.chained.nodup.of_map _
  rw [Db.compactions, countP_eq_length_filter, compactIds, ids, length_map]
  refine Perm.length_eq ((perm_ext_iff_of_nodup (hnd.filter _)
    (hhist.filter _)).mpr fun x => ?_)
  simp only [mem_filter, bool_to_prop]
  constructor
  · rintro ⟨hx, hkind, hstt⟩
    exact ⟨h.complete x hx hstt, hkind⟩
  · rintro ⟨hx, hkind⟩
    obtain ⟨hrow, hstt⟩ := h.chained.published_of_mem hx
    exact ⟨db.generations.mem_of_get? hrow, hkind, hstt⟩

def Db.readActive (db : Db) (artifact : Artifact) (keys : List String) :
    Except LineageError (List PartitionResolution) :=
  (resolveProjectionPartitions db artifact keys (db.active.bind id) {}).map Prod.fst

/-- The active head answers a request exactly while the published compactions fit into the
node budget of the reader. -/
theorem published_head_readable_iff {protocol : Protocol} {db : Db}
    (hreachable : Reachable protocol db) (artifact : Artifact) {keys : List String}
    (hkeys : RequestOk keys) (hne : keys ≠ []) :
    (∃ found, db.readActive artifact keys = .ok found) ↔ db.compactions ≤ maxLineageDepth := by
  obtain ⟨_, h⟩ := hreachable.sound
  obtain ⟨g, _, rfl⟩ := exists_cons_of_ne_nil h.chained.ne_nil
  have hactive : db.active.bind id = some g.generationId := by
    rw [h.active]
    rfl
  obtain ⟨_, hbounded, hbne⟩ := boundedPartitionKeys_exists []
    (by simpa using hkeys.1 : 0 + keys.length ≤ maxPartitionKeys) hkeys.2
  rw [h.compactions_eq, Db.readActive, hactive]
  constructor
  · rintro ⟨found, hfound⟩
    obtain ⟨_, hok, -⟩ := Except.map_eq_ok_iff.mp hfound
    exact h.chained.budget_of_resolve hbounded (hbne (.inl hne)) (contextOk_empty db) hok
  · intro hbudget
    obtain ⟨found, _, hok, -⟩ :=
      h.chained.resolve_exists hbudget artifact hkeys (readContext_empty db _)
    exact ⟨found, Except.map_eq_ok_iff.mpr ⟨_, hok, rfl⟩⟩

theorem campaign_reachable (k : Nat) :
    Reachable campaignProtocol (campaignStart.maintainAll campaignProtocol (campaign k)) :=
  ⟨campaignStart, legacyRoot, campaign k, campaignStart_legacyHead, rfl⟩

theorem campaignMonth_requestOk : RequestOk [campaignMonth] :=
  ⟨by decide, by decide⟩

/-- After more than 64 rounds no request for the month goes through the head. -/
theorem Campaign.unreadable {k : Nat} {head : Generation} (h : Campaign k db head older)
    (hk : maxLineageDepth < k) (result : List PartitionResolution × ProvenanceContext) :
    resolveProjectionPartitions db .monthly [campaignMonth] (some head.generationId) {} ≠
      .ok result := by
  intro hok
  have hbdd : boundedPartitionKeys 0 [] [campaignMonth] = .ok [campaignMonth] := by decide
  have hbud := h.sound.chained.budget_of_resolve hbdd (by decide) (contextOk_empty _) hok
  rw [h.compactions] at hbud
  omega

/-- The head of the start of the campaign answers. -/
theorem legacy_head_readable : RequestOk [campaignMonth] ∧
      ∃ found, (campaignStart.maintainAll campaignProtocol (campaign 0)).readActive
        .monthly [campaignMonth] = .ok found :=
  ⟨campaignMonth_requestOk,
    (published_head_readable_iff (campaign_reachable 0) .monthly campaignMonth_requestOk
      (by decide)).mpr (by decide)⟩

/-- The compaction that is published as the 65th is the active head, it has a row for the month,
and a request for that month fails. -/
theorem sixty_fifth_compaction_unreadable : ∃ head,
      (campaignStart.maintainAll campaignProtocol (campaign 65)).active = some (some head) ∧
      ((campaignStart.maintainAll campaignProtocol (campaign 65)).manifest? head
        .monthly campaignMonth).isSome = true ∧
      ∀ found, (campaignStart.maintainAll campaignProtocol (campaign 65)).readActive
        .monthly [campaignMonth] ≠ .ok found := by
  obtain ⟨head, _, h⟩ := campaign_rounds (Nat.le_refl 65)
  refine ⟨head.generationId, h.sound.active, (h.tip 64 rfl).2.2, fun found hfound => ?_⟩
  rw [Db.readActive, h.sound.active] at hfound
  obtain ⟨_, hok, -⟩ := Except.map_eq_ok_iff.mp hfound
  exact h.unreadable (by decide) _ hok

def Db.closureCompactions (db : Db) (compactId : String) : Nat :=
  db.closure.rows.countP fun r => r.compactGenerationId = compactId &&
    (db.generations.get? r.sourceGenerationId).any fun g => g.generationKind = .compact

theorem History.closureCompactions_eq {c b : Generation} (h : History digests db (c :: b :: older))
    (hkind : c.generationKind = .compact) :
    db.closureCompactions c.generationId = (compactIds (b :: older)).length := by
  cases h with
  | lineage _ _ _ kind => rw [kind] at hkind; cases hkind
  | compact below _ _ _ _ closure _ _ _ =>
    set rows := db.closure.rows.filter fun r => r.compactGenerationId = c.generationId &&
      (db.generations.get? r.sourceGenerationId).any fun g => g.generationKind = .compact with hrows
    have hnd : (rows.map ClosureRow.sourceGenerationId).Nodup := by
      have hkeys : (rows.map ClosureRow.identity).Nodup :=
        db.closure.nodup.sublist (filter_sublist.map _)
      rw [nodup_map_iff_inj_on (hkeys.of_map _)]
      -- all rows carry the same compaction, so the source alone is the key
      intro r hr s hs hsrc
      have hr' := (mem_filter.mp hr).2
      have hs' := (mem_filter.mp hs).2
      simp only [bool_to_prop] at hr' hs'
      refine inj_on_of_nodup_map hkeys hr hs ?_
      exact Prod.ext (hr'.1.trans hs'.1.symm) hsrc
    have hperm : (rows.map ClosureRow.sourceGenerationId).Perm (compactIds (b :: older)) := by
      refine (perm_ext_iff_of_nodup hnd (compactIds_nodup below.nodup)).mpr fun id => ?_
      rw [mem_compactIds, mem_map]
      constructor
      · rintro ⟨r, hr, rfl⟩
        obtain ⟨hmem, hcond⟩ := mem_filter.mp hr
        simp only [bool_to_prop] at hcond
        obtain ⟨hid, hcomp⟩ := hcond
        have hpair : (r.sourceGenerationId, r.sourceDigest) ∈ (b :: older).map sourceDigest := by
          rw [← closure, ← hid]
          exact hmem
        obtain ⟨x, hx, hsrc⟩ := mem_map.mp hpair
        have hxid : x.generationId = r.sourceGenerationId := congrArg Prod.fst hsrc
        rw [← hxid, (below.published_of_mem hx).row] at hcomp
        exact ⟨x, hx, by simpa using hcomp, hxid⟩
      · rintro ⟨x, hx, hcomp, rfl⟩
        have hpair := mem_map_of_mem (f := sourceDigest) hx
        refine ⟨⟨c.generationId, (sourceDigest x).1, (sourceDigest x).2⟩,
          mem_filter.mpr ⟨(closure _ _).mpr hpair, ?_⟩, rfl⟩
        have hrow := (below.published_of_mem hx).row
        simp only [sourceDigest, hrow, Option.any_some, hcomp, decide_true, Bool.and_self]
    rw [Db.closureCompactions, countP_eq_length_filter, ← hrows,
      ← length_map ClosureRow.sourceGenerationId, hperm.length_eq]

/-- A compaction shows for every partition what the head it merged shows. -/
theorem History.answer_compact {c b : Generation} (h : History digests db (c :: b :: older))
    (hkind : c.generationKind = .compact) (artifact : Artifact) (key : String) :
    answer (view db artifact key (c :: b :: older)) =
      answer (view db artifact key (b :: older)) := by
  cases h with
  | lineage _ _ _ kind => rw [kind] at hkind; cases hkind
  | compact _ _ _ _ _ _ _ rows _ =>
    have hview : view db artifact key (c :: b :: older) =
        (kept (view db artifact key (b :: older))).map (.compacted c.generationId) := by
      rw [← rows artifact key]
      cases hrow : db.manifest? c.generationId artifact key with
      | none => exact view_none_of_terminal (by rw [hkind]; decide) hrow
      | some m => exact view_of_manifest hrow
    rw [hview, answer_compacted]

def PartitionResolution.source (r : PartitionResolution) : String × SourceKind × Option String :=
  (r.partitionKey, r.sourceKind, r.actualDataGenerationId)

def SameView (db : Db) (artifact : Artifact) (keys : List String) (head head' : String) : Prop :=
  ∃ found found', resolveProjectionPartitions db artifact keys (some head) {} = .ok found ∧
    resolveProjectionPartitions db artifact keys (some head') {} = .ok found' ∧
    found.1.map PartitionResolution.source = found'.1.map PartitionResolution.source

/-- Reading a published compaction gives what reading the head it merged gives, exactly while
fewer than 64 compactions are among its sources. -/
theorem compaction_preserves_views_iff {protocol : Protocol} {db : Db}
    (hreachable : Reachable protocol db) {compactId base : String} {c : Generation}
    (hrow : db.generations.get? compactId = some c) (hstate : c.state = .published)
    (hkind : c.generationKind = .compact) (hbase : c.compactionBaseGenerationId = some base)
    (artifact : Artifact) {keys : List String} (hkeys : RequestOk keys) (hne : keys ≠ []) :
    SameView db artifact keys compactId base ↔
      db.closureCompactions compactId < maxLineageDepth := by
  obtain ⟨_, h⟩ := hreachable.sound
  obtain rfl := db.generations.key_of_get? hrow
  obtain ⟨-, _, -, hc⟩ :=
    h.chained.suffix_of_mem (h.complete c (db.generations.mem_of_get? hrow) hstate)
  obtain ⟨b, rest, rfl⟩ := hc.older_of_compact hkind
  obtain rfl : b.generationId = base :=
    Option.some.inj ((hc.compactionBase hkind).1.symm.trans hbase)
  have hb : History protocol.digests db (b :: rest) := hc.tail
  obtain ⟨_, hbounded, hbne⟩ := boundedPartitionKeys_exists []
    (by simpa using hkeys.1 : 0 + keys.length ≤ maxPartitionKeys) hkeys.2
  have hcount : (compactIds (c :: b :: rest)).length = (compactIds (b :: rest)).length + 1 := by
    rw [compactIds_cons_compact hkind, length_cons]
  rw [hc.closureCompactions_eq hkind]
  constructor
  · rintro ⟨found, -, hok, -, -⟩
    have hbudget := hc.budget_of_resolve hbounded (hbne (.inl hne)) (contextOk_empty db) hok
    omega
  · intro hbudget
    obtain ⟨found, ctx, hok, -⟩ :=
      hc.resolve_exists (by omega) artifact hkeys (readContext_empty db _)
    obtain ⟨found', ctx', hok', -⟩ :=
      hb.resolve_exists (by omega) artifact hkeys (readContext_empty db _)
    refine ⟨(found, ctx), (found', ctx'), hok, hok', ?_⟩
    obtain ⟨keys₁, hkeys₁, hreading⟩ := hc.resolve_reading hok
    obtain ⟨keys₂, hkeys₂, hreading'⟩ := hb.resolve_reading hok'
    obtain rfl : keys₁ = keys₂ := Except.ok.inj (hkeys₁.symm.trans hkeys₂)
    have hsource : PartitionResolution.source =
        (fun r : Reading => (r.partitionKey, r.source)) ∘ PartitionResolution.reading := rfl
    have hshown : ∀ key, (fun r : Reading => (r.partitionKey, r.source))
        (shown db artifact (c :: b :: rest) key) =
        (fun r : Reading => (r.partitionKey, r.source)) (shown db artifact (b :: rest) key) := by
      intro key
      simp only [shown, hc.answer_compact hkind]
    calc found.map PartitionResolution.source
        = (found.map PartitionResolution.reading).map fun r => (r.partitionKey, r.source) := by
          rw [hsource, map_map]
      _ = (found'.map PartitionResolution.reading).map fun r => (r.partitionKey, r.source) := by
          rw [hreading, hreading', map_map, map_map]
          exact map_congr_left fun key _ => hshown key
      _ = found'.map PartitionResolution.source := by
          rw [hsource, map_map]

/-- The first compaction of the campaign shows what the rebuild below it shows. -/
theorem first_compaction_preserves_view :
    SameView (campaignStart.maintainAll campaignProtocol (campaign 1)) .monthly [campaignMonth]
      (compactIdOf 0) (lineageId 0) := by
  obtain ⟨_, _, h⟩ := campaign_rounds (k := 1) (by decide)
  obtain ⟨hkind, hbase, -⟩ := h.tip 0 rfl
  obtain ⟨_, _, rfl⟩ := h.sound.chained.older_of_compact hkind
  obtain ⟨hrow, hstate⟩ := h.sound.chained.published_of_mem mem_cons_self
  have hcount := h.compactions
  rw [compactIds_cons_compact hkind] at hcount
  rw [h.id] at hrow
  refine (compaction_preserves_views_iff (campaign_reachable 1) hrow hstate hkind hbase .monthly
    campaignMonth_requestOk (by decide)).mpr ?_
  have hclosure := h.sound.chained.closureCompactions_eq hkind
  rw [h.id] at hclosure
  rw [hclosure]
  exact Nat.lt_of_le_of_lt (Nat.le_of_eq (Nat.succ.inj hcount)) (by decide)

/-- The 65th compaction of the campaign is published over the 65th rebuild and does not show what
that rebuild shows: it shows nothing. -/
theorem sixty_fifth_compaction_loses_view :
    (∃ c, (campaignStart.maintainAll campaignProtocol (campaign 65)).generations.get?
        (compactIdOf 64) = some c ∧ c.state = .published ∧ c.generationKind = .compact ∧
        c.compactionBaseGenerationId = some (lineageId 64)) ∧
      ¬ SameView (campaignStart.maintainAll campaignProtocol (campaign 65)) .monthly
        [campaignMonth] (compactIdOf 64) (lineageId 64) := by
  obtain ⟨head, _, h⟩ := campaign_rounds (Nat.le_refl 65)
  obtain ⟨hkind, hbase, -⟩ := h.tip 64 rfl
  obtain ⟨hrow, hstate⟩ := h.sound.chained.published_of_mem mem_cons_self
  rw [h.id] at hrow
  refine ⟨⟨head, hrow, hstate, hkind, hbase⟩, ?_⟩
  rintro ⟨found, -, hok, -, -⟩
  change resolveProjectionPartitions _ _ _ (some (headIdOf 65)) _ = _ at hok
  rw [← h.id] at hok
  exact h.unreadable (by decide) _ hok

end DyData.Projection
