import DyData.ProjectionRebuild

/-!
The settlement head over whole runs.  Whatever rebuilds, compactions and publications happen
after a legacy head, the published generations form one history whose newest generation is the
active head.
-/

namespace DyData.Projection

open Relational List
open Except (of_bind)
open DyData.HeavyQueue (Timestamp)

variable {g : Generation} {protocol : Protocol} {now : Timestamp}

structure Pending (digests : Digests) (db : Db) (history : List Generation) (g : Generation) :
    Prop where
  kind : g.generationKind = .lineage
  base : ∃ b ∈ history, g.baseGenerationId = some b.generationId ∧
    g.lineageDepth = b.lineageDepth + 1
  bound : g.lineageDepth ≤ maxLineageDepth
  built : Built digests db g

structure Sound (digests : Digests) (db : Db) (history : List Generation) : Prop where
  chained : History digests db history
  active : db.active = some (history.head?.map Generation.generationId)
  complete : ∀ g ∈ db.generations.rows, g.state = .published → g ∈ history
  pending : ∀ g ∈ db.generations.rows, g.state ≠ .published → g.generationKind ≠ .compact →
    Pending digests db history g

theorem LegacyHead.sound {digests : Digests} {db : Db} {root : Generation}
    (h : LegacyHead digests db root) : Sound digests db [root] where
  chained := .root ⟨h.row, h.state⟩ h.kind h.manifests h.digest
  active := h.active
  complete := fun g hg _ => mem_singleton.mpr (h.alone g hg)
  pending := fun g hg hstt _ => absurd (h.alone g hg ▸ h.state) hstt

namespace Sound

variable {digests : Digests} {db db' : Db} {history : List Generation}

section

variable (h : Sound digests db history)
include h

/-- A generation of the history is not the one a builder writes. -/
theorem ne_of_unpublished {id : String}
    (hold : ∀ old, db.generations.get? id = some old → old.state ≠ .published) {x : Generation}
    (hx : x ∈ history) : x.generationId ≠ id := by
  obtain ⟨hrow, hstt⟩ := h.chained.published_of_mem hx
  intro he
  exact hold x (he ▸ hrow) hstt

theorem eq_of_id {x y : Generation} (hx : x ∈ history) (hy : y ∈ history)
    (hid : x.generationId = y.generationId) : x = y := by
  have hxrow := (h.chained.published_of_mem hx).row
  rw [hid, (h.chained.published_of_mem hy).row] at hxrow
  exact (Option.some.inj hxrow).symm

/-- Operations that touch neither generations nor their rows keep the invariant. -/
theorem congr (hgens : db'.generations = db.generations) (hact : db'.active = db.active)
    (hmans : db'.manifests = db.manifests) (hcl : db'.closure = db.closure)
    (hover : db'.overlays = db.overlays) :
    Sound digests db' history := by
  have hsame : ∀ id, SameRows db db' id := by
    intro id
    refine ⟨⟨by rw [hmans], by rw [hcl], fun artifact key => ?_⟩, by rw [hgens]⟩
    rw [Db.presentCount, Db.presentCount, hover]
  refine ⟨h.chained.frame fun x _ => hsame x.generationId, hact.trans h.active, ?_, ?_⟩
  · rw [hgens]
    exact h.complete
  · rw [hgens]
    intro g hg hstt hkind
    obtain ⟨hlin, hbase, hbd, hblt⟩ := h.pending g hg hstt hkind
    exact ⟨hlin, hbase, hbd, hblt.frame (hsame _).toSameContent⟩

/-- A builder keeps the invariant when the lineage it leaves is complete. -/
theorem write {manifests : List Manifest} {closure : List ClosureRow} {overlays : List OverlayRow}
    (hwrote : Wrote db db' g manifests closure overlays)
    (hpend : g.generationKind ≠ .compact → Pending digests db' history g) :
    Sound digests db' history := by
  refine ⟨h.chained.frame fun x hx => hwrote.others _ (h.ne_of_unpublished hwrote.old hx),
    hwrote.active.trans h.active, ?_, ?_⟩
  · intro x hx hstt
    rcases (hwrote.rows x).mp hx with rfl | ⟨hx, -⟩
    · exact absurd hstt hwrote.unpublished
    · exact h.complete x hx hstt
  · intro x hx hstt hkind
    rcases (hwrote.rows x).mp hx with rfl | ⟨hx, hne⟩
    · exact hpend hkind
    · obtain ⟨hlin, hbase, hbd, hblt⟩ := h.pending x hx hstt hkind
      exact ⟨hlin, hbase, hbd, hblt.frame (hwrote.others _ hne).toSameContent⟩

theorem promote (hrow : db.generations.get? g.generationId = some g)
    (hhist : History digests (db.promote g.generationId now) (g.publish now :: history)) :
    Sound digests (db.promote g.generationId now) (g.publish now :: history) := by
  refine ⟨hhist, rfl, ?_, ?_⟩
  · intro x hx hstt
    rcases mem_promote.mp hx with ⟨hx, -⟩ | ⟨old, hold, hid, rfl⟩
    · exact mem_cons_of_mem _ (h.complete x hx hstt)
    · have hsame : old = g := db.generations.eq_of_key_eq hold (db.generations.mem_of_get? hrow) hid
      rw [hsame]
      exact mem_cons_self
  · intro x hx hstt hkind
    rcases mem_promote.mp hx with ⟨hx, hne⟩ | ⟨old, -, -, rfl⟩
    · obtain ⟨hlin, ⟨b, hb, hbase⟩, hbd, hblt⟩ := h.pending x hx hstt hkind
      exact ⟨hlin, ⟨b, mem_cons_of_mem _ hb, hbase⟩, hbd, hblt.frame (sameContent_promote _)⟩
    · exact absurd rfl hstt

theorem fresh_of_ready (hrow : db.generations.get? g.generationId = some g)
    (hrdy : g.state = .ready) :
    g.state ≠ .published ∧ (∀ x ∈ history, x.generationId ≠ g.generationId) ∧
      g.generationId ∉ ids history := by
  have hunp : g.state ≠ .published := by rw [hrdy]; decide
  have hne : ∀ x ∈ history, x.generationId ≠ g.generationId := fun x hx =>
    h.ne_of_unpublished (fun old hold => by rw [hrow] at hold; cases hold; exact hunp) hx
  refine ⟨hunp, hne, fun hmem => ?_⟩
  obtain ⟨x, hx, hid⟩ := mem_map.mp hmem
  exact hne x hx hid

end

theorem promote_lineage {b : Generation} {older : List Generation}
    (h : Sound digests db (b :: older)) (hrow : db.generations.get? g.generationId = some g)
    (hrdy : g.state = .ready) (hkind : g.generationKind = .lineage)
    (hbase : g.baseGenerationId = some b.generationId) :
    Sound digests (db.promote g.generationId now) (g.publish now :: b :: older) := by
  obtain ⟨hunp, hne, hfr⟩ := h.fresh_of_ready hrow hrdy
  obtain ⟨-, ⟨b', hb', hbase', hdep⟩, hbd, hblt⟩ :=
    h.pending g (db.generations.mem_of_get? hrow) hunp (by rw [hkind]; decide)
  obtain rfl : b' = b := h.eq_of_id hb' mem_cons_self
    (Option.mem_unique hbase' hbase)
  refine h.promote hrow (.lineage (h.chained.frame fun x hx => sameRows_promote (hne x hx))
    (promote_row hrow) hfr hkind hbase hdep hbd ?_)
  exact (hblt.frame (sameContent_promote _)).publish now

theorem promote_compact {b : Generation} {older : List Generation}
    (h : Sound digests db (b :: older)) (hrow : db.generations.get? g.generationId = some g)
    (hrdy : g.state = .ready) (hkind : g.generationKind = .compact)
    (hver : Verified digests db g b older) :
    Sound digests (db.promote g.generationId now) (g.publish now :: b :: older) := by
  obtain ⟨-, hne, hfr⟩ := h.fresh_of_ready hrow hrdy
  refine h.promote hrow (.compact (h.chained.frame fun x hx => sameRows_promote (hne x hx))
    (promote_row hrow) hfr hkind hver.base hver.closure hver.bound ?_
    hver.digest)
  intro artifact key
  rw [view_frame fun x _ => sameContent_promote x.generationId]
  exact hver.rows artifact key

end Sound

theorem batchSize_of_checkpoint {checkpoint : JsonValue} {base checksum : String}
    (h : checkCompactionCheckpoint checkpoint base checksum = .ok ()) {n : Int}
    (hn : intField checkpoint "batch_size" = some n) : 1 ≤ n := by
  unfold checkCompactionCheckpoint at h
  obtain ⟨_, -, h⟩ := of_bind h
  obtain ⟨_, hsize, h⟩ := of_bind h
  obtain ⟨_, hboun, h⟩ := of_bind h
  simp only [require_eq_ok_iff, bool_to_prop] at hboun
  rw [intField] at hn
  rw [strictInt, hn] at hsize
  simp only [Bool.false_eq_true, false_and, if_false, Except.ok.injEq] at hsize
  rw [hsize]
  exact hboun.1

theorem Sound.publish {db db' : Db} {history : List Generation}
    (h : Sound protocol.digests db history) {p : Publication}
    (hret : p.Returned protocol.context db db') :
    ∃ history', Sound protocol.digests db' history' := by
  obtain ⟨-, hev, g, promoted, _, hrow, -, hprom, -, hrec⟩ := hret
  have hev := hev g hrow
  have hid := db.generations.key_of_get? hrow
  rw [← hid] at hrow
  suffices hpromo : ∃ history', Sound protocol.digests promoted history' by
    obtain ⟨history', hsnd⟩ := hpromo
    refine ⟨history', ?_⟩
    rcases hrec with ⟨-, rfl⟩ | ⟨-, e, -, -, rfl⟩
    · exact hsnd
    · exact hsnd.congr rfl rfl rfl rfl rfl
  rcases hprom with ⟨-, -, rfl⟩ | ⟨base, now, hbase, hact, hrdy, rfl⟩
  · exact ⟨history, h⟩
  obtain ⟨b, older, rfl⟩ := exists_cons_of_ne_nil h.chained.ne_nil
  obtain rfl : b.generationId = base :=
    Option.some.inj (Option.mem_unique h.active hact)
  refine ⟨g.publish now :: b :: older, ?_⟩
  have hlin : g.generationKind = .lineage →
      Sound protocol.digests (db.promote g.generationId now) (g.publish now :: b :: older) := by
    intro hkind
    rw [Generation.recordedBase, hkind] at hbase
    exact h.promote_lineage hrow hrdy hkind hbase
  cases p with
  | finalize m jobId stage => exact hlin hev
  | rebuild p => exact hlin hev
  | compaction p =>
    obtain ⟨hkind, ⟨_, _, hcp⟩, hver⟩ := hev
    have hrev := hver.resolve_left (by rw [hrdy]; decide)
    exact h.promote_compact hrow hrdy hkind (h.chained.reverify_ok hact hrow
      (fun n hn => batchSize_of_checkpoint hcp hn) (Except.mapError_eq_ok_iff.mp hrev))

/-- The other builders leave rows of an unpublished compaction, or nothing. -/
theorem compactProjectionMetadata_wrote {digests : Digests} {args : CompactionArguments}
    {db db' : Db} {base : String} (h : compactProjectionMetadata digests args db base = .ok db') :
    db' = db ∨ ∃ g manifests closure, g.generationKind = .compact ∧
      Wrote db db' g manifests closure [] := by
  unfold compactProjectionMetadata at h
  split at h
  · cases h
    exact .inl rfl
  · obtain ⟨_, -, h⟩ := of_bind h
    obtain ⟨_, -, h⟩ := of_bind h
    split at h
    · cases h
      exact .inl rfl
    · obtain ⟨_, -, h⟩ := of_bind h
      obtain ⟨_, -, h⟩ := of_bind h
      dsimp only at h
      split at h
      · cases h
        exact .inl rfl
      · rw [Except.ofOption_eq_ok_iff] at h
        exact .inr ⟨_, _, _, rfl, writeGeneration_ok h⟩

theorem stageCompaction_wrote (db : Db) (g : Generation) (manifests : List Manifest)
    (closure : List ClosureRow) :
    db.stageCompaction g manifests closure = db ∨ g.generationKind = .compact ∧
      Wrote db (db.stageCompaction g manifests closure) g manifests closure [] := by
  unfold Db.stageCompaction
  split
  · rename_i hkind
    cases hwr : db.writeGeneration g manifests closure [] with
    | none => exact .inl rfl
    | some db' => exact .inr ⟨hkind, writeGeneration_ok hwr⟩
  · exact .inl rfl

theorem Sound.rebuild {digests : Digests} {db db' : Db} {history : List Generation}
    (h : Sound digests db history) {input : RebuildInput}
    (hbld : buildSettlementSparseOverlay digests db input = .ok db') :
    Sound digests db' history := by
  obtain ⟨-, base, hrow, hstt, hdep, hwr⟩ := buildSettlementSparseOverlay_ok hbld
  have hwrote := writeGeneration_ok hwr
  refine h.write hwrote fun _ => ⟨rfl, ⟨base, ?_, ?_, rfl⟩, hdep, Rebuilt.built hwrote⟩
  · exact h.complete base (db.generations.mem_of_get? hrow) hstt
  · rw [db.generations.key_of_get? hrow]
    rfl

theorem Sound.maintain {db : Db} {history : List Generation} (h : Sound protocol.digests db history)
    (action : MaintenanceAction) :
    ∃ history', Sound protocol.digests (db.maintain protocol action) history' := by
  cases action with
  | rebuild input =>
    change ∃ history', Sound protocol.digests
      (db.orUnchanged (buildSettlementSparseOverlay protocol.digests db input)) history'
    cases hbld : buildSettlementSparseOverlay protocol.digests db input with
    | error e => exact ⟨history, h⟩
    | ok db' => exact ⟨history, h.rebuild hbld⟩
  | compact arguments base =>
    change ∃ history', Sound protocol.digests
      (db.orUnchanged (compactProjectionMetadata protocol.digests arguments db base)) history'
    cases hbld : compactProjectionMetadata protocol.digests arguments db base with
    | error e => exact ⟨history, h⟩
    | ok db' =>
      rcases compactProjectionMetadata_wrote hbld with rfl | ⟨g, _, _, hkind, hwrote⟩
      · exact ⟨history, h⟩
      · exact ⟨history, h.write hwrote fun hne => absurd hkind hne⟩
  | stageCompaction g manifests closure =>
    change ∃ history', Sound protocol.digests (db.stageCompaction g manifests closure) history'
    rcases stageCompaction_wrote db g manifests closure with hsame | ⟨hkind, hwrote⟩
    · refine ⟨history, ?_⟩
      rw [hsame]
      exact h
    · exact ⟨history, h.write hwrote fun hne => absurd hkind hne⟩
  | publish p clock =>
    change ∃ history', Sound protocol.digests
      (db.orUnchanged (p.run protocol.context clock db)) history'
    cases hrun : p.run protocol.context clock db with
    | error e => exact ⟨history, h⟩
    | ok db' => exact h.publish (Publication.run_ok hrun)
  | putJob job => exact ⟨history, h.congr rfl rfl rfl rfl rfl⟩

theorem Sound.maintainAll {db : Db} {history : List Generation}
    (h : Sound protocol.digests db history) (actions : List MaintenanceAction) :
    ∃ history', Sound protocol.digests (db.maintainAll protocol actions) history' := by
  induction actions generalizing db history with
  | nil => exact ⟨history, h⟩
  | cons action actions ih =>
    obtain ⟨_, hnext⟩ := h.maintain action
    exact ih hnext

end DyData.Projection
