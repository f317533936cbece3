import DyData.ProjectionHeads

/-!
What a compaction computes from the head it merges: its closure names every published
generation below, and its rows are those the merged head shows.
-/

namespace DyData.Projection

open Relational List Option
open Except (of_bind of_ofOption_bind)

variable {artifact : Artifact} {history rows : List Generation} {m : Manifest} {id : String}

@[simp] theorem demand_eq_ok_iff {condition : Bool} {message : String} {u : Unit} :
    demand condition message = .ok u ↔ condition = true :=
  Except.ensure_eq_ok_iff

@[simp] theorem resolved_eq_ok_iff {α : Type} {x : Except LineageError α} {message : String}
    {a : α} : resolved x message = .ok a ↔ x = .ok a :=
  Except.mapError_eq_ok_iff

theorem pairwise_sortBySource (sources : List (String × String)) :
    (sources.mergeSort fun a b => decide (a.1 ≤ b.1)).Pairwise fun a b => a.1 ≤ b.1 := by
  have htrans : ∀ a b c : String × String, decide (a.1 ≤ b.1) = true →
      decide (b.1 ≤ c.1) = true → decide (a.1 ≤ c.1) = true := by
    intro a b c hab hbc
    exact decide_eq_true (String.le_trans (of_decide_eq_true hab) (of_decide_eq_true hbc))
  have htot : ∀ a b : String × String, (decide (a.1 ≤ b.1) || decide (b.1 ≤ a.1)) = true := by
    intro a b
    simpa using String.le_total a.1 b.1
  exact (pairwise_mergeSort htrans htot sources).imp fun hab => of_decide_eq_true hab

/-- The chain is the history down to its newest compaction, or all of it. -/
theorem History.chain_split {digests : Digests} {db : Db} (h : History digests db history) :
    ∃ newer t below, history = newer ++ t :: below ∧ chain history = newer ++ [t] ∧
      History digests db (t :: below) ∧ (t.generationKind ≠ .compact → below = []) := by
  obtain ⟨g, older, rfl⟩ := exists_cons_of_ne_nil h.ne_nil
  induction g, older, h using History.chain_induction with
  | @terminal g older h kind =>
    refine ⟨[], g, older, rfl, chain_terminal kind, h, fun hne => ?_⟩
    cases h with
    | root => rfl
    | lineage _ _ _ hkind => exact absurd hkind kind
    | compact _ _ _ hkind => exact absurd hkind hne
  | @lineage g b older below h fresh kind base depth bound ih =>
    obtain ⟨newer, t, rest, hspl, hchn, hblw, hend⟩ := ih
    refine ⟨g :: newer, t, rest, ?_, ?_, hblw, hend⟩
    · rw [hspl, cons_append]
    · rw [chain_lineage kind, hchn, cons_append]

theorem terminalCompact?_append (newer : List Generation) (t : Generation) :
    terminalCompact? (newer ++ [t]) = if t.generationKind = .compact then some t else none := by
  rw [terminalCompact?]
  by_cases hkind : t.generationKind = .compact
  · simp [hkind]
  · simp [hkind]

/-- The closure inherited from the terminal compaction: the generations below the chain. -/
theorem History.inheritedSources_perm {digests : Digests} {db : Db}
    {newer below : List Generation} {t : Generation} (hblw : History digests db (t :: below))
    (hend : t.generationKind ≠ .compact → below = []) {inherited : List (String × String)}
    (hok : inheritedSources db (newer ++ [t]) = .ok inherited) :
    inherited.Perm (below.map sourceDigest) := by
  rw [inheritedSources, terminalCompact?_append] at hok
  by_cases hkind : t.generationKind = .compact
  · rw [if_pos hkind] at hok
    obtain ⟨⟨closure, _⟩, hres, rfl⟩ := Except.map_eq_ok_iff.mp hok
    rw [resolved_eq_ok_iff] at hres
    have hopen := verifiedClosure_opened provenanceFuel (contextOk_empty db)
      (List.Subset.refl _) hres
    obtain ⟨_, _, rfl⟩ := hblw.older_of_compact hkind
    obtain ⟨closure', hcl', -, -, hperm⟩ :=
      hblw.closure_ok hkind inheritedCompactStates (by decide)
    obtain rfl : closure = closure' := Except.ok.inj (hopen.closure.symm.trans hcl')
    exact hperm.map sourceDigest
  · rw [if_neg hkind] at hok
    rw [hend hkind, ← Except.ok.inj hok]
    exact Perm.refl _

/-- The provenance of a compaction of the head: every generation of the history, in order. -/
theorem History.provenance_perm {digests : Digests} {db : Db} (h : History digests db history)
    {closure : List (String × String)}
    (hok : compactionProvenanceRows db (chain history) = .ok closure) :
    closure.Perm (history.map sourceDigest) ∧ closure.length ≤ maxCompactProvenanceSources ∧
      closure.Pairwise fun a b => a.1 ≤ b.1 := by
  obtain ⟨newer, t, below, hspl, hchn, hblw, hend⟩ := h.chain_split
  rw [hchn] at hok
  obtain ⟨inherited, hinh, hok⟩ := of_bind hok
  obtain ⟨_, -, hok⟩ := of_bind hok
  obtain ⟨_, hbd, hok⟩ := of_bind hok
  rw [demand_eq_ok_iff, decide_eq_true_eq] at hbd
  have hperm := hblw.inheritedSources_perm hend hinh
  -- the chain names none of the generations below it
  have hfilt : (inherited.filter fun source =>
      source.1 ∉ ((newer ++ [t]).map sourceDigest).map Prod.fst) = inherited := by
    rw [filter_eq_self]
    intro source hsrc
    obtain ⟨x, hx, rfl⟩ := List.mem_map.mp (hperm.mem_iff.mp hsrc)
    have hnd := h.nodup
    rw [hspl, append_cons, ids, map_append] at hnd
    have hdisj := nodup_append.mp hnd
    rw [decide_eq_true_eq]
    intro hmem
    obtain ⟨_, hpair, hfst⟩ := List.mem_map.mp hmem
    obtain ⟨y, hy, rfl⟩ := List.mem_map.mp hpair
    exact hdisj.2.2 y.generationId (List.mem_map_of_mem hy) x.generationId
      (List.mem_map_of_mem hx) hfst
  rw [hfilt] at hok hbd
  cases hok
  have hsrcs : ((newer ++ [t]).map sourceDigest ++ inherited).Perm
      (history.map sourceDigest) := by
    have hall : history.map sourceDigest =
        (newer ++ [t]).map sourceDigest ++ below.map sourceDigest := by
      rw [hspl, append_cons newer t below, map_append]
    rw [hall]
    exact hperm.append_left _
  refine ⟨(mergeSort_perm _ _).trans hsrcs, ?_, ?_⟩
  · rw [length_mergeSort]
    exact hbd
  · exact pairwise_sortBySource _

section Payloads

variable {digests : Digests} {db : Db} {g : Generation} {older : List Generation}

def Faithful (db : Db) (history : List Generation) (r : PartitionResolution) : Prop :=
  r.reading = shown db r.artifact history r.partitionKey

theorem faithful_of_reading {found : List PartitionResolution} {keys : List String}
    (h : found.map PartitionResolution.reading = keys.map (shown db artifact history)) :
    ∀ r ∈ found, Faithful db history r := by
  intro r hr
  have hmem : r.reading ∈ keys.map (shown db artifact history) := by
    rw [← h]
    exact List.mem_map_of_mem hr
  obtain ⟨key, -, hkey⟩ := List.mem_map.mp hmem
  have hart : r.artifact = artifact := (congrArg Reading.artifact hkey).symm
  have hpart : r.partitionKey = key := (congrArg Reading.partitionKey hkey).symm
  rw [Faithful, hart, hpart]
  exact hkey.symm

theorem resolvePage_faithful (h : History digests db (g :: older))
    {page : List (Artifact × String)} {result : List PartitionResolution × ProvenanceContext}
    (hok : resolvePage db g.generationId page = .ok result) :
    ∀ r ∈ result.1, Faithful db (g :: older) r := by
  refine Except.foldlM_ok
    (P := fun (t : List PartitionResolution × ProvenanceContext) =>
      ∀ r ∈ t.1, Faithful db (g :: older) r) hok nofun ?_
  intro artifact _ t t' ht hstep
  unfold resolveArtifact at hstep
  dsimp only at hstep
  split at hstep
  · cases hstep
    exact ht
  · obtain ⟨⟨_, _⟩, hfd, hstep⟩ := of_bind hstep
    rw [resolved_eq_ok_iff] at hfd
    obtain ⟨_, -, hrdg⟩ := h.resolve_reading hfd
    cases hstep
    intro r hr
    rcases mem_append.mp hr with hr | hr
    · exact ht r hr
    · exact faithful_of_reading hrdg r hr

theorem view_mem {key : String} (hview : view db artifact key history = some m) :
    m.generationId ∈ ids (chain history) ∧ db.manifest? m.generationId artifact key = some m := by
  rw [← nearestManifest_chain db artifact key 0] at hview
  obtain ⟨⟨_, _, row⟩, hnear, hrow⟩ := map_eq_some_iff.mp hview
  obtain rfl : row = m := hrow
  obtain ⟨hown, hman⟩ := nearestManifest_owner hnear
  rw [(Db.mem_of_manifest? hman).2.1]
  exact ⟨List.mem_map_of_mem hown, hman⟩

/-- The resolution found for a partition says what the history shows of it. -/
theorem resolution_found {resolutions : List PartitionResolution}
    (hfai : ∀ r ∈ resolutions, Faithful db history r) {key : String} {r : PartitionResolution}
    (hr : resolutions.find? (fun r => r.artifact = artifact && r.partitionKey = key) = some r) :
    (r.sourceKind, r.actualDataGenerationId) = answer (view db artifact key history) ∧
      r.nearestManifestOwnerGeneration =
        (view db artifact key history).map Manifest.generationId := by
  have hpart := find?_some hr
  simp only [bool_to_prop] at hpart
  have hrdg := hfai r (mem_of_find?_eq_some hr)
  rw [Faithful, hpart.1, hpart.2] at hrdg
  exact ⟨congrArg Reading.source hrdg, congrArg Reading.owner hrdg⟩

theorem sourcePayload_eq {resolutions : List PartitionResolution}
    (hfai : ∀ r ∈ resolutions, Faithful db history r) {partition : Artifact × String}
    {payload : Option Manifest} (hok : sourcePayload db rows resolutions partition = .ok payload) :
    payload = kept (view db partition.1 partition.2 history) := by
  obtain ⟨artifact, key⟩ := partition
  obtain ⟨_, hr, hok⟩ := of_ofOption_bind hok
  obtain ⟨hsrc, hown⟩ := resolution_found hfai hr
  split at hok
  · -- legacy partitions are left to the fallback
    rename_i hleg
    cases hok
    cases hview : view db artifact key history with
    | none => rfl
    | some m =>
      rw [hview] at hsrc
      have hm : m.sourceKind = .legacyRoot := (congrArg Prod.fst hsrc).symm.trans hleg
      rw [kept, filter_some_neg (by simp [hm])]
  · rename_i hleg
    obtain ⟨_, hsome, hok⟩ := of_ofOption_bind hok
    obtain ⟨source, hrow, hok⟩ := of_ofOption_bind hok
    rw [hsome] at hown
    obtain ⟨m, hview, hid⟩ := map_eq_some_iff.mp hown.symm
    obtain rfl : source = m := by
      have hm := (view_mem hview).2
      rw [hid] at hm
      exact mem_unique hrow hm
    have hkind : source.sourceKind ≠ .legacyRoot := by
      rw [hview] at hsrc
      intro hs
      exact hleg ((congrArg Prod.fst hsrc).trans hs)
    have hsame : payload = some source := by
      iterate 4 obtain ⟨_, -, hok⟩ := of_bind hok
      cases hok
      rfl
    rw [hsame, hview, kept, filter_some_pos (by simpa using hkind)]

theorem sourcePayloadPage_eq (h : History digests db (g :: older)) {page : List (Artifact × String)}
    {payloads : List Manifest} (hok : sourcePayloadPage db g.generationId rows page = .ok payloads) :
    payloads = page.filterMap fun p => kept (view db p.1 p.2 (g :: older)) := by
  obtain ⟨⟨_, _⟩, hpage, hok⟩ := of_bind hok
  obtain ⟨_, -, hok⟩ := of_bind hok
  obtain ⟨_, hfd, hok⟩ := of_bind hok
  have hkept := Except.eq_map_of_mapM_ok hfd
    (fun p => kept (view db p.1 p.2 (g :: older)))
    fun p payload hp => sourcePayload_eq (resolvePage_faithful h hpage) hp
  cases hok
  rw [hkept, filterMap_map]
  rfl

theorem flatten_pages {α : Type} {size : Nat} (hsize : 0 < size) (fuel : Nat) (items : List α)
    (hfuel : items.length ≤ fuel) : (pages size fuel items).flatten = items := by
  induction fuel generalizing items with
  | zero =>
    rw [length_eq_zero_iff.mp (Nat.le_zero.mp hfuel)]
    rfl
  | succ fuel ih =>
    rw [pages]
    split
    · rename_i hnil
      rw [List.isEmpty_iff.mp hnil]
      rfl
    · have hdrop : (items.drop size).length ≤ fuel := by
        rw [length_drop]
        omega
      rw [flatten_cons, ih _ hdrop, take_append_drop]

def keptRows (db : Db) (history : List Generation) : List Manifest :=
  (lineagePartitions db (chain history)).filterMap fun p => kept (view db p.1 p.2 history)

theorem compactionPayloads_eq (h : History digests db (g :: older)) {batchSize : Nat}
    (hbat : 0 < batchSize) {payloads : List Manifest}
    (hok : compactionPayloads db g.generationId (chain (g :: older)) batchSize = .ok payloads) :
    payloads = keptRows db (g :: older) := by
  obtain ⟨_, hfd, hok⟩ := of_bind hok
  cases hok
  rw [keptRows]
  have hpages := Except.eq_map_of_mapM_ok hfd
    (fun page => page.filterMap fun p => kept (view db p.1 p.2 (g :: older)))
    fun page payloads hp => sourcePayloadPage_eq h hp
  rw [hpages, ← filterMap_flatten, flatten_pages hbat _ _ (Nat.le_refl _)]

theorem mem_keptRows :
    m ∈ keptRows db history ↔ kept (view db m.artifact m.partitionKey history) = some m := by
  unfold keptRows
  rw [mem_filterMap]
  constructor
  · rintro ⟨⟨artifact, key⟩, -, hkept⟩
    obtain ⟨hview, -⟩ := filter_eq_some_iff.mp hkept
    obtain ⟨-, -, hart, hkey⟩ := Db.mem_of_manifest? (view_mem hview).2
    rw [hart, hkey]
    exact hkept
  · intro hkept
    refine ⟨(m.artifact, m.partitionKey), ?_, hkept⟩
    obtain ⟨hview, -⟩ := filter_eq_some_iff.mp hkept
    obtain ⟨hid, hrow⟩ := view_mem hview
    unfold lineagePartitions
    rw [mem_mergeSort, mem_dedup]
    refine List.mem_map_of_mem (f := Manifest.partition) (mem_filter.mpr ?_)
    exact ⟨(Db.mem_of_manifest? hrow).1, decide_eq_true hid⟩

end Payloads

theorem mem_manifestsOf {db : Db} :
    m ∈ db.manifestsOf id ↔ m ∈ db.manifests.rows ∧ m.generationId = id := by
  unfold Db.manifestsOf
  rw [mem_mergeSort, mem_filter, decide_eq_true_eq]

/-- A compaction with the rows of the merged head shows what that head shows. -/
theorem manifest?_of_keptRows {db : Db}
    (hrows : db.manifestsOf id = (keptRows db history).map (.compacted id)) (artifact : Artifact)
    (key : String) :
    db.manifest? id artifact key = (kept (view db artifact key history)).map (.compacted id) := by
  refine Option.ext fun m => ?_
  constructor
  · intro hm
    obtain ⟨hmem, hid, rfl, rfl⟩ := Db.mem_of_manifest? hm
    have hlist : m ∈ db.manifestsOf id := mem_manifestsOf.mpr ⟨hmem, hid⟩
    rw [hrows] at hlist
    obtain ⟨source, hsrc, rfl⟩ := List.mem_map.mp hlist
    exact map_eq_some_iff.mpr ⟨source, mem_keptRows.mp hsrc, rfl⟩
  · intro hm
    obtain ⟨source, hkept, rfl⟩ := map_eq_some_iff.mp hm
    obtain ⟨hview, -⟩ := filter_eq_some_iff.mp hkept
    obtain ⟨-, -, hart, hkey⟩ := Db.mem_of_manifest? (view_mem hview).2
    have hlist : source.compacted id ∈ db.manifestsOf id := by
      rw [hrows]
      refine List.mem_map_of_mem (mem_keptRows.mpr ?_)
      rw [hart, hkey]
      exact hkept
    refine db.manifests.get?_eq_some_iff.mpr ⟨(mem_manifestsOf.mp hlist).1, ?_⟩
    change (id, source.artifact, source.partitionKey) = (id, artifact, key)
    rw [hart, hkey]

/-- The lineage a compaction of the active head loads is the chain of the head. -/
theorem History.loadCompactionLineage_eq {digests : Digests} {db : Db} {b : Generation}
    {older : List Generation} (h : History digests db (b :: older))
    (hact : db.active = some (some b.generationId)) {base : String}
    (hok : loadCompactionLineage digests db base = .ok rows) :
    base = b.generationId ∧ rows = chain (b :: older) := by
  obtain ⟨_, hbase, hok⟩ := of_bind hok
  rw [demand_eq_ok_iff, hact, decide_eq_true_eq] at hbase
  obtain rfl : b.generationId = base := some.inj hbase
  refine ⟨rfl, ?_⟩
  have hdep := h.length_chain.2
  rw [← h.lineageRows_eq_chain (by omega : b.lineageDepth < maxLineageDepth + 2)]
  generalize lineageRows db (maxLineageDepth + 2) (some b.generationId) = loaded at hok
  cases loaded with
  | nil => cases hok
  | cons head rest =>
    iterate 3 obtain ⟨_, -, hok⟩ := of_bind hok
    split at hok
    · cases hok
      rfl
    · obtain ⟨_, -, hok⟩ := of_bind hok
      cases hok
      rfl

/-- The closure rows of a compaction, when they are exactly the expected ones. -/
theorem mem_closure_of_closureRows {db : Db} {closure : List (String × String)}
    (hrows : (closureRows db id).map (fun r => (r.sourceGenerationId, r.sourceDigest)) = closure)
    (hbd : closure.length ≤ maxCompactProvenanceSources) (source digest : String) :
    (⟨id, source, digest⟩ : ClosureRow) ∈ db.closure.rows ↔ (source, digest) ∈ closure := by
  have hlen : (closureRows db id).length ≤ maxCompactProvenanceSources := by
    rw [← hrows, length_map] at hbd
    exact hbd
  -- the query asks for one row more than allowed, so nothing was cut off
  have hall : (db.closure.rows.filter fun r => r.compactGenerationId = id).length ≤
      maxCompactProvenanceSources := by
    rw [closureRows, length_take, length_mergeSort] at hlen
    omega
  rw [← hrows, List.mem_map]
  constructor
  · intro hmem
    exact ⟨_, (mem_closureRows hall).mpr ⟨hmem, rfl⟩, rfl⟩
  · rintro ⟨r, hr, hpair⟩
    obtain ⟨hmem, hid⟩ := (mem_closureRows hall).mp hr
    obtain ⟨hsrc, hdig⟩ := Prod.mk.inj hpair
    rw [← hid, ← hsrc, ← hdig]
    exact hmem

structure Verified (digests : Digests) (db : Db) (g b : Generation) (older : List Generation) :
    Prop where
  base : g.compactionBaseGenerationId = some b.generationId
  closure : ∀ source digest, (⟨g.generationId, source, digest⟩ : ClosureRow) ∈ db.closure.rows ↔
    (source, digest) ∈ (b :: older).map sourceDigest
  bound : (b :: older).length ≤ maxCompactProvenanceSources
  rows : ∀ artifact key, db.manifest? g.generationId artifact key =
    (kept (view db artifact key (b :: older))).map (.compacted g.generationId)
  digest : g.manifestChecksum = some (digests.compactionChecksum
    ((db.manifestsOf g.generationId).map Manifest.compactionValue))

theorem History.reverify_ok {digests : Digests} {db : Db} {b : Generation} {older : List Generation}
    (h : History digests db (b :: older)) (hact : db.active = some (some b.generationId))
    {g : Generation} (hg : db.generations.get? g.generationId = some g)
    (hbat : ∀ n, intField g.checkpointJson "batch_size" = some n → 1 ≤ n)
    (hok : reverifyReadyCompactionPublication digests db g.generationId = .ok ()) :
    Verified digests db g b older := by
  unfold reverifyReadyCompactionPublication at hok
  obtain ⟨_, hg', hok⟩ := of_bind hok
  rw [Except.ofOption_eq_ok_iff, hg] at hg'
  obtain rfl := some.inj hg'
  obtain ⟨_, -, hok⟩ := of_bind hok
  obtain ⟨_, hbase, hok⟩ := of_ofOption_bind hok
  obtain ⟨_, hrows, hok⟩ := of_bind hok
  obtain ⟨_, hcl, hok⟩ := of_bind hok
  obtain ⟨_, -, hok⟩ := of_bind hok
  obtain ⟨batchSize, hsize, hok⟩ := of_ofOption_bind hok
  obtain ⟨_, -, hok⟩ := of_bind hok
  obtain ⟨_, hpays, hok⟩ := of_bind hok
  obtain ⟨rfl, rfl⟩ := h.loadCompactionLineage_eq hact hrows
  obtain ⟨hperm, hbd, -⟩ := h.provenance_perm hcl
  have hpos : 0 < batchSize.toNat := by
    have := hbat batchSize hsize
    omega
  have hkept := compactionPayloads_eq h hpos hpays
  unfold verifyCompactionReady at hok
  iterate 3 obtain ⟨_, -, hok⟩ := of_bind hok
  obtain ⟨_, hrdy, hok⟩ := of_bind hok
  obtain ⟨_, -, hok⟩ := of_bind hok
  obtain ⟨_, hmans, hok⟩ := of_bind hok
  obtain ⟨_, hsum, hok⟩ := of_bind hok
  simp only [demand_eq_ok_iff, bool_to_prop] at hrdy hmans hsum hok
  rw [hkept] at hmans
  refine ⟨(filter_eq_some_iff.mp hbase).1, ?_, ?_, manifest?_of_keptRows hmans, ?_⟩
  · intro source digest
    rw [mem_closure_of_closureRows hok hbd, hperm.mem_iff]
  · rw [hperm.length_eq, length_map] at hbd
    exact hbd
  · rw [hrdy.2, hsum]

end DyData.Projection
