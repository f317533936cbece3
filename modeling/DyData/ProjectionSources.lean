import DyData.ProjectionHeads

/-!
What the resolver says of a partition, for any head it returns an answer for: the source of the
nearest manifest on the chain of the head.  It answers on sound chains only.
-/

namespace DyData.Projection

open Relational List
open PythonText (strip)
open Except (of_bind pure_eq_ok_iff)

variable {keys : List String} {pinned : String}

variable {db db' : Db} {artifact : Artifact} {n : Nat} {id : Option String}

def chainSource (db : Db) (artifact : Artifact) (rows : List Generation) (key : String) :
    SourceKind × Option String :=
  answer ((nearestManifest db artifact key 0 rows).map fun found => found.2.2)

/-- A key is found among results that were computed key by key. -/
theorem exists_find_of_map {α β κ : Type*} [DecidableEq κ] {l : List α} {keys : List κ}
    {a : α → β} {f : κ → β} {k : β → κ} (h : l.map a = keys.map f) (hk : ∀ key, k (f key) = key)
    {key : κ} (hkey : key ∈ keys) : ∃ r, l.find? (fun r => k (a r) = key) = some r ∧ a r = f key := by
  induction keys generalizing l with
  | nil => cases hkey
  | cons x keys ih =>
    cases l with
    | nil => cases h
    | cons r l =>
      rw [map_cons, map_cons, cons.injEq] at h
      obtain ⟨hhead, htail⟩ := h
      have hx : k (a r) = x := by rw [hhead, hk]
      by_cases hkx : x = key
      · refine ⟨r, ?_, ?_⟩
        · rw [find?_cons_of_pos (by simpa using hx.trans hkx)]
        · rw [← hkx]
          exact hhead
      · have hrest : key ∈ keys := (mem_cons.mp hkey).resolve_left fun heq => hkx heq.symm
        obtain ⟨r', hr', hval⟩ := ih htail hrest
        refine ⟨r', ?_, hval⟩
        rw [find?_cons_of_neg (by simpa [hx] using hkx)]
        exact hr'

theorem resolveKey_source (db : Db) (artifact : Artifact) (rows : List Generation) (key : String) :
    (resolveKey db artifact rows key).reading.source = chainSource db artifact rows key := by
  unfold resolveKey chainSource
  cases nearestManifest db artifact key 0 rows with
  | none => rfl
  | some found => rfl

theorem resolveKey_partitionKey (db : Db) (artifact : Artifact) (rows : List Generation)
    (key : String) : (resolveKey db artifact rows key).reading.partitionKey = key := by
  unfold resolveKey
  cases nearestManifest db artifact key 0 rows with
  | none => rfl
  | some found => rfl

/-! ### Sound chains -/

/-- The generations from a pinned one down to a root, each the base of the one before it. -/
def BaseChain (db : Db) : Option String → List Generation → Prop
  | id, [] => id = none
  | id, g :: rows => ∃ i, id = some i ∧ db.generations.get? i = some g ∧
      BaseChain db g.baseGenerationId rows

/-- What a chain must be for an answer: it ends in a root, repeats no generation, is not too deep,
and is published. -/
structure SoundChain (db : Db) (pinned : Option String) (rows : List Generation) : Prop where
  complete : BaseChain db pinned rows
  acyclic : (rows.map Generation.generationId).Nodup
  depth : rows.length ≤ maxLineageDepth + 1
  published : ∀ g ∈ rows.head?, g.state = .published
  inherited : ∀ g ∈ rows, g.state ∈ inheritedCompactStates

theorem baseChain_lineageRows (hsome : lineageRows db n id ≠ [])
    (hlast : (lineageRows db n id).getLast?.bind Generation.baseGenerationId = none) :
    BaseChain db id (lineageRows db n id) := by
  induction n generalizing id with
  | zero => exact absurd rfl hsome
  | succ n ih =>
    cases id with
    | none => exact absurd rfl hsome
    | some id =>
      cases hrow : db.generations.get? id with
      | none =>
        rw [lineageRows, hrow] at hsome
        exact absurd rfl hsome
      | some g =>
        rw [lineageRows_some hrow] at hlast ⊢
        refine ⟨id, rfl, hrow, ?_⟩
        cases hnext : lineageRows db n g.baseGenerationId with
        | nil =>
          rw [hnext] at hlast
          exact hlast
        | cons x rest =>
          rw [← hnext]
          refine ih (by rw [hnext]; exact cons_ne_nil _ _) ?_
          rw [hnext] at hlast ⊢
          rwa [getLast?_cons_cons] at hlast

theorem checkLineageState_inherited {hop : Nat} {g : Generation}
    (h : checkLineageState pinned hop g = .ok ()) :
    g.state ∈ inheritedCompactStates ∧ (hop = 0 → g.state = .published) := by
  unfold checkLineageState at h
  split at h
  · simp only [reader_ensure_iff, bool_to_prop] at h
    exact ⟨published_mem_inherited h.2, fun _ => h.2⟩
  · rename_i hhop
    simp only [reader_ensure_iff, decide_eq_true_eq] at h
    exact ⟨h, fun h0 => absurd h0 hhop⟩

theorem checkLineageRows_sound {depth hop : Nat} {seen : List String}
    {previous : Option Generation} {rows : List Generation}
    (h : checkLineageRows pinned depth hop seen previous rows = .ok ()) :
    (rows.map Generation.generationId).Nodup ∧
      (∀ g ∈ rows, g.generationId ∉ seen ∧ g.state ∈ inheritedCompactStates) ∧
      (hop = 0 → ∀ g ∈ rows.head?, g.state = .published) := by
  induction rows generalizing hop seen previous with
  | nil => exact ⟨nodup_nil, fun g hg => absurd hg not_mem_nil, fun _ g hg => by cases hg⟩
  | cons g rest ih =>
    obtain ⟨_, hseen, h⟩ := of_bind h
    obtain ⟨_, -, h⟩ := of_bind h
    obtain ⟨_, hstate, h⟩ := of_bind h
    obtain ⟨_, -, h⟩ := of_bind h
    obtain ⟨_, -, h⟩ := of_bind h
    obtain ⟨hnd, hrest, -⟩ := ih h
    obtain ⟨hinh, hpub⟩ := checkLineageState_inherited hstate
    rw [reader_ensure_iff, decide_eq_true_eq] at hseen
    refine ⟨?_, ?_, ?_⟩
    · rw [map_cons, nodup_cons]
      refine ⟨fun hmem => ?_, hnd⟩
      -- the generation was added to those seen before the rest
      obtain ⟨x, hx, heq⟩ := mem_map.mp hmem
      exact (hrest x hx).1 (by rw [heq]; simp)
    · intro x hx
      rcases mem_cons.mp hx with rfl | hx
      · exact ⟨hseen, hinh⟩
      · exact ⟨fun hmem => (hrest x hx).1 (mem_append_left _ hmem), (hrest x hx).2⟩
    · intro hhop x hx
      cases hx
      exact hpub hhop

/-- A request that names a key is answered only on a sound chain, key by key. -/
theorem resolveProjectionPartitions_chain
    {ctx ctx' : ProvenanceContext} {found : List PartitionResolution}
    (h : resolveProjectionPartitions db artifact keys (some pinned) ctx = .ok (found, ctx'))
    (hkeys : keys ≠ []) :
    ∃ rows bounded, rows = lineageRows db (maxLineageDepth + 1) (some pinned) ∧
      SoundChain db (some pinned) rows ∧ boundedPartitionKeys 0 [] keys = .ok bounded ∧
      found.map PartitionResolution.reading =
        bounded.map fun key => (resolveKey db artifact rows key).reading := by
  unfold resolveProjectionPartitions at h
  obtain ⟨bounded, hbdd, h⟩ := of_bind h
  obtain ⟨key, hkey⟩ := exists_mem_of_ne_nil keys hkeys
  have hmem := (boundedPartitionKeys_ok hbdd).2 key hkey
  rw [if_neg (by rw [List.isEmpty_iff]; exact ne_nil_of_mem hmem)] at h
  dsimp only at h
  split at h
  · cases h
  · rename_i head rest hrows
    refine ⟨head :: rest, bounded, hrows.symm, ?_⟩
    have hchain : (head :: rest).getLast?.bind Generation.baseGenerationId = none →
        BaseChain db (some pinned) (head :: rest) := by
      rw [← hrows]
      exact baseChain_lineageRows (by rw [hrows]; nofun)
    split at h
    · rename_i hkind
      -- the compaction is the whole chain
      obtain ⟨_, hrest, hcompact⟩ := of_bind h
      rw [reader_ensure_iff, List.isEmpty_iff] at hrest
      subst hrest
      have hreading := (resolveCompactPartitions_reading [] hcompact).1
      obtain ⟨_, hhead, -⟩ := of_bind hcompact
      simp only [reader_ensure_iff, bool_to_prop, Option.isNone_iff_eq_none]
        at hhead
      have hpub : head.state = .published := hhead.1.1.1
      refine ⟨⟨hchain hhead.1.2, nodup_singleton _, by simp, ?_, ?_⟩, hbdd, ?_⟩
      · intro g hg
        obtain rfl := Option.some.inj hg
        exact hpub
      · intro g hg
        obtain rfl := mem_singleton.mp hg
        exact published_mem_inherited hpub
      · rw [hreading]
        refine map_congr_left fun key _ => ?_
        rw [← resolveKey_reading, chain_terminal (by rw [hkind]; decide)]
    · unfold resolveLineage at h
      obtain ⟨_, hlin, h⟩ := of_bind h
      iterate 4 obtain ⟨_, -, h⟩ := of_bind h
      obtain ⟨rfl, -⟩ := Prod.mk.inj (pure_eq_ok_iff.mp h)
      unfold checkLineage at hlin
      obtain ⟨_, hdep, hlin⟩ := of_bind hlin
      obtain ⟨_, hlen, hlin⟩ := of_bind hlin
      obtain ⟨_, hsound, hlin⟩ := of_bind hlin
      rw [reader_ensure_iff, decide_eq_true_eq] at hdep hlen
      obtain ⟨hnd, hall, hpub⟩ := checkLineageRows_sound hsound
      have hlast : (head :: rest).getLast?.bind Generation.baseGenerationId = none := by
        cases hbase : (head :: rest).getLast?.bind Generation.baseGenerationId with
        | none => rfl
        | some base =>
          rw [hbase] at hlin
          dsimp only at hlin
          split at hlin <;> cases hlin
      refine ⟨⟨hchain hlast, hnd, by omega, hpub rfl, fun g hg => (hall g hg).2⟩, hbdd, ?_⟩
      rw [map_map]
      rfl

/-- Every canonical key gets the source that the chain of the pinned head shows. -/
theorem resolveProjectionPartitions_source
    {ctx ctx' : ProvenanceContext} {found : List PartitionResolution}
    (h : resolveProjectionPartitions db artifact keys (some pinned) ctx = .ok (found, ctx'))
    {key : String} (hkey : key ∈ keys) (hcan : strip key = key) :
    ∃ r, found.find? (fun r => r.partitionKey = key) = some r ∧
      (r.sourceKind, r.actualDataGenerationId) =
        chainSource db artifact (lineageRows db (maxLineageDepth + 1) (some pinned)) key := by
  obtain ⟨_, _, rfl, -, hbdd, hmap⟩ :=
    resolveProjectionPartitions_chain h (ne_nil_of_mem hkey)
  obtain ⟨r, hr, hreading⟩ := exists_find_of_map (k := Reading.partitionKey) hmap
    (resolveKey_partitionKey db artifact _) (hcan ▸ (boundedPartitionKeys_ok hbdd).2 key hkey)
  exact ⟨r, hr, (congrArg Reading.source hreading).trans (resolveKey_source db artifact _ key)⟩

/-! ### Nearest owners -/

/-- The reading of the first generation on the chain that has a row of the key, or of the legacy
root when none has. -/
def NearestOwner (db : Db) (artifact : Artifact) (rows : List Generation) (key : String)
    (reading : Reading) : Prop :=
  (∃ nearer owner further row, rows = nearer ++ owner :: further ∧
    (∀ g ∈ nearer, db.manifest? g.generationId artifact key = none) ∧
    db.manifest? owner.generationId artifact key = some row ∧
    reading = ⟨artifact, key, some owner.generationId, row.sourceKind, row.dataGenerationId⟩) ∨
  ((∀ g ∈ rows, db.manifest? g.generationId artifact key = none) ∧
    reading = ⟨artifact, key, none, .legacyRoot, none⟩)

theorem nearestManifest_first (db : Db) (artifact : Artifact) (key : String) (hop : Nat)
    (rows : List Generation) : match nearestManifest db artifact key hop rows with
    | none => ∀ g ∈ rows, db.manifest? g.generationId artifact key = none
    | some (_, owner, row) => db.manifest? owner.generationId artifact key = some row ∧
        ∃ nearer further, rows = nearer ++ owner :: further ∧
          ∀ g ∈ nearer, db.manifest? g.generationId artifact key = none := by
  induction rows generalizing hop with
  | nil => exact fun g hg => absurd hg not_mem_nil
  | cons g rest ih =>
    rw [nearestManifest]
    cases hrow : db.manifest? g.generationId artifact key with
    | some row => exact ⟨hrow, [], rest, rfl, fun x hx => absurd hx not_mem_nil⟩
    | none =>
      have hrest := ih (hop + 1)
      cases hnear : nearestManifest db artifact key (hop + 1) rest with
      | none =>
        rw [hnear] at hrest
        exact forall_mem_cons.mpr ⟨hrow, hrest⟩
      | some found =>
        rw [hnear] at hrest
        obtain ⟨hfound, nearer, further, hspl, hnone⟩ := hrest
        exact ⟨hfound, g :: nearer, further, by rw [hspl]; rfl, forall_mem_cons.mpr ⟨hrow, hnone⟩⟩

theorem nearestOwner_resolveKey (db : Db) (artifact : Artifact) (rows : List Generation)
    (key : String) : NearestOwner db artifact rows key (resolveKey db artifact rows key).reading := by
  have hfirst := nearestManifest_first db artifact key 0 rows
  unfold resolveKey
  cases hnear : nearestManifest db artifact key 0 rows with
  | none =>
    rw [hnear] at hfirst
    exact .inr ⟨hfirst, rfl⟩
  | some found =>
    rw [hnear] at hfirst
    obtain ⟨hrow, nearer, further, hspl, hnone⟩ := hfirst
    exact .inl ⟨nearer, _, further, _, hspl, hnone, hrow, rfl⟩

/-- A request that names a key is refused, or answered on a sound chain with the nearest owner of
every key. -/
theorem resolution_finds_nearest_owner (db : Db) (artifact : Artifact) {keys : List String}
    (hkeys : keys ≠ []) (pinned : Option String) (ctx : ProvenanceContext) :
    (∃ e, resolveProjectionPartitions db artifact keys pinned ctx = .error e) ∨
      ∃ found ctx' rows, resolveProjectionPartitions db artifact keys pinned ctx =
          .ok (found, ctx') ∧ SoundChain db pinned rows ∧
        ∀ key ∈ keys, ∃ r, found.find? (fun r => r.partitionKey = strip key) = some r ∧
          NearestOwner db artifact rows (strip key) r.reading := by
  cases h : resolveProjectionPartitions db artifact keys pinned ctx with
  | error e => exact .inl ⟨e, rfl⟩
  | ok result =>
    obtain ⟨found, ctx'⟩ := result
    have hanswer : ∃ rows bounded, SoundChain db pinned rows ∧
        boundedPartitionKeys 0 [] keys = .ok bounded ∧ found.map PartitionResolution.reading =
          bounded.map fun key => (resolveKey db artifact rows key).reading := by
      cases pinned with
      | some pinned =>
        obtain ⟨rows, bounded, -, hsound, hbdd, hmap⟩ := resolveProjectionPartitions_chain h hkeys
        exact ⟨rows, bounded, hsound, hbdd, hmap⟩
      | none =>
        -- without a head there is no chain to read
        obtain ⟨bounded, hbdd, h⟩ := of_bind h
        refine ⟨[], bounded, ⟨rfl, nodup_nil, Nat.zero_le _, fun g hg => (by cases hg),
          fun g hg => absurd hg not_mem_nil⟩, hbdd, ?_⟩
        split at h
        · rename_i hnil
          cases h
          rw [List.isEmpty_iff.mp hnil]
          rfl
        · cases h
          rw [map_map]
          rfl
    obtain ⟨rows, _, hsound, hbdd, hmap⟩ := hanswer
    refine .inr ⟨found, ctx', rows, rfl, hsound, fun key hkey => ?_⟩
    obtain ⟨r, hr, hreading⟩ := exists_find_of_map (k := Reading.partitionKey) hmap
      (resolveKey_partitionKey db artifact rows) ((boundedPartitionKeys_ok hbdd).2 key hkey)
    exact ⟨r, hr, hreading ▸ nearestOwner_resolveKey db artifact rows _⟩

/-- A root, and two generations that are each other's base. -/
def cyclicBases : Db where
  generations := ⟨[
    { generationId := "root", generationKind := .legacyRoot, state := .published
      inputFingerprint := "1", kindCheck := kindBaseDepth_legacyRoot },
    { generationId := "a", baseGenerationId := some "b", state := .published
      lineageDepth := 2, inputFingerprint := "2" },
    { generationId := "b", baseGenerationId := some "a", state := .superseded
      lineageDepth := 1, inputFingerprint := "3" }], by decide⟩
  active := none
  manifests := ⟨[{ generationId := "root", artifact := .monthly, partitionKey := "2026-01"
                   sourceKind := .legacyRoot, dataGenerationId := none }], by decide⟩
  closure := .empty
  overlays := []
  jobs := .empty
  events := []
  fingerprints := by decide

theorem not_baseChain_cyclicBases (rows : List Generation) :
    ¬ BaseChain cyclicBases (some "a") rows ∧ ¬ BaseChain cyclicBases (some "b") rows := by
  induction rows with
  | nil => exact ⟨nofun, nofun⟩
  | cons g rows ih =>
    constructor
    · rintro ⟨_, ⟨⟩, hg, hrest⟩
      have hbase : (cyclicBases.generations.get? "a").bind Generation.baseGenerationId = some "b" := rfl
      rw [hg] at hbase
      exact ih.2 (hbase ▸ hrest)
    · rintro ⟨_, ⟨⟩, hg, hrest⟩
      have hbase : (cyclicBases.generations.get? "b").bind Generation.baseGenerationId = some "a" := rfl
      rw [hg] at hbase
      exact ih.1 (hbase ▸ hrest)

/-- The root answers for the key of its row. -/
theorem resolution_on_root :
    (resolveProjectionPartitions cyclicBases .monthly ["2026-01"] (some "root") {}).isOk = true ∧
    ((∃ e, resolveProjectionPartitions cyclicBases .monthly ["2026-01"] (some "root") {} =
        .error e) ∨
      ∃ found ctx' rows, resolveProjectionPartitions cyclicBases .monthly ["2026-01"]
          (some "root") {} = .ok (found, ctx') ∧ SoundChain cyclicBases (some "root") rows ∧
        ∀ key ∈ ["2026-01"],
          ∃ r, found.find? (fun r => r.partitionKey = strip key) = some r ∧
            NearestOwner cyclicBases .monthly rows (strip key) r.reading) :=
  ⟨by decide +kernel, resolution_finds_nearest_owner cyclicBases .monthly (by decide)
    (some "root") {}⟩

/-- A request without keys is answered on any chain. -/
theorem no_keys_resolved_on_cycle : (∀ rows, ¬ SoundChain cyclicBases (some "a") rows) ∧
    resolveProjectionPartitions cyclicBases .monthly [] (some "a") {} = .ok ([], {}) :=
  ⟨fun rows h => (not_baseChain_cyclicBases rows).1 h.complete, rfl⟩

/-! ### Frames -/

theorem chainSource_frame {rows : List Generation} {key : String}
    (h : ∀ g ∈ rows, db'.manifest? g.generationId artifact key =
      db.manifest? g.generationId artifact key) :
    chainSource db' artifact rows key = chainSource db artifact rows key := by
  have hnear : ∀ hop, nearestManifest db' artifact key hop rows =
      nearestManifest db artifact key hop rows := by
    induction rows with
    | nil => exact fun _ => rfl
    | cons g rows ih =>
      intro hop
      rw [nearestManifest, nearestManifest, h g mem_cons_self]
      cases db.manifest? g.generationId artifact key with
      | some row => rfl
      | none => exact ih (fun x hx => h x (mem_cons_of_mem g hx)) (hop + 1)
  unfold chainSource
  rw [hnear 0]

/-- The head of a chain answers with its own manifest, or leaves the answer to the rest. -/
theorem chainSource_cons (db : Db) (artifact : Artifact) (g : Generation) (rows : List Generation)
    (key : String) : chainSource db artifact (g :: rows) key =
      match db.manifest? g.generationId artifact key with
      | some row => (row.sourceKind, row.dataGenerationId)
      | none => chainSource db artifact rows key := by
  have hhop : ∀ hop hop', (nearestManifest db artifact key hop rows).map (fun found => found.2.2) =
      (nearestManifest db artifact key hop' rows).map fun found => found.2.2 := by
    induction rows with
    | nil => exact fun _ _ => rfl
    | cons x rows ih =>
      intro hop hop'
      rw [nearestManifest, nearestManifest]
      cases db.manifest? x.generationId artifact key with
      | some row => rfl
      | none => exact ih (hop + 1) (hop' + 1)
  unfold chainSource
  rw [nearestManifest]
  cases db.manifest? g.generationId artifact key with
  | some row => rfl
  | none =>
    rw [hhop (0 + 1) 0]

/-! ### Chains -/

theorem lineageRows_congr (h : db'.generations = db.generations) (n : Nat) (id : Option String) :
    lineageRows db' n id = lineageRows db n id := by
  induction n generalizing id with
  | zero => rfl
  | succ n ih =>
    cases id with
    | none => rfl
    | some id =>
      rw [lineageRows, lineageRows, h]
      cases db.generations.get? id with
      | none => rfl
      | some g =>
        dsimp only
        rw [ih]

theorem lineageRows_take (db : Db) {m : Nat} (h : m ≤ n) (id : Option String) :
    lineageRows db m id = (lineageRows db n id).take m := by
  induction m generalizing n id with
  | zero => rfl
  | succ m ih =>
    obtain ⟨n, rfl⟩ : ∃ k, n = k + 1 := ⟨n - 1, by omega⟩
    cases id with
    | none => rfl
    | some id =>
      rw [lineageRows, lineageRows]
      cases db.generations.get? id with
      | none => rfl
      | some g =>
        dsimp only
        rw [ih (Nat.le_of_succ_le_succ h), take_succ_cons]

/-- A chain that ends within less fuel is the same with less. -/
theorem lineageRows_of_length {m : Nat} (h : m ≤ n) (hlen : (lineageRows db n id).length ≤ m) :
    lineageRows db m id = lineageRows db n id := by
  rw [lineageRows_take db h, take_of_length_le hlen]

/-- The chain of a base does not change with a generation that is not on it, provided that the
chain ends without a base. -/
theorem lineageRows_frame {other : String}
    (hsame : ∀ id, id ≠ other → db'.generations.get? id = db.generations.get? id)
    (hid : id ≠ some other) (habs : ∀ g ∈ lineageRows db n id, g.generationId ≠ other)
    (hbases : ∀ g ∈ lineageRows db n id, g.baseGenerationId ≠ some other) :
    lineageRows db' n id = lineageRows db n id := by
  induction n generalizing id with
  | zero => rfl
  | succ n ih =>
    cases id with
    | none => rfl
    | some id =>
      have hne : id ≠ other := fun heq => hid (congrArg some heq)
      rw [lineageRows, lineageRows, hsame id hne]
      cases hrow : db.generations.get? id with
      | none => rfl
      | some g =>
        have hrows : lineageRows db (n + 1) (some id) =
            g :: lineageRows db n g.baseGenerationId := lineageRows_some hrow n
        rw [hrows] at habs hbases
        dsimp only
        rw [ih (hbases g mem_cons_self)
          (fun x hx => habs x (mem_cons_of_mem g hx))
          fun x hx => hbases x (mem_cons_of_mem g hx)]

/-- On a chain that is complete, every base is a row of the chain. -/
theorem base_mem_lineageRows (hlen : (lineageRows db n id).length < n)
    (hlast : (lineageRows db n id).getLast?.all fun g => g.baseGenerationId.isNone) {g : Generation}
    (hg : g ∈ lineageRows db n id) {base : String} (hbase : g.baseGenerationId = some base) :
    base ∈ (lineageRows db n id).map Generation.generationId := by
  induction n generalizing id with
  | zero => cases hg
  | succ n ih =>
    cases id with
    | none => cases hg
    | some id =>
      cases hrow : db.generations.get? id with
      | none =>
        rw [lineageRows, hrow] at hg
        cases hg
      | some x =>
        rw [lineageRows_some hrow] at hlen hlast hg ⊢
        rw [length_cons] at hlen
        refine mem_cons_of_mem _ ?_
        cases hnext : lineageRows db n x.baseGenerationId with
        | nil =>
          -- the last row of the chain has no base
          rw [hnext] at hlast hg
          obtain rfl := mem_singleton.mp hg
          simp [hbase] at hlast
        | cons y rest =>
          have hlast' : (lineageRows db n x.baseGenerationId).getLast?.all
              fun g => g.baseGenerationId.isNone := by
            rw [hnext] at hlast ⊢
            rwa [getLast?_cons_cons] at hlast
          rcases mem_cons.mp hg with rfl | hg
          · -- the base of the first row is the second row
            have hhead : (lineageRows db n (some base)).head? = some y := by
              rw [← hbase, hnext]
              rfl
            have hyid : y.generationId = base := by
              obtain ⟨n, rfl⟩ : ∃ k, n = k + 1 := by
                cases n with
                | zero => cases hhead
                | succ n => exact ⟨n, rfl⟩
              rw [lineageRows] at hhead
              cases hy : db.generations.get? base with
              | none => rw [hy] at hhead; cases hhead
              | some y' =>
                rw [hy] at hhead
                cases hhead
                exact db.generations.key_of_get? hy
            rw [← hyid]
            exact mem_cons_self
          · rw [← hnext]
            exact ih (by omega) hlast' hg

end DyData.Projection
