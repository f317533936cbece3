import DyData.ProjectionMaintenance

/-!
What a settlement head shows.  The published generations form one history, newest first.  A
head shows for every partition the nearest row of its chain, which goes down the lineages to
the first compaction or to the legacy root; a compaction shows what the head below it showed.
-/

namespace DyData.Projection

open Relational List Option

variable {g x : Generation} {older history : List Generation} {m : Manifest} {artifact : Artifact}
  {key : String}

def view (db : Db) (artifact : Artifact) (key : String) : List Generation → Option Manifest
  | [] => none
  | g :: older =>
    match db.manifest? g.generationId artifact key with
    | some row => some row
    | none => if g.generationKind = .lineage then view db artifact key older else none

def chain : List Generation → List Generation
  | [] => []
  | g :: older => if g.generationKind = .lineage then g :: chain older else [g]

theorem chain_lineage (h : g.generationKind = .lineage) :
    chain (g :: older) = g :: chain older := by
  rw [chain, if_pos h]

theorem chain_terminal (h : g.generationKind ≠ .lineage) : chain (g :: older) = [g] := by
  rw [chain, if_neg h]

theorem chain_ne_nil (g : Generation) (older : List Generation) : chain (g :: older) ≠ [] := by
  rw [chain]
  split <;> exact cons_ne_nil _ _

theorem chain_subset (history : List Generation) : chain history ⊆ history := by
  induction history with
  | nil => exact List.Subset.refl _
  | cons g older ih =>
    rw [chain]
    split
    · exact cons_subset_cons g ih
    · exact cons_subset_cons g (nil_subset older)

@[simp] theorem lineageRows_none (db : Db) (n : Nat) : lineageRows db n none = [] := by
  cases n <;> rfl

theorem lineageRows_some {db : Db} {id : String} (h : db.generations.get? id = some g) (n : Nat) :
    lineageRows db (n + 1) (some id) = g :: lineageRows db n g.baseGenerationId := by
  rw [lineageRows, h]

def kept (row : Option Manifest) : Option Manifest :=
  row.filter fun m => m.sourceKind ≠ .legacyRoot

def answer : Option Manifest → SourceKind × Option String
  | none => (.legacyRoot, none)
  | some m => (m.sourceKind, m.dataGenerationId)

theorem Manifest.data_of_legacyRoot (h : m.sourceKind = .legacyRoot) :
    m.dataGenerationId = none := by
  have hchk := m.sourceCheck
  cases hown : m.ownerState with
  | owned => simpa [sourceInvariants, h, hown] using hchk
  | tombstone => simp [sourceInvariants, h, hown] at hchk

theorem Manifest.owner_of_overlay (h : m.sourceKind = .overlay) : m.ownerState = .owned := by
  have hchk := m.sourceCheck
  cases hown : m.ownerState with
  | owned => rfl
  | tombstone => simp [sourceInvariants, h, hown] at hchk

theorem Manifest.of_tombstone (h : m.sourceKind = .tombstone) :
    m.ownerState = .tombstone ∧ m.dataGenerationId = none ∧ m.rowCount = 0 := by
  have hchk := m.sourceCheck
  cases hown : m.ownerState with
  | owned => simp [sourceInvariants, h, hown] at hchk
  | tombstone =>
    simp only [sourceInvariants, h, hown, bool_to_prop, isNone_iff_eq_none] at hchk
    exact ⟨rfl, hchk⟩

/-- A reader learns the same from a compacted row as from its source. -/
theorem answer_compacted (compactId : String) (row : Option Manifest) :
    answer ((kept row).map (.compacted compactId)) = answer row := by
  cases row with
  | none => rfl
  | some m =>
    by_cases h : m.sourceKind = .legacyRoot
    · rw [kept, filter_some_neg (by simp [h])]
      change (SourceKind.legacyRoot, none) = (m.sourceKind, m.dataGenerationId)
      rw [h, Manifest.data_of_legacyRoot h]
    · rw [kept, filter_some_pos (by simpa using h)]
      rfl

structure PublishedRow (db : Db) (g : Generation) : Prop where
  row : db.generations.get? g.generationId = some g
  state : g.state = .published

structure Built (digests : Digests) (db : Db) (g : Generation) : Prop where
  rows : ∀ m ∈ db.manifests.rows, m.generationId = g.generationId →
    m.baseGenerationId = g.baseGenerationId ∧ m.referenceHeadGenerationId = none ∧
      (m.sourceKind = .tombstone ∨
        m.sourceKind = .overlay ∧ m.dataGenerationId = some g.generationId ∧
          m.checksum.any isLowerHex64 = true ∧
          db.presentCount g.generationId m.artifact m.partitionKey = m.rowCount)
  digest : g.manifestChecksum = some
    (digests.manifestChecksum ((db.manifestsOf g.generationId).map Manifest.checksumValue))

def ids (history : List Generation) : List String := history.map Generation.generationId

inductive History (digests : Digests) (db : Db) : List Generation → Prop
  | root {g : Generation} (published : PublishedRow db g)
      (kind : g.generationKind = .legacyRoot)
      (rows : ∀ m ∈ db.manifests.rows, m.generationId = g.generationId →
        m.sourceKind = .legacyRoot ∧ m.baseGenerationId = none)
      (digest : g.manifestChecksum = some
        (digests.manifestChecksum ((db.manifestsOf g.generationId).map Manifest.checksumValue))) :
      History digests db [g]
  | lineage {g b : Generation} {older : List Generation} (below : History digests db (b :: older))
      (published : PublishedRow db g) (fresh : g.generationId ∉ ids (b :: older))
      (kind : g.generationKind = .lineage) (base : g.baseGenerationId = some b.generationId)
      (depth : g.lineageDepth = b.lineageDepth + 1) (bound : g.lineageDepth ≤ maxLineageDepth)
      (built : Built digests db g) : History digests db (g :: b :: older)
  | compact {g b : Generation} {older : List Generation} (below : History digests db (b :: older))
      (published : PublishedRow db g) (fresh : g.generationId ∉ ids (b :: older))
      (kind : g.generationKind = .compact)
      (base : g.compactionBaseGenerationId = some b.generationId)
      (closure : ∀ source digest, (⟨g.generationId, source, digest⟩ : ClosureRow) ∈ db.closure.rows ↔
        (source, digest) ∈ (b :: older).map sourceDigest)
      (bound : (b :: older).length ≤ maxCompactProvenanceSources)
      (rows : ∀ artifact key, db.manifest? g.generationId artifact key =
        (kept (view db artifact key (b :: older))).map (.compacted g.generationId))
      (digest : g.manifestChecksum = some (digests.compactionChecksum
        ((db.manifestsOf g.generationId).map Manifest.compactionValue))) :
      History digests db (g :: b :: older)

namespace History

variable {digests : Digests} {db : Db}

section

variable (h : History digests db history)
include h

/-- The part of a history from one of its generations down. -/
theorem suffix_of_mem (hx : x ∈ history) :
    ∃ newer older, history = newer ++ x :: older ∧ History digests db (x :: older) := by
  induction h with
  | @root g published kind rows digest =>
    rw [mem_singleton.mp hx]
    exact ⟨[], [], rfl, .root published kind rows digest⟩
  | @lineage g b older below published fresh kind base depth bound built ih =>
    rcases mem_cons.mp hx with rfl | hx
    · exact ⟨[], b :: older, rfl, .lineage below published fresh kind base depth bound built⟩
    · obtain ⟨newer, older', heq, hblw⟩ := ih hx
      exact ⟨g :: newer, older', by rw [heq, cons_append], hblw⟩
  | @compact g b older below published fresh kind base closure bound rows digest ih =>
    rcases mem_cons.mp hx with rfl | hx
    · exact ⟨[], b :: older, rfl,
        .compact below published fresh kind base closure bound rows digest⟩
    · obtain ⟨newer, older', heq, hblw⟩ := ih hx
      exact ⟨g :: newer, older', by rw [heq, cons_append], hblw⟩

theorem published_of_mem (hx : x ∈ history) : PublishedRow db x := by
  obtain ⟨_, _, -, hblw⟩ := h.suffix_of_mem hx
  cases hblw <;> assumption

theorem hex_of_mem (hx : x ∈ history) :
    ∃ checksum, x.manifestChecksum = some checksum ∧ isLowerHex64 checksum = true := by
  obtain ⟨_, _, -, hblw⟩ := h.suffix_of_mem hx
  cases hblw with
  | root _ _ _ digest => exact ⟨_, digest, digests.manifestChecksum_hex _⟩
  | lineage _ _ _ _ _ _ _ built => exact ⟨_, built.digest, digests.manifestChecksum_hex _⟩
  | compact _ _ _ _ _ _ _ _ digest => exact ⟨_, digest, digests.compactionChecksum_hex _⟩

theorem nodup : (ids history).Nodup := by
  induction h with
  | root => exact nodup_singleton _
  | lineage _ _ fresh _ _ _ _ _ ih => exact nodup_cons.mpr ⟨fresh, ih⟩
  | compact _ _ fresh _ _ _ _ _ _ ih => exact nodup_cons.mpr ⟨fresh, ih⟩

theorem ne_nil : history ≠ [] := by
  cases h <;> exact cons_ne_nil _ _

end

/-- A generation that is not a lineage ends its chain: it has no base. -/
theorem base_none (hkind : g.generationKind ≠ .lineage) :
    g.baseGenerationId = none ∧ g.lineageDepth = 0 := by
  have hchk := g.kindCheck
  cases hk : g.generationKind with
  | lineage => exact absurd hk hkind
  | legacyRoot =>
    simp only [kindBaseDepth, hk, bool_to_prop, isNone_iff_eq_none] at hchk
    exact hchk.1
  | compact =>
    simp only [kindBaseDepth, hk, bool_to_prop, isNone_iff_eq_none] at hchk
    exact hchk.1

/-- Down a chain: each generation ends it, or is a lineage above the rest. -/
theorem chain_induction
    {motive : ∀ (g : Generation) (older : List Generation), History digests db (g :: older) → Prop}
    (terminal : ∀ {g older} (h : History digests db (g :: older)), g.generationKind ≠ .lineage →
      motive g older h)
    (lineage : ∀ {g b older} (below : History digests db (b :: older))
      (h : History digests db (g :: b :: older)), g.generationId ∉ ids (b :: older) →
      g.generationKind = .lineage → g.baseGenerationId = some b.generationId →
      g.lineageDepth = b.lineageDepth + 1 → g.lineageDepth ≤ maxLineageDepth →
      motive b older below → motive g (b :: older) h)
    (g : Generation) (older : List Generation) (h : History digests db (g :: older)) :
    motive g older h := by
  induction older generalizing g with
  | nil =>
    refine terminal h ?_
    cases h with
    | root _ kind => rw [kind]; decide
  | cons b older ih =>
    cases h with
    | lineage below published fresh kind base depth bound built =>
      exact lineage below (.lineage below published fresh kind base depth bound built) fresh kind
        base depth bound (ih b below)
    | compact below published fresh kind base closure bound rows digest =>
      exact terminal _ (by rw [kind]; decide)

theorem length_chain (h : History digests db (g :: older)) :
    (chain (g :: older)).length = g.lineageDepth + 1 ∧ g.lineageDepth ≤ maxLineageDepth := by
  induction g, older, h using chain_induction with
  | terminal h kind =>
    rw [chain_terminal kind, (base_none kind).2]
    exact ⟨rfl, Nat.zero_le _⟩
  | lineage below h fresh kind base depth bound ih =>
    refine ⟨?_, bound⟩
    rw [chain_lineage kind, length_cons, ih.1, depth]

theorem lineageRows_eq_chain (h : History digests db (g :: older)) {n : Nat}
    (hn : g.lineageDepth < n) : lineageRows db n (some g.generationId) = chain (g :: older) := by
  -- down the history; each base uses up one row of the query and one of the depth
  obtain ⟨m, rfl⟩ : ∃ m, n = m + 1 := ⟨n - 1, by omega⟩
  induction g, older, h using chain_induction generalizing m with
  | terminal h kind =>
    rw [lineageRows_some (h.published_of_mem mem_cons_self).row, (base_none kind).1,
      lineageRows_none, chain_terminal kind]
  | lineage below h fresh kind base depth bound ih =>
    obtain ⟨k, rfl⟩ : ∃ k, m = k + 1 := ⟨m - 1, by omega⟩
    rw [lineageRows_some (h.published_of_mem mem_cons_self).row, base, ih k (by omega),
      chain_lineage kind]

end History

def compactIds (history : List Generation) : List String :=
  ids (history.filter fun g => g.generationKind = .compact)

theorem compactIds_cons_lineage (hkind : g.generationKind ≠ .compact) (older : List Generation) :
    compactIds (g :: older) = compactIds older := by
  unfold compactIds
  rw [filter_cons_of_neg (by simpa using hkind)]

theorem compactIds_cons_compact (hkind : g.generationKind = .compact) (older : List Generation) :
    compactIds (g :: older) = g.generationId :: compactIds older := by
  unfold compactIds
  rw [filter_cons_of_pos (by simpa using hkind)]
  rfl

theorem mem_compactIds {id : String} : id ∈ compactIds history ↔
      ∃ x ∈ history, x.generationKind = .compact ∧ x.generationId = id := by
  unfold compactIds ids
  simp only [List.mem_map, mem_filter, decide_eq_true_eq]
  constructor
  · rintro ⟨x, ⟨hx, hk⟩, hid⟩
    exact ⟨x, hx, hk, hid⟩
  · rintro ⟨x, hx, hk, hid⟩
    exact ⟨x, ⟨hx, hk⟩, hid⟩

/-- The chain of a history ends in its root when nothing was compacted, and otherwise in the
newest compaction, below which all the others lie. -/
theorem History.terminal {digests : Digests} {db : Db} (h : History digests db history) :
    (terminalCompact? (chain history) = none ∧ compactIds history = []) ∨
    ∃ t older newer, terminalCompact? (chain history) = some t ∧ history = newer ++ t :: older ∧
      History digests db (t :: older) ∧ t.generationKind = .compact ∧
      compactIds history = compactIds (t :: older) := by
  induction h with
  | @root g published kind rows digest =>
    refine .inl ⟨?_, compactIds_cons_lineage (by rw [kind]; decide) []⟩
    rw [chain_terminal (by rw [kind]; decide)]
    simp [terminalCompact?, kind]
  | @lineage g b older below published fresh kind base depth bound built ih =>
    have hsame : terminalCompact? (chain (g :: b :: older)) =
        terminalCompact? (chain (b :: older)) := by
      rw [chain_lineage kind, terminalCompact?, terminalCompact?,
        getLast?_cons_of_ne_nil (chain_ne_nil b older)]
    rw [hsame, compactIds_cons_lineage (by rw [kind]; decide)]
    rcases ih with ih | ⟨t, older', newer, ht, heq, hblw, hkind, hids⟩
    · exact .inl ih
    · exact .inr ⟨t, older', g :: newer, ht, by rw [heq, cons_append], hblw, hkind, hids⟩
  | @compact g b older below published fresh kind base closure bound rows digest ih =>
    refine .inr ⟨g, b :: older, [], ?_, rfl,
      .compact below published fresh kind base closure bound rows digest, kind, rfl⟩
    rw [chain_terminal (by rw [kind]; decide)]
    simp [terminalCompact?, kind]

theorem nearestManifest_chain (db : Db) (artifact : Artifact) (key : String) (hop : Nat)
    (history : List Generation) :
    (nearestManifest db artifact key hop (chain history)).map (fun found => found.2.2) =
      view db artifact key history := by
  induction history generalizing hop with
  | nil => rfl
  | cons g older ih =>
    by_cases hkind : g.generationKind = .lineage
    · rw [chain_lineage hkind, nearestManifest, view]
      cases db.manifest? g.generationId artifact key with
      | some row => rfl
      | none =>
        simp only [hkind, if_true]
        exact ih (hop + 1)
    · rw [chain_terminal hkind, nearestManifest, view]
      cases db.manifest? g.generationId artifact key with
      | some row => rfl
      | none => simp [hkind, nearestManifest]

theorem nearestManifest_owner {db : Db} {hop n : Nat} {rows : List Generation} {owner : Generation}
    {row : Manifest} (h : nearestManifest db artifact key hop rows = some (n, owner, row)) :
    owner ∈ rows ∧ db.manifest? owner.generationId artifact key = some row := by
  induction rows generalizing hop with
  | nil => cases h
  | cons g rest ih =>
    rw [nearestManifest] at h
    split at h
    · rename_i hrow
      cases h
      exact ⟨mem_cons_self, hrow⟩
    · obtain ⟨hmem, hrow⟩ := ih h
      exact ⟨mem_cons_of_mem g hmem, hrow⟩

theorem Db.mem_of_manifest? {db : Db} {generationId : String}
    (h : db.manifest? generationId artifact key = some m) :
    m ∈ db.manifests.rows ∧ m.generationId = generationId ∧ m.artifact = artifact ∧
      m.partitionKey = key := by
  obtain ⟨hmem, hkey⟩ := db.manifests.get?_eq_some_iff.mp h
  obtain ⟨hid, hrest⟩ := Prod.mk.inj hkey
  obtain ⟨hart, hpart⟩ := Prod.mk.inj hrest
  exact ⟨hmem, hid, hart, hpart⟩

/-- An overlay row comes from an ordinary generation of the history, whose own row carries the
same evidence and whose overlay rows are all there. -/
structure Leaf (db : Db) (artifact : Artifact) (key : String) (history : List Generation)
    (m : Manifest) (x : Generation) (own : Manifest) : Prop where
  mem : x ∈ history
  ordinary : x.generationKind ≠ .compact
  data : m.dataGenerationId = some x.generationId
  checksum : m.checksum.any isLowerHex64 = true
  row : db.manifest? x.generationId artifact key = some own
  overlay : own.sourceKind = .overlay
  ownData : own.dataGenerationId = some x.generationId
  reference : own.referenceHeadGenerationId = none
  base : own.baseGenerationId = x.baseGenerationId
  evidence : sameEvidence own m = true
  present : db.presentCount x.generationId artifact key = m.rowCount

theorem Leaf.cons {db : Db} {artifact : Artifact} {key : String} {history : List Generation}
    {m : Manifest} {x : Generation} {own : Manifest} (h : Leaf db artifact key history m x own)
    (g : Generation) : Leaf db artifact key (g :: history) m x own :=
  { h with mem := mem_cons_of_mem g h.mem }

theorem History.leaf {digests : Digests} {db : Db} (h : History digests db history)
    (hview : view db artifact key history = some m) (hover : m.sourceKind = .overlay) :
    ∃ x own, Leaf db artifact key history m x own := by
  induction h generalizing m with
  | @root g published kind rows digest =>
    rw [view] at hview
    split at hview
    · rename_i row hrow
      cases hview
      obtain ⟨hmem, hid, -⟩ := Db.mem_of_manifest? hrow
      rw [(rows m hmem hid).1] at hover
      cases hover
    · simp [kind] at hview
  | @lineage g b older below published fresh kind base depth bound built ih =>
    rw [view] at hview
    split at hview
    · -- the generation's own row: it is the leaf
      rename_i row hrow
      cases hview
      obtain ⟨hmem, hid, hart, hkey⟩ := Db.mem_of_manifest? hrow
      obtain ⟨hbase, href, hkinds⟩ := built.rows m hmem hid
      rcases hkinds with htomb | ⟨-, hdata, hhex, hpres⟩
      · rw [htomb] at hover
        cases hover
      · refine ⟨g, m, mem_cons_self, ?_, hdata, hhex, hrow, hover, hdata, href, hbase, ?_, ?_⟩
        · rw [kind]
          decide
        · simp [sameEvidence]
        · rw [← hart, ← hkey]
          exact hpres
    · rw [if_pos kind] at hview
      obtain ⟨x, own, hleaf⟩ := ih hview hover
      exact ⟨x, own, hleaf.cons g⟩
  | @compact g b older below published fresh kind base closure bound rows digest ih =>
    rw [view] at hview
    split at hview
    · -- a compacted row: the leaf of the row it was copied from
      rename_i hrow
      cases hview
      rw [rows artifact key] at hrow
      obtain ⟨_, hsrc, rfl⟩ := map_eq_some_iff.mp hrow
      obtain ⟨hview', -⟩ := filter_eq_some_iff.mp hsrc
      obtain ⟨x, own, hleaf⟩ := ih hview' hover
      exact ⟨x, own, { hleaf.cons g with }⟩
    · simp [kind] at hview

end DyData.Projection
