import DyData.ProjectionReading

/-!
The answers of the resolver over a history: whatever it returns is what the history shows, and
it returns exactly while the compactions fit into the node budget.
-/

namespace DyData.Projection

open Relational List Option
open Except (of_bind bind_ok pure_eq_ok_iff ensure_bind ofOption_bind)

variable {db : Db} {artifact : Artifact} {key pinned : String} {g : Generation}
  {older history : List Generation} {digests : Digests} {hop : Nat}

structure Reading where
  artifact : Artifact
  partitionKey : String
  owner : Option String
  source : SourceKind × Option String
deriving DecidableEq

def PartitionResolution.reading (r : PartitionResolution) : Reading :=
  ⟨r.artifact, r.partitionKey, r.nearestManifestOwnerGeneration,
    (r.sourceKind, r.actualDataGenerationId)⟩

def shown (db : Db) (artifact : Artifact) (history : List Generation) (key : String) : Reading :=
  ⟨artifact, key, (view db artifact key history).map Manifest.generationId,
    answer (view db artifact key history)⟩

theorem view_none_of_terminal (hkind : g.generationKind ≠ .lineage)
    (hrow : db.manifest? g.generationId artifact key = none) :
    view db artifact key (g :: older) = none := by
  rw [view, hrow]
  exact if_neg hkind

theorem legacyFallback_reading (lineageIds : List String)
    (hview : view db artifact key history = none) :
    (legacyFallback artifact lineageIds key).reading = shown db artifact history key := by
  rw [shown, hview]
  rfl

theorem reading_of_row {m : Manifest} (hrow : db.manifest? g.generationId artifact key = some m) :
    shown db artifact (g :: older) key =
      ⟨artifact, key, some g.generationId, m.sourceKind, m.dataGenerationId⟩ := by
  rw [shown, view_of_manifest hrow, ← (Db.mem_of_manifest? hrow).2.1]
  rfl

theorem resolveCompactKey_reading (hkind : g.generationKind = .compact) {r : PartitionResolution}
    {claim : Option Manifest}
    (h : resolveCompactKey db artifact g.generationId key = .ok (r, claim)) :
    r.reading = shown db artifact (g :: older) key := by
  unfold resolveCompactKey at h
  split at h
  · rename_i hrow
    cases h
    exact legacyFallback_reading _ (view_none_of_terminal (by rw [hkind]; decide) hrow)
  · rename_i hrow
    rw [reading_of_row hrow]
    obtain ⟨_, -, h⟩ := of_bind h
    split at h
    · rename_i hown hsrc
      obtain ⟨_, -, h⟩ := of_bind h
      cases h
      rw [hsrc, (Manifest.of_tombstone hsrc).2.1]
      rfl
    · rename_i hsrc
      obtain ⟨_, -, h⟩ := of_bind h
      cases h
      rw [hsrc]
      rfl
    · cases h

/-- A compaction resolves each of its keys, and asks for a proof of its overlay rows. -/
theorem resolveCompactKey_exists (h : History digests db (g :: older))
    (hkind : g.generationKind = .compact) (artifact : Artifact) (key : String) :
    ∃ r claim, resolveCompactKey db artifact g.generationId key = .ok (r, claim) ∧
      r.partitionKey = key ∧ ∀ m ∈ claim,
        db.manifest? g.generationId artifact key = some m ∧ m.sourceKind = .overlay := by
  unfold resolveCompactKey
  cases hrow : db.manifest? g.generationId artifact key with
  | none => exact ⟨_, none, rfl, rfl, fun m hm => by cases hm⟩
  | some m =>
    obtain ⟨hleg, hbase, href⟩ := h.compact_row hkind hrow
    cases hsrc : m.sourceKind with
    | legacyRoot => exact absurd hsrc hleg
    | tombstone =>
      obtain ⟨hown, hdata, hcnt⟩ := Manifest.of_tombstone hsrc
      refine ⟨{ artifact, partitionKey := key, nearestManifestOwnerGeneration := some g.generationId
                sourceKind := .tombstone, ownerState := .tombstone
                lineageGenerationIds := [g.generationId] }, none, ?_, rfl, fun m hm => by cases hm⟩
      simp only [hsrc, hown, hdata, hcnt, hbase, href]
      rfl
    | overlay =>
      have hown := Manifest.owner_of_overlay hsrc
      obtain ⟨x, _, leaf⟩ := h.leaf (view_of_manifest hrow) hsrc
      refine ⟨{ artifact, partitionKey := key, nearestManifestOwnerGeneration := some g.generationId
                actualDataGenerationId := some x.generationId, sourceKind := .overlay
                ownerState := .owned, lineageGenerationIds := [g.generationId]
                sourceGenerationIds := [x.generationId] }, some m, ?_, rfl, ?_⟩
      · simp only [hsrc, hown, hbase, href, leaf.data, if_true]
        refine ensure_bind rfl (bind_ok (a := ()) ?_ rfl)
        rw [leaf.checksum]
        simp
      · intro m' hm'
        obtain rfl := mem_some_iff.mp hm'
        exact ⟨rfl, hsrc⟩

theorem resolveCompactPartitions_reading {keys : List String} (older : List Generation)
    {ctx ctx' : ProvenanceContext} {found : List PartitionResolution}
    (h : resolveCompactPartitions db artifact keys g ctx = .ok (found, ctx')) :
    found.map PartitionResolution.reading = keys.map (shown db artifact (g :: older)) ∧
      ∃ result, verifiedClosure db provenanceFuel [] ctx g.generationId [.published] =
        .ok result := by
  unfold resolveCompactPartitions at h
  obtain ⟨_, hhead, h⟩ := of_bind h
  obtain ⟨_, -, h⟩ := of_bind h
  obtain ⟨⟨_, _⟩, hcl, h⟩ := of_bind h
  obtain ⟨_, -, h⟩ := of_bind h
  obtain ⟨_, hres, h⟩ := of_bind h
  obtain ⟨_, -, h⟩ := of_bind h
  obtain ⟨rfl, -⟩ := Prod.mk.inj (pure_eq_ok_iff.mp h)
  simp only [reader_ensure_iff, bool_to_prop] at hhead
  refine ⟨?_, _, hcl⟩
  rw [List.map_map]
  exact Except.map_eq_map_of_mapM_ok hres fun key entry hent =>
    resolveCompactKey_reading hhead.1.1.2 hent

/-- A claim of a compaction of the history, on one of its own overlay rows. -/
theorem claimOf_row {newer : List Generation} {t : Generation}
    (hspl : history = newer ++ t :: older) (h : History digests db (t :: older))
    (hkind : t.generationKind = .compact) {m : Manifest}
    (hrow : db.manifest? t.generationId artifact key = some m) (hover : m.sourceKind = .overlay) :
    ClaimOf digests db history artifact ⟨[t.generationId], t.generationId, key, m⟩ :=
  ⟨⟨newer, t, older, hspl, h, hkind, rfl⟩, hrow, hover⟩

theorem resolveCompactPartitions_exists (h : History digests db (g :: older))
    (hbud : (compactIds (g :: older)).length ≤ maxLineageDepth)
    (hkind : g.generationKind = .compact) (artifact : Artifact) (keys : List String)
    {ctx : ProvenanceContext} (hctx : ReadContext db (g :: older) ctx) :
    ∃ found ctx', resolveCompactPartitions db artifact keys g ctx = .ok (found, ctx') ∧
      ReadContext db (g :: older) ctx' := by
  obtain ⟨b, rest, rfl⟩ := h.older_of_compact hkind
  obtain ⟨closure, _, hopen, hopene, hcl⟩ := open_compact hbud
    (nil_append _).symm h hkind hctx [.published] (by decide) (by decide)
  obtain ⟨closure', hcl', -, hbase, -⟩ :=
    h.closure_ok hkind inheritedCompactStates (by decide)
  obtain rfl : closure = closure' := Except.ok.inj (hcl.symm.trans hcl')
  have hall : ∀ key ∈ keys, ∃ entry, resolveCompactKey db artifact g.generationId key =
      .ok entry := by
    intro key _
    obtain ⟨r, claim, hr, -⟩ := resolveCompactKey_exists h hkind artifact key
    exact ⟨_, hr⟩
  obtain ⟨resolved, hres⟩ := Except.exists_mapM_ok hall
  set claims : List (String × String × Manifest) := resolved.filterMap fun entry =>
    entry.2.map fun manifest => (g.generationId, entry.1.partitionKey, manifest) with hclms
  have hclaimsOf : ∀ c ∈ claims,
      ClaimOf digests db (g :: b :: rest) artifact ⟨[c.1], c.1, c.2.1, c.2.2⟩ := by
    intro c hc
    obtain ⟨⟨_, _⟩, hent, hmap⟩ := mem_filterMap.mp hc
    obtain ⟨m, hm, rfl⟩ := map_eq_some_iff.mp hmap
    obtain ⟨key, -, hkey⟩ := (Except.mem_of_mapM_ok hres).mp hent
    obtain ⟨_, _, hr', hpart, hrow⟩ :=
      resolveCompactKey_exists h hkind artifact key
    obtain ⟨rfl, rfl⟩ := Prod.mk.inj (Except.ok.inj (hkey.symm.trans hr'))
    obtain ⟨hmrow, hover⟩ := hrow m hm
    rw [hpart]
    exact claimOf_row (nil_append _).symm h hkind hmrow hover
  obtain ⟨last, hlast, hread⟩ :=
    verifyClaimsWhen_exists hbud (!claims.isEmpty) hclaimsOf hopene
  obtain ⟨hgbase, hgdep⟩ := History.base_none (g := g) (by rw [hkind]; decide)
  have hpub := (h.published_of_mem mem_cons_self).state
  obtain ⟨hcomp, hne⟩ := h.compactionBase hkind
  refine ⟨resolved.map Prod.fst, last, ?_, hread⟩
  refine bind_ok (a := ()) ?_ ?_
  · rw [hpub, hkind, hgbase, hgdep]
    simp
  refine ofOption_bind (a := b.generationId) ?_ ?_
  · rw [hcomp, filter_some_pos (by simpa using hne)]
  refine bind_ok hopen ?_
  refine ensure_bind (by simpa using hbase) ?_
  refine bind_ok hres ?_
  exact bind_ok hlast rfl

theorem compactionBase_none (hkind : g.generationKind ≠ .compact) :
    g.compactionBaseGenerationId = none := by
  have hchk := g.kindCheck
  cases hk : g.generationKind with
  | compact => exact absurd hk hkind
  | lineage => simpa [kindBaseDepth, hk] using hchk
  | legacyRoot =>
    simp only [kindBaseDepth, hk, Bool.and_eq_true, isNone_iff_eq_none] at hchk
    exact hchk.2

theorem compactionBase_some (hkind : g.generationKind = .compact) :
    g.compactionBaseGenerationId.isSome = true := by
  have hchk := g.kindCheck
  simp only [kindBaseDepth, hkind, Bool.and_eq_true] at hchk
  exact hchk.2

theorem checkLineageKind_ok {rest : List Generation}
    (hrest : g.generationKind = .compact → rest = []) : checkLineageKind g rest = .ok () := by
  unfold checkLineageKind
  split
  · rename_i hkind
    rw [hrest hkind, (History.base_none (g := g) (by rw [hkind]; decide)).1,
      compactionBase_some hkind]
    rfl
  · rename_i hkind
    rw [compactionBase_none hkind]
    rfl

theorem checkLineageState_ok (hstt : g.state = .published)
    (hpinn : hop = 0 → g.generationId = pinned) : checkLineageState pinned hop g = .ok () := by
  unfold checkLineageState
  split
  · rename_i hhop
    rw [hpinn hhop, hstt]
    simp
  · rw [reader_ensure_iff, decide_eq_true_eq]
    exact published_mem_inherited hstt

/-- One row of a chain passes, and the next one is asked with what it saw. -/
theorem checkLineageRows_cons {headDepth : Nat} {seen : List String} {previous : Option Generation}
    {rest : List Generation} (hstt : g.state = .published)
    (hpinn : hop = 0 → g.generationId = pinned) (hdep : g.lineageDepth + hop = headDepth)
    (hbd : headDepth ≤ maxLineageDepth) (hseen : g.generationId ∉ seen)
    (hrest : g.generationKind = .compact → rest = [])
    (hprev : ∀ p ∈ previous, p.baseGenerationId = some g.generationId) :
    checkLineageRows pinned headDepth hop seen previous (g :: rest) =
      checkLineageRows pinned headDepth (hop + 1) (seen ++ [g.generationId]) (some g) rest := by
  have hlinks : (previous.all fun p => p.baseGenerationId = some g.generationId) = true := by
    rw [Option.all_eq_true]
    intro p hp
    exact decide_eq_true (hprev p hp)
  have hdept : (hop ≤ maxLineageDepth && g.lineageDepth ≤ maxLineageDepth &&
      g.lineageDepth + hop = headDepth : Bool) = true := by
    simp only [bool_to_prop]
    omega
  rw [checkLineageRows, checkLineageKind_ok hrest, checkLineageState_ok hstt hpinn]
  simp only [hdept, hlinks, hseen, not_false_eq_true, decide_true]
  rfl

theorem next_unseen {seen : List String} (hseen : ∀ s ∈ seen, s ∉ ids (g :: older))
    (fresh : g.generationId ∉ ids older) : ∀ s ∈ seen ++ [g.generationId], s ∉ ids older := by
  intro s hs hin
  rcases mem_append.mp hs with hs | hs
  · exact hseen s hs (mem_cons_of_mem _ hin)
  · exact fresh (mem_singleton.mp hs ▸ hin)

/-- The chain of a history passes the checks of the reader. -/
theorem History.checkLineageRows_ok (h : History digests db (g :: older)) {headDepth : Nat}
    {seen : List String} {previous : Option Generation}
    (hpinn : hop = 0 → g.generationId = pinned) (hdep : g.lineageDepth + hop = headDepth)
    (hbd : headDepth ≤ maxLineageDepth) (hseen : ∀ s ∈ seen, s ∉ ids (g :: older))
    (hprev : ∀ p ∈ previous, p.baseGenerationId = some g.generationId) :
    checkLineageRows pinned headDepth hop seen previous (chain (g :: older)) = .ok () := by
  have hself : g.generationId ∉ seen := fun hs => hseen _ hs mem_cons_self
  have hstt := (h.published_of_mem mem_cons_self).state
  induction g, older, h using History.chain_induction generalizing hop seen previous with
  | terminal h kind =>
    rw [chain_terminal kind,
      checkLineageRows_cons hstt hpinn hdep hbd hself (fun _ => rfl) hprev]
    rfl
  | lineage below h fresh kind base depth _ ih =>
    have hnext := next_unseen hseen fresh
    rw [chain_lineage kind, checkLineageRows_cons hstt hpinn hdep hbd hself
      (fun hcomp => by rw [kind] at hcomp; cases hcomp) hprev]
    refine ih nofun (by omega) hnext ?_
      (fun hs => hnext _ hs mem_cons_self) (below.published_of_mem mem_cons_self).state
    intro p hp
    obtain rfl := mem_some_iff.mp hp
    exact base

theorem History.last_base (h : History digests db (g :: older)) :
    (chain (g :: older)).getLast?.bind Generation.baseGenerationId = none := by
  induction g, older, h using History.chain_induction with
  | terminal h kind =>
    rw [chain_terminal kind]
    exact (History.base_none kind).1
  | @lineage g b older below h fresh kind base depth bound ih =>
    rw [chain_lineage kind, getLast?_cons_of_ne_nil (chain_ne_nil b older)]
    exact ih

theorem History.checkLineage_ok (h : History digests db (g :: older)) :
    checkLineage g.generationId g (chain (g :: older)) = .ok () := by
  obtain ⟨hlen, hbd⟩ := h.length_chain
  refine ensure_bind (by simpa using hbd) ?_
  refine ensure_bind (by simpa using hlen) ?_
  refine bind_ok (h.checkLineageRows_ok (fun _ => rfl) rfl hbd
    nofun (fun p hp => by cases hp)) ?_
  rw [h.last_base]

/-- The base of a generation of the chain is in the chain. -/
theorem History.base_mem_chain (h : History digests db history) {x : Generation}
    (hx : x ∈ chain history) {base : String} (hbase : x.baseGenerationId = some base) :
    base ∈ ids (chain history) := by
  obtain ⟨g, older, rfl⟩ := exists_cons_of_ne_nil h.ne_nil
  induction g, older, h using History.chain_induction with
  | terminal h kind =>
    rw [chain_terminal kind] at hx
    obtain rfl := mem_singleton.mp hx
    rw [(History.base_none kind).1] at hbase
    cases hbase
  | @lineage g b older below h fresh kind hgbase depth bound ih =>
    rw [chain_lineage kind] at hx ⊢
    refine mem_cons_of_mem _ ?_
    rcases mem_cons.mp hx with rfl | hx
    · obtain rfl := mem_unique hgbase hbase
      have hhead : b ∈ chain (b :: older) := by
        rw [chain]
        split <;> exact mem_cons_self
      exact List.mem_map_of_mem hhead
    · exact ih hx

end DyData.Projection
