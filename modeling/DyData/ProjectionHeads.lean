import DyData.ProjectionAnswers

/-!
Reading a published head.  The resolver answers every bounded request on the head of a history
with what the history shows, exactly while the compactions fit into the node budget.
-/

namespace DyData.Projection

open Relational List
open PythonText (strip)
open Except (of_bind bind_ok map_eq_ok_iff)

variable {m : Manifest} {digests : Digests} {db : Db} {history older : List Generation}
  {artifact : Artifact} {ctx : ProvenanceContext} {keys : List String} {g : Generation}

theorem Manifest.reference_none (h : m.sourceKind ≠ .overlay) :
    m.referenceHeadGenerationId = none := by
  rcases m.referenceCheck with hnone | ⟨-, hover⟩
  · exact hnone
  · exact absurd hover h

theorem Manifest.owner_of_legacyRoot (h : m.sourceKind = .legacyRoot) : m.ownerState = .owned := by
  have hchk := m.sourceCheck
  cases hown : m.ownerState with
  | owned => rfl
  | tombstone => simp [sourceInvariants, h, hown] at hchk

theorem validateManifest_ok {row : Manifest} {lineage : List Generation} {owner : Generation}
    (hbase : row.baseGenerationId = owner.baseGenerationId)
    (href : row.referenceHeadGenerationId = none)
    (hin : ∀ base, row.baseGenerationId = some base → base ∈ ids lineage)
    (hdata : row.sourceKind = .overlay → ∃ x ∈ ids lineage, row.dataGenerationId = some x) :
    validateManifest row lineage owner = .ok () := by
  have hbases : (row.baseGenerationId.all fun base =>
      base ∈ lineage.map Generation.generationId) = true := by
    rw [Option.all_eq_true]
    intro base hmem
    exact decide_eq_true (hin base hmem)
  unfold validateManifest
  cases hsrc : row.sourceKind with
  | overlay =>
    obtain ⟨x, hx, hrow⟩ := hdata hsrc
    have hx' : x ∈ lineage.map Generation.generationId := hx
    simp only [Manifest.owner_of_overlay hsrc, href, hbases, hrow, ← hbase, Option.any_some, hx']
    rfl
  | legacyRoot =>
    simp only [Manifest.owner_of_legacyRoot hsrc, href, hbases, ← hbase,
      Manifest.data_of_legacyRoot hsrc]
    rfl
  | tombstone =>
    obtain ⟨hown, hnone, hcnt⟩ := Manifest.of_tombstone hsrc
    simp only [hown, hnone, hcnt, href, hbases, ← hbase]
    rfl

structure RowOf (x : Generation) (m : Manifest) : Prop where
  base : m.baseGenerationId = x.baseGenerationId
  reference : m.referenceHeadGenerationId = none ∨
    x.generationKind = .compact ∧ m.referenceHeadGenerationId = some x.generationId
  data : m.sourceKind = .overlay →
    x.generationKind = .compact ∨ m.dataGenerationId = some x.generationId

theorem History.rowOf (h : History digests db history) (hx : x ∈ history) {artifact : Artifact}
    {key : String} {m : Manifest} (hrow : db.manifest? x.generationId artifact key = some m) :
    RowOf x m := by
  obtain ⟨hmem, hid, -, -⟩ := Db.mem_of_manifest? hrow
  obtain ⟨_, _, -, hblw⟩ := h.suffix_of_mem hx
  cases hblw with
  | root published kind rows _ =>
    obtain ⟨hleg, hbase⟩ := rows m hmem hid
    have hover : m.sourceKind ≠ .overlay := by rw [hleg]; decide
    refine ⟨?_, .inl (Manifest.reference_none hover), fun ho => absurd ho hover⟩
    rw [hbase, (History.base_none (g := x) (by rw [kind]; decide)).1]
  | lineage below published fresh kind base depth bound built =>
    obtain ⟨hbase, href, hkinds⟩ := built.rows m hmem hid
    refine ⟨hbase, .inl href, fun hover => .inr ?_⟩
    rcases hkinds with htomb | ⟨-, hdata, -, -⟩
    · rw [htomb] at hover
      cases hover
    · exact hdata
  | compact below published fresh kind base closure bound rows digest =>
    obtain ⟨-, hbase, href⟩ := (History.compact below published fresh kind base closure
      bound rows digest).compact_row kind hrow
    refine ⟨?_, ?_, fun _ => .inl kind⟩
    · rw [hbase, (History.base_none (g := x) (by rw [kind]; decide)).1]
    · split at href
      · exact .inr ⟨kind, href⟩
      · exact .inl href

/-- Every row of the chain passes; those a compaction claims over overlays are to be proved. -/
theorem History.checkManifestRow_ok (h : History digests db history) {x : Generation}
    (hx : x ∈ chain history) {key : String}
    (hrow : db.manifest? x.generationId artifact key = some m) :
    ∃ claim, checkManifestRow (chain history) x m = .ok claim ∧ ∀ c ∈ claim,
      c = m ∧ m.sourceKind = .overlay ∧ x.generationKind = .compact := by
  have hof := h.rowOf (chain_subset history hx) hrow
  have hval : m.referenceHeadGenerationId = none →
      (m.sourceKind = .overlay → m.dataGenerationId = some x.generationId) →
      validateManifest m (chain history) x = .ok () := fun href hdata =>
    validateManifest_ok hof.base href (fun base hb => h.base_mem_chain hx (hof.base ▸ hb))
      fun ho => ⟨_, mem_map_of_mem hx, hdata ho⟩
  by_cases kind : x.generationKind = .compact
  · obtain ⟨_, _, -, hblw⟩ := h.suffix_of_mem (chain_subset history hx)
    rw [checkManifestRow, if_pos kind]
    cases hsrc : m.sourceKind with
    | legacyRoot => exact absurd hsrc (hblw.compact_row kind hrow).1
    | overlay =>
      rw [Manifest.owner_of_overlay hsrc]
      refine ⟨some m, rfl, ?_⟩
      intro c hc
      exact ⟨(Option.mem_some_iff.mp hc).symm, rfl, kind⟩
    | tombstone =>
      have hover : m.sourceKind ≠ .overlay := by rw [hsrc]; decide
      rw [(Manifest.of_tombstone hsrc).1, hval (Manifest.reference_none hover)
        fun ho => absurd ho hover]
      exact ⟨none, rfl, fun c hc => by cases hc⟩
  · -- an ordinary owner: its row is validated against the chain
    rw [checkManifestRow, if_neg kind, hval (hof.reference.resolve_right fun hc => kind hc.1)
      fun ho => (hof.data ho).resolve_left kind]
    exact ⟨none, rfl, fun c hc => by cases hc⟩

theorem resolveKey_reading (db : Db) (artifact : Artifact) (history : List Generation)
    (key : String) :
    (resolveKey db artifact (chain history) key).reading = shown db artifact history key := by
  have hview := nearestManifest_chain db artifact key 0 history
  unfold resolveKey
  cases hnear : nearestManifest db artifact key 0 (chain history) with
  | none =>
    rw [hnear] at hview
    exact legacyFallback_reading _ hview.symm
  | some found =>
    obtain ⟨_, owner, row⟩ := found
    rw [hnear] at hview
    have hid := (Db.mem_of_manifest? (nearestManifest_owner hnear).2).2.1
    rw [shown, ← hview]
    change Reading.mk artifact key (some owner.generationId) _ =
      Reading.mk artifact key (some row.generationId) _
    rw [hid]
    rfl

theorem History.checkOverlayRows_ok (h : History digests db history) (artifact : Artifact)
    (key : String) : checkOverlayRows db artifact (chain history) key = .ok () := by
  have hview := nearestManifest_chain db artifact key 0 history
  unfold checkOverlayRows
  cases hnear : nearestManifest db artifact key 0 (chain history) with
  | none => rfl
  | some found =>
    obtain ⟨_, _, row⟩ := found
    rw [hnear] at hview
    cases hsrc : row.sourceKind with
    | legacyRoot => simp only [hsrc]
    | tombstone => simp only [hsrc]
    | overlay =>
      have hshown : view db artifact key history = some row := hview.symm
      obtain ⟨_, _, leaf⟩ := h.leaf hshown hsrc
      simp only [hsrc, leaf.data, leaf.present, Nat.le_refl, decide_true, Bool.or_true]
      rfl

theorem openTerminal_exists (h : History digests db history)
    (hbud : (compactIds history).length ≤ maxLineageDepth) (hctx : ReadContext db history ctx) :
    ∃ ctx', openTerminal db (chain history) ctx = .ok ctx' ∧ ReadContext db history ctx' := by
  unfold openTerminal
  rcases h.terminal with ⟨hnone, -⟩ | ⟨t, older, newer, hsome, hspl, hblw, hkind, -⟩
  · rw [hnone]
    exact ⟨ctx, rfl, hctx⟩
  · rw [hsome]
    obtain ⟨_, ctx', hopen, hctx', -⟩ := open_compact hbud hspl hblw hkind hctx
      inheritedCompactStates (by decide) (List.Subset.refl _)
    refine ⟨ctx', ?_, hctx'⟩
    change Except.map Prod.snd (verifiedClosure db provenanceFuel [] ctx t.generationId
      inheritedCompactStates) = .ok ctx'
    rw [hopen]
    rfl

theorem mem_lineageManifests {rows : List Generation} {x : Generation}
    (h : (x, m) ∈ lineageManifests db artifact rows keys) :
    x ∈ rows ∧ ∃ key ∈ keys, db.manifest? x.generationId artifact key = some m := by
  obtain ⟨_, hg, hent⟩ := mem_flatMap.mp h
  obtain ⟨key, hkey, hmap⟩ := mem_filterMap.mp hent
  obtain ⟨_, hrow, hpair⟩ := Option.map_eq_some_iff.mp hmap
  cases hpair
  exact ⟨hg, key, hkey, hrow⟩

theorem resolveLineage_exists (h : History digests db (g :: older))
    (hbud : (compactIds (g :: older)).length ≤ maxLineageDepth) (artifact : Artifact)
    (keys : List String) (hctx : ReadContext db (g :: older) ctx) :
    ∃ found ctx', resolveLineage db artifact keys g.generationId g (chain (g :: older)) ctx =
      .ok (found, ctx') ∧ ReadContext db (g :: older) ctx' := by
  set rows := chain (g :: older) with hrows
  set f : Generation × Manifest → Except LineageError (Option (String × String × Manifest)) :=
    fun entry => (checkManifestRow rows entry.1 entry.2).map fun claim =>
      claim.map fun row => (entry.1.generationId, row.partitionKey, row) with hf
  obtain ⟨_, hopen, hopene⟩ := openTerminal_exists h hbud hctx
  obtain ⟨claims, hclms⟩ := Except.exists_mapM_ok (f := f)
    (l := lineageManifests db artifact rows keys) (by
      rintro ⟨x, m⟩ hent
      obtain ⟨hx, key, -, hrow⟩ := mem_lineageManifests hent
      obtain ⟨claim, hclm, -⟩ := h.checkManifestRow_ok hx hrow
      exact ⟨_, map_eq_ok_iff.mpr ⟨claim, hclm, rfl⟩⟩)
  have hclaimsOf : ∀ c ∈ claims.filterMap id,
      ClaimOf digests db (g :: older) artifact ⟨[c.1], c.1, c.2.1, c.2.2⟩ := by
    intro c hc
    obtain ⟨entry, hent, hid⟩ := mem_filterMap.mp hc
    obtain rfl : entry = some c := hid
    obtain ⟨⟨_, _⟩, hlist, hmap⟩ := (Except.mem_of_mapM_ok hclms).mp hent
    obtain ⟨hx, key, -, hrow⟩ := mem_lineageManifests hlist
    obtain ⟨claim, hclm, hprov⟩ := h.checkManifestRow_ok hx hrow
    obtain ⟨claim', hclm', hsome⟩ := map_eq_ok_iff.mp hmap
    obtain rfl : claim = claim' := Except.ok.inj (hclm.symm.trans hclm')
    obtain ⟨row, hrowc, rfl⟩ := Option.map_eq_some_iff.mp hsome
    obtain ⟨rfl, hover, hkind⟩ := hprov row hrowc
    obtain ⟨_, _, hspl, hblw⟩ := h.suffix_of_mem (chain_subset _ hx)
    rw [(Db.mem_of_manifest? hrow).2.2.2]
    exact claimOf_row hspl hblw hkind hrow hover
  obtain ⟨last, hlast, hread⟩ := verifyClaimsWhen_exists hbud (terminalCompact? rows).isSome
    hclaimsOf hopene
  refine ⟨keys.map (resolveKey db artifact rows), last, ?_, hread⟩
  refine bind_ok h.checkLineage_ok ?_
  refine bind_ok hopen ?_
  refine bind_ok hclms ?_
  refine bind_ok hlast ?_
  refine bind_ok (a := ()) ?_ rfl
  rw [Except.forM_eq_ok_iff]
  intro key _
  exact h.checkOverlayRows_ok artifact key

theorem resolveLineage_reading {pinned : String} {ctx' : ProvenanceContext}
    {found : List PartitionResolution}
    (h : resolveLineage db artifact keys pinned g (chain history) ctx = .ok (found, ctx')) :
    found.map PartitionResolution.reading = keys.map (shown db artifact history) ∧
      ∃ opened, openTerminal db (chain history) ctx = .ok opened := by
  obtain ⟨_, -, h⟩ := of_bind h
  obtain ⟨opened, hopen, h⟩ := of_bind h
  iterate 3 obtain ⟨_, -, h⟩ := of_bind h
  cases h
  refine ⟨?_, opened, hopen⟩
  rw [map_map]
  exact map_congr_left fun key _ => resolveKey_reading db artifact history key

def RequestOk (keys : List String) : Prop :=
  keys.length ≤ maxPartitionKeys ∧ ∀ key ∈ keys, strip key ≠ ""

/-- The requested keys that are canonical are among the resolved ones. -/
theorem boundedPartitionKeys_ok {consumed : Nat} {seen keys found : List String}
    (h : boundedPartitionKeys consumed seen keys = .ok found) :
    seen ⊆ found ∧ ∀ key ∈ keys, strip key ∈ found := by
  induction keys generalizing consumed seen with
  | nil =>
    cases h
    exact ⟨List.Subset.refl _, nofun⟩
  | cons key rest ih =>
    rw [boundedPartitionKeys] at h
    split at h
    · cases h
    · split at h
      · cases h
      · obtain ⟨hseen, hrest⟩ := ih h
        have hkept : seen ⊆ found ∧ strip key ∈ found := by
          split at hseen
          · rename_i hmem
            exact ⟨hseen, hseen hmem⟩
          · exact ⟨fun x hx => hseen (mem_append_left _ hx),
              hseen (mem_append_right _ mem_cons_self)⟩
        refine ⟨hkept.1, fun x hx => ?_⟩
        rcases mem_cons.mp hx with rfl | hx
        · exact hkept.2
        · exact hrest x hx

theorem boundedPartitionKeys_exists {consumed : Nat} (seen : List String)
    (hcnt : consumed + keys.length ≤ maxPartitionKeys)
    (hkeys : ∀ key ∈ keys, strip key ≠ "") :
    ∃ bounded, boundedPartitionKeys consumed seen keys = .ok bounded ∧
      (keys ≠ [] ∨ seen ≠ [] → bounded ≠ []) := by
  induction keys generalizing consumed seen with
  | nil => exact ⟨seen, rfl, fun h => h.resolve_left (fun hnil => hnil rfl)⟩
  | cons key rest ih =>
    rw [length_cons] at hcnt
    have hroom : ¬ maxPartitionKeys < consumed + 1 := by omega
    obtain ⟨bounded, hok, hne⟩ := ih
      (if strip key ∈ seen then seen else seen ++ [strip key])
      (by omega : consumed + 1 + rest.length ≤ maxPartitionKeys)
      fun k hk => hkeys k (mem_cons_of_mem key hk)
    refine ⟨bounded, ?_, fun _ => hne (.inr ?_)⟩
    · rw [boundedPartitionKeys, if_neg hroom, if_neg (hkeys key mem_cons_self), hok]
    · split
      · rename_i hmem
        exact ne_nil_of_mem hmem
      · exact append_ne_nil_of_right_ne_nil _ (cons_ne_nil _ _)

variable (h : History digests db (g :: older))
include h

/-- What the resolver does with a request on the head of a history. -/
theorem History.resolve_eq (artifact : Artifact) {bounded : List String}
    (hbdd : boundedPartitionKeys 0 [] keys = .ok bounded) (hne : bounded ≠ [])
    (ctx : ProvenanceContext) :
    resolveProjectionPartitions db artifact keys (some g.generationId) ctx =
      if g.generationKind = .compact then resolveCompactPartitions db artifact bounded g ctx
      else resolveLineage db artifact bounded g.generationId g (chain (g :: older)) ctx := by
  have hrows : lineageRows db (maxLineageDepth + 1) (some g.generationId) = chain (g :: older) := by
    refine h.lineageRows_eq_chain ?_
    have hdep := h.length_chain.2
    omega
  have hnil : bounded.isEmpty = false := isEmpty_eq_false_iff.mpr hne
  unfold resolveProjectionPartitions
  rw [hbdd]
  simp only [bind, Except.bind, hnil, hrows]
  by_cases hkind : g.generationKind = .lineage
  · rw [chain_lineage hkind]
    simp [hkind]
  · rw [chain_terminal hkind]
    by_cases hcomp : g.generationKind = .compact
    · simp [hcomp, ensure, Except.ensure]
    · simp [hcomp]

theorem History.resolve_reading {ctx' : ProvenanceContext} {found : List PartitionResolution}
    (hok : resolveProjectionPartitions db artifact keys (some g.generationId) ctx =
      .ok (found, ctx')) :
    ∃ bounded, boundedPartitionKeys 0 [] keys = .ok bounded ∧
      found.map PartitionResolution.reading = bounded.map (shown db artifact (g :: older)) := by
  obtain ⟨bounded, hbdd, hrest⟩ := of_bind hok
  refine ⟨bounded, hbdd, ?_⟩
  by_cases hne : bounded = []
  · subst hne
    cases hrest
    rfl
  · rw [h.resolve_eq artifact hbdd hne] at hok
    split at hok
    · exact (resolveCompactPartitions_reading older hok).1
    · exact (resolveLineage_reading hok).1

theorem History.budget_of_resolve {bounded : List String}
    (hbdd : boundedPartitionKeys 0 [] keys = .ok bounded) (hne : bounded ≠ [])
    (hctx : ContextOk db ctx) {result : List PartitionResolution × ProvenanceContext}
    (hok : resolveProjectionPartitions db artifact keys (some g.generationId) ctx = .ok result) :
    (compactIds (g :: older)).length ≤ maxLineageDepth := by
  rw [h.resolve_eq artifact hbdd hne] at hok
  split at hok
  · rename_i hkind
    obtain ⟨⟨closure, opened⟩, hopen⟩ := (resolveCompactPartitions_reading older hok).2
    exact h.compactIds_le_of_verified hkind hctx (by decide) hopen
  · obtain ⟨_, hopen⟩ := (resolveLineage_reading hok).2
    rcases h.terminal with ⟨-, hnone⟩ | ⟨t, below, newer, hsome, -, hblw, hkind, hids⟩
    · rw [hnone]
      exact Nat.zero_le _
    · rw [openTerminal, hsome] at hopen
      obtain ⟨⟨_, _⟩, hcl, -⟩ := map_eq_ok_iff.mp hopen
      rw [hids]
      exact hblw.compactIds_le_of_verified hkind hctx (List.Subset.refl _) hcl

/-- While the compactions fit into the budget, every bounded request is answered. -/
theorem History.resolve_exists (hbud : (compactIds (g :: older)).length ≤ maxLineageDepth)
    (artifact : Artifact) (hkeys : RequestOk keys) (hctx : ReadContext db (g :: older) ctx) :
    ∃ found ctx', resolveProjectionPartitions db artifact keys (some g.generationId) ctx =
      .ok (found, ctx') ∧ ReadContext db (g :: older) ctx' := by
  obtain ⟨bounded, hbdd, -⟩ := boundedPartitionKeys_exists []
    (by simpa using hkeys.1 : 0 + keys.length ≤ maxPartitionKeys) hkeys.2
  by_cases hne : bounded = []
  · subst hne
    exact ⟨[], ctx, bind_ok hbdd rfl, hctx⟩
  · rw [h.resolve_eq artifact hbdd hne]
    split
    · rename_i hkind
      exact resolveCompactPartitions_exists h hbud hkind artifact bounded hctx
    · exact resolveLineage_exists h hbud artifact bounded hctx

end DyData.Projection
