import DyData.ProjectionSound

/-!
A compaction of the active head goes through.  While the compactions of the history fit into
the node budget, the lineage loads, the provenance is complete and the rows of every partition
are found.
-/

namespace DyData.Projection

open Relational List Option
open PythonText (strip)
open Except (bind_ok ofOption_eq_ok_iff ensure_bind ofOption_bind)

variable {x : Generation} {history : List Generation} {seen : List String} {index : Nat}

theorem head?_chain (g : Generation) (older : List Generation) :
    (chain (g :: older)).head? = some g := by
  rw [chain]
  split <;> rfl

theorem checkCompactionKind_ok {g : Generation} {rest : List Generation}
    (hrest : g.generationKind = .compact → rest = []) :
    checkCompactionKind index g rest = .ok () := by
  unfold checkCompactionKind
  by_cases hkind : g.generationKind = .compact
  · rw [if_pos hkind, hrest hkind, (History.base_none (g := g) (by rw [hkind]; decide)).1,
      compactionBase_some hkind]
    split <;> rfl
  · rw [if_neg hkind, compactionBase_none hkind]
    rfl

theorem checkCompactionRows_cons {headDepth : Nat} {g : Generation} {rest : List Generation}
    (hseen : g.generationId ∉ seen) (hstt : g.state = .published)
    (hkind : g.generationKind ≠ .lineage → rest = []) (hdep : g.lineageDepth + index = headDepth)
    (hhex : g.manifestChecksum.any isLowerHex64 = true)
    (hbase : g.baseGenerationId = rest.head?.map Generation.generationId) :
    checkCompactionRows headDepth index seen (g :: rest) =
      checkCompactionRows headDepth (index + 1) (seen ++ [g.generationId]) rest := by
  have hrest : g.generationKind = .compact → rest = [] := fun h => hkind (by rw [h]; decide)
  have hstat : (if index = 0 then decide (g.state = .published)
      else decide (g.state ∈ inheritedCompactStates)) = true := by
    split
    · exact decide_eq_true hstt
    · exact decide_eq_true (published_mem_inherited hstt)
  have hroot : (g.generationKind ≠ .legacyRoot || (rest.isEmpty && g.lineageDepth = 0) : Bool) =
      true := by
    by_cases hk : g.generationKind = .legacyRoot
    · have hne : g.generationKind ≠ .lineage := by rw [hk]; decide
      rw [hkind hne, (History.base_none hne).2]
      simp
    · simp [hk]
  rw [checkCompactionRows, checkCompactionKind_ok hrest]
  simp only [hseen, not_false_eq_true, hstat, hdep, hhex, hbase, hroot, decide_true]
  rfl

theorem History.checkCompactionRows_ok {digests : Digests} {db : Db} {g : Generation}
    {older : List Generation} (h : History digests db (g :: older)) {headDepth : Nat}
    (hdep : g.lineageDepth + index = headDepth) (hseen : ∀ s ∈ seen, s ∉ ids (g :: older)) :
    checkCompactionRows headDepth index seen (chain (g :: older)) = .ok () := by
  have hself : g.generationId ∉ seen := fun hs => hseen _ hs mem_cons_self
  have hstt := (h.published_of_mem mem_cons_self).state
  have hhex := (Option.any_eq_true _ _).mpr (h.hex_of_mem mem_cons_self)
  induction g, older, h using History.chain_induction generalizing index seen with
  | terminal h kind =>
    rw [chain_terminal kind, checkCompactionRows_cons hself hstt (fun _ => rfl) hdep hhex
      (History.base_none kind).1]
    rfl
  | lineage below h fresh kind base depth _ ih =>
    have hnext := next_unseen hseen fresh
    rw [chain_lineage kind, checkCompactionRows_cons hself hstt (fun hne => absurd kind hne)
      hdep hhex (by rw [head?_chain]; exact base)]
    exact ih (by omega) hnext (fun hs => hnext _ hs mem_cons_self)
      (below.published_of_mem mem_cons_self).state
      ((Option.any_eq_true _ _).mpr (below.hex_of_mem mem_cons_self))

theorem History.digest_of_mem {digests : Digests} {db : Db} (h : History digests db history)
    (hx : x ∈ history) : x.manifestChecksum = some (if x.generationKind = .compact then
      digests.compactionChecksum ((db.manifestsOf x.generationId).map Manifest.compactionValue)
      else digests.manifestChecksum
        ((db.manifestsOf x.generationId).map Manifest.checksumValue)) := by
  obtain ⟨-, _, -, hblw⟩ := h.suffix_of_mem hx
  cases hblw with
  | root _ kind _ digest =>
    rw [if_neg (by rw [kind]; decide)]
    exact digest
  | lineage _ _ _ kind _ _ _ built =>
    rw [if_neg (by rw [kind]; decide)]
    exact built.digest
  | compact _ _ _ kind _ _ _ _ digest =>
    rw [if_pos kind]
    exact digest

theorem History.loadCompactionLineage_ok {digests : Digests} {db : Db} {b : Generation}
    {older : List Generation} (h : History digests db (b :: older))
    (hact : db.active = some (some b.generationId)) :
    loadCompactionLineage digests db b.generationId = .ok (chain (b :: older)) := by
  obtain ⟨hlen, _⟩ := h.length_chain
  have hrows : lineageRows db (maxLineageDepth + 2) (some b.generationId) = chain (b :: older) :=
    h.lineageRows_eq_chain (by omega)
  have hdig : validateSourceDigests digests db (chain (b :: older)) = .ok () := by
    rw [validateSourceDigests, Except.forM_eq_ok_iff]
    intro x hx
    rw [demand_eq_ok_iff, decide_eq_true_eq]
    exact h.digest_of_mem (chain_subset _ hx)
  have hchk : checkCompactionRows b.lineageDepth 0 [] (chain (b :: older)) = .ok () :=
    h.checkCompactionRows_ok rfl nofun
  refine ensure_bind (by rw [hact]; simp) ?_
  simp only [hrows]
  obtain ⟨rest, hrest⟩ : ∃ rest, chain (b :: older) = b :: rest := by
    rw [chain]
    split <;> exact ⟨_, rfl⟩
  rw [hrest] at hlen hchk hdig ⊢
  refine ensure_bind (by rw [decide_eq_true_eq]; omega) ?_
  refine ensure_bind (by rw [decide_eq_true_eq]; omega) ?_
  refine bind_ok hchk ?_
  split
  · rfl
  · exact bind_ok hdig rfl

theorem History.provenance_exists {digests : Digests} {db : Db} (h : History digests db history)
    (hbud : (compactIds history).length ≤ maxLineageDepth)
    (hlen : history.length ≤ maxCompactProvenanceSources) :
    ∃ closure, compactionProvenanceRows db (chain history) = .ok closure := by
  obtain ⟨newer, t, below, hspl, hchn, hblw, hend⟩ := h.chain_split
  rw [hchn]
  obtain ⟨inherited, hinh⟩ : ∃ inherited, inheritedSources db (newer ++ [t]) = .ok inherited := by
    rw [inheritedSources, terminalCompact?_append]
    by_cases hkind : t.generationKind = .compact
    · obtain ⟨closure, ctx, hopen, -, -⟩ := open_compact hbud hspl hblw hkind
        (readContext_empty db history) inheritedCompactStates (by decide) (List.Subset.refl _)
      rw [if_pos hkind]
      refine ⟨closure.sources.map sourceDigest, Except.map_eq_ok_iff.mpr ⟨(closure, ctx), ?_, rfl⟩⟩
      rw [resolved_eq_ok_iff]
      exact hopen
    · rw [if_neg hkind]
      exact ⟨[], rfl⟩
  have hperm := hblw.inheritedSources_perm hend hinh
  have hnd := h.nodup
  rw [hspl, append_cons, ids, map_append] at hnd
  have hdisj := (nodup_append.mp hnd).2.2
  have hne : ∀ source ∈ inherited, ∀ own ∈ (newer ++ [t]).map sourceDigest, own.1 ≠ source.1 := by
    intro source hsrc own hown
    obtain ⟨x, hx, rfl⟩ := List.mem_map.mp (hperm.mem_iff.mp hsrc)
    obtain ⟨y, hy, rfl⟩ := List.mem_map.mp hown
    exact hdisj y.generationId (List.mem_map_of_mem hy) x.generationId
      (List.mem_map_of_mem hx)
  have hagree : (inherited.all fun source => ((newer ++ [t]).map sourceDigest).all fun own =>
      own.1 ≠ source.1 || own.2 = source.2) = true := by
    rw [List.all_eq_true]
    intro source hsrc
    rw [List.all_eq_true]
    intro own hown
    simp [hne source hsrc own hown]
  set sources := (newer ++ [t]).map sourceDigest ++ inherited.filter fun source =>
    source.1 ∉ ((newer ++ [t]).map sourceDigest).map Prod.fst with hsrcs
  have hcnt : sources.length ≤ maxCompactProvenanceSources := by
    have hfilt := length_filter_le (fun source : String × String =>
      decide (source.1 ∉ ((newer ++ [t]).map sourceDigest).map Prod.fst)) inherited
    have hinheritedLength : inherited.length = below.length := by
      rw [hperm.length_eq, length_map]
    have htot : history.length = (newer ++ [t]).length + below.length := by
      rw [hspl]
      simp only [length_append, length_cons, length_nil]
      omega
    rw [length_append, length_map]
    omega
  refine ⟨sources.mergeSort fun a b => decide (a.1 ≤ b.1), ?_⟩
  refine bind_ok hinh ?_
  refine ensure_bind hagree ?_
  exact ensure_bind (decide_eq_true hcnt) rfl

def CanonicalKey (key : String) : Prop := key ≠ "" ∧ strip key = key

section Payloads

variable {digests : Digests} {db : Db} {g : Generation} {older : List Generation}

def Covered (resolutions : List PartitionResolution) (partition : Artifact × String) : Prop :=
  ∃ r ∈ resolutions, r.artifact = partition.1 ∧ r.partitionKey = partition.2

theorem resolveArtifact_exists (h : History digests db (g :: older))
    (hbud : (compactIds (g :: older)).length ≤ maxLineageDepth) {page : List (Artifact × String)}
    (hpage : page.length ≤ maxPartitionKeys) (hkeys : ∀ p ∈ page, CanonicalKey p.2)
    {state : List PartitionResolution × ProvenanceContext}
    (hstt : ReadContext db (g :: older) state.2) (artifact : Artifact) :
    ∃ state', resolveArtifact db g.generationId page state artifact = .ok state' ∧
      ReadContext db (g :: older) state'.2 ∧ state.1 ⊆ state'.1 ∧
      ∀ p ∈ page, p.1 = artifact → Covered state'.1 p := by
  set keys := (page.filter fun entry => entry.1 = artifact).map Prod.snd with hkeysd
  have hmem : ∀ p ∈ page, p.1 = artifact → p.2 ∈ keys := fun p hp hart =>
    List.mem_map_of_mem (mem_filter.mpr ⟨hp, decide_eq_true hart⟩)
  have hcan : ∀ key ∈ keys, CanonicalKey key := by
    intro key hkey
    obtain ⟨p, hp, rfl⟩ := List.mem_map.mp hkey
    exact hkeys p (mem_filter.mp hp).1
  have hreq : RequestOk keys := by
    refine ⟨?_, ?_⟩
    · rw [length_map]
      exact Nat.le_trans (length_filter_le _ _) hpage
    · intro key hkey
      rw [(hcan key hkey).2]
      exact (hcan key hkey).1
  unfold resolveArtifact
  by_cases hnil : keys.isEmpty = true
  · rw [if_pos hnil]
    refine ⟨state, rfl, hstt, List.Subset.refl _, ?_⟩
    intro p hp hart
    have := hmem p hp hart
    rw [List.isEmpty_iff.mp hnil] at this
    cases this
  · rw [if_neg hnil]
    obtain ⟨found, ctx, hok, hctx⟩ := h.resolve_exists hbud artifact hreq hstt
    refine ⟨(state.1 ++ found, ctx), ?_, hctx, subset_append_left _ _, ?_⟩
    · exact bind_ok (a := (found, ctx)) (by rw [resolved_eq_ok_iff]; exact hok) rfl
    · intro p hp hart
      obtain ⟨_, hbdd, hrdg⟩ := h.resolve_reading hok
      have hkey := (boundedPartitionKeys_ok hbdd).2 p.2 (hmem p hp hart)
      rw [(hkeys p hp).2] at hkey
      have hshown : shown db artifact (g :: older) p.2 ∈ found.map PartitionResolution.reading := by
        rw [hrdg]
        exact List.mem_map_of_mem hkey
      obtain ⟨r, hr, hrsh⟩ := List.mem_map.mp hshown
      refine ⟨r, mem_append_right _ hr, ?_, congrArg Reading.partitionKey hrsh⟩
      exact (congrArg Reading.artifact hrsh).trans hart.symm

theorem resolveArtifacts_exists (h : History digests db (g :: older))
    (hbud : (compactIds (g :: older)).length ≤ maxLineageDepth) {page : List (Artifact × String)}
    (hpage : page.length ≤ maxPartitionKeys) (hkeys : ∀ p ∈ page, CanonicalKey p.2)
    (artifacts : List Artifact) (state : List PartitionResolution × ProvenanceContext)
    (hstt : ReadContext db (g :: older) state.2) :
    ∃ state', artifacts.foldlM (resolveArtifact db g.generationId page) state = .ok state' ∧
      ReadContext db (g :: older) state'.2 ∧ state.1 ⊆ state'.1 ∧
      ∀ p ∈ page, p.1 ∈ artifacts → Covered state'.1 p := by
  induction artifacts generalizing state with
  | nil => exact ⟨state, rfl, hstt, List.Subset.refl _, nofun⟩
  | cons artifact rest ih =>
    obtain ⟨middle, hmidd, hctx, hsub, hcov⟩ :=
      resolveArtifact_exists h hbud hpage hkeys hstt artifact
    obtain ⟨last, hlast, hlctx, hlsub, hlcov⟩ := ih middle hctx
    refine ⟨last, ?_, hlctx, List.Subset.trans hsub hlsub, ?_⟩
    · exact bind_ok hmidd hlast
    · intro p hp hart
      rcases mem_cons.mp hart with hsame | hrest
      · obtain ⟨r, hr, hpart⟩ := hcov p hp hsame
        exact ⟨r, hlsub hr, hpart⟩
      · exact hlcov p hp hrest

theorem terminalCompact?_of_mem (hx : x ∈ chain history) (hkind : x.generationKind = .compact) :
    terminalCompact? (chain history) = some x := by
  induction history with
  | nil => cases hx
  | cons g older ih =>
    by_cases hg : g.generationKind = .lineage
    · rw [chain_lineage hg] at hx ⊢
      rcases mem_cons.mp hx with rfl | hx
      · rw [hkind] at hg
        cases hg
      · cases older with
        | nil => cases hx
        | cons b rest =>
          rw [terminalCompact?, getLast?_cons_of_ne_nil (chain_ne_nil b rest)]
          exact ih hx
    · rw [chain_terminal hg] at hx ⊢
      obtain rfl := mem_singleton.mp hx
      simp [terminalCompact?, hkind]

theorem sourcePayload_exists (h : History digests db history)
    {resolutions : List PartitionResolution} (hfai : ∀ r ∈ resolutions, Faithful db history r)
    {partition : Artifact × String} (hcov : Covered resolutions partition) :
    ∃ payload, sourcePayload db (chain history) resolutions partition = .ok payload := by
  obtain ⟨artifact, key⟩ := partition
  obtain ⟨r, hr⟩ : ∃ r, resolutions.find? (fun r => r.artifact = artifact &&
      r.partitionKey = key) = some r := by
    obtain ⟨r, hr, hart, hkey⟩ := hcov
    rw [← isSome_iff_exists, find?_isSome]
    exact ⟨r, hr, by simp [hart, hkey]⟩
  obtain ⟨hsrc, howner⟩ := resolution_found hfai hr
  have hlook : Except.ofOption (resolutions.find? fun r => r.artifact = artifact &&
      r.partitionKey = key) (⟨"compaction resolution is incomplete"⟩ : BootstrapError) = .ok r := by
    rw [ofOption_eq_ok_iff]
    exact hr
  by_cases hleg : r.sourceKind = .legacyRoot
  · refine ⟨none, bind_ok hlook ?_⟩
    rw [if_pos hleg]
    rfl
  · -- the resolution names the row the history shows
    obtain ⟨m, hview⟩ : ∃ m, view db artifact key history = some m := by
      cases hview : view db artifact key history with
      | none =>
        rw [hview] at hsrc
        exact absurd (congrArg Prod.fst hsrc) hleg
      | some m => exact ⟨m, rfl⟩
    rw [hview] at hsrc howner
    have hkind : r.sourceKind = m.sourceKind := congrArg Prod.fst hsrc
    have hdata : r.actualDataGenerationId = m.dataGenerationId := congrArg Prod.snd hsrc
    obtain ⟨hid, hrow⟩ := view_mem hview
    obtain ⟨x, hx, hxid⟩ := List.mem_map.mp hid
    rw [← hxid] at hrow
    have hrowOf := h.rowOf (chain_subset _ hx) hrow
    have hfind : (chain history).find? (fun g => g.generationId = m.generationId) = some x := by
      cases hfd : (chain history).find? (fun g => g.generationId = m.generationId) with
      | none =>
        have hall := find?_eq_none.mp hfd x hx
        simp [hxid] at hall
      | some y =>
        have hy := chain_subset _ (mem_of_find?_eq_some hfd)
        have hyid : y.generationId = m.generationId := by simpa using find?_some hfd
        have hyrow := (h.published_of_mem hy).row
        rw [hyid, ← hxid, (h.published_of_mem (chain_subset _ hx)).row] at hyrow
        rw [some.inj hyrow]
    have hcomp : x.generationKind = .compact →
        ((terminalCompact? (chain history)).any fun t => t.generationId = m.generationId) = true := by
      intro hk
      rw [terminalCompact?_of_mem hx hk, any_some, hxid]
      exact decide_eq_true rfl
    refine ⟨some m, bind_ok hlook ?_⟩
    rw [if_neg hleg]
    refine ofOption_bind howner ?_
    refine ofOption_bind (by rw [← hxid]; exact hrow) ?_
    refine bind_ok (a := ()) ?_ ?_
    · rcases hrowOf.reference with hnone | ⟨hk, hsome⟩
      · rw [hnone]
        rfl
      · rw [hsome, hcomp hk, hxid]
        simp
    refine ensure_bind ?_ ?_
    · rw [hfind, bind_some, hrowOf.base]
      exact decide_eq_true rfl
    refine bind_ok (a := ()) ?_ (bind_ok (a := ()) ?_ rfl)
    · unfold checkPayloadSource
      cases hm : m.sourceKind with
      | legacyRoot => exact absurd (hkind.trans hm) hleg
      | tombstone =>
        obtain ⟨howner, hnone, hcnt⟩ := Manifest.of_tombstone hm
        rw [if_pos (hkind.trans hm), howner, hnone, hcnt]
        rfl
      | overlay =>
        have hne : r.sourceKind ≠ .tombstone := by rw [hkind, hm]; decide
        obtain ⟨leaf, own, hleaf⟩ := h.leaf hview hm
        rw [if_neg hne, demand_eq_ok_iff, Manifest.owner_of_overlay hm, hdata, hleaf.data,
          any_some]
        have hvouc : ((terminalCompact? (chain history)).any
            (fun t => t.generationId = m.generationId) ||
            decide (leaf.generationId ∈ (chain history).map Generation.generationId)) = true := by
          rcases hrowOf.data hm with hk | hown
          · rw [hcomp hk]
            rfl
          · rw [hleaf.data] at hown
            rw [some.inj hown, decide_eq_true (List.mem_map_of_mem hx), Bool.or_true]
        rw [hvouc]
        simp
    · rw [demand_eq_ok_iff]
      by_cases hm : m.sourceKind = .overlay
      · obtain ⟨_, _, hleaf⟩ := h.leaf hview hm
        rw [hleaf.checksum, Bool.or_true]
      · simp [hm]

theorem mem_pages {α : Type} {size fuel : Nat} {items page : List α}
    (h : page ∈ pages size fuel items) : page.length ≤ size ∧ page ⊆ items := by
  induction fuel generalizing items with
  | zero => cases h
  | succ fuel ih =>
    rw [pages] at h
    split at h
    · cases h
    · rcases mem_cons.mp h with rfl | h
      · exact ⟨length_take_le _ _, take_subset _ _⟩
      · obtain ⟨hlen, hsub⟩ := ih h
        exact ⟨hlen, List.Subset.trans hsub (drop_subset _ _)⟩

theorem compactionPayloads_ok (h : History digests db (g :: older))
    (hbud : (compactIds (g :: older)).length ≤ maxLineageDepth)
    (hkeys : ∀ m ∈ db.manifests.rows, CanonicalKey m.partitionKey) {batchSize : Nat}
    (hpos : 0 < batchSize) (hbat : batchSize ≤ maxPartitionKeys) :
    compactionPayloads db g.generationId (chain (g :: older)) batchSize =
      .ok (keptRows db (g :: older)) := by
  have hpart : ∀ p ∈ lineagePartitions db (chain (g :: older)), CanonicalKey p.2 := by
    intro p hp
    unfold lineagePartitions at hp
    rw [mem_mergeSort, mem_dedup] at hp
    obtain ⟨m, hm, rfl⟩ := List.mem_map.mp hp
    exact hkeys m (mem_filter.mp hm).1
  obtain ⟨found, hfd⟩ : ∃ found, (pages batchSize
      (lineagePartitions db (chain (g :: older))).length
      (lineagePartitions db (chain (g :: older)))).mapM
      (sourcePayloadPage db g.generationId (chain (g :: older))) = .ok found := by
    refine Except.exists_mapM_ok fun page hpage => ?_
    obtain ⟨hlen, hsub⟩ := mem_pages hpage
    obtain ⟨state, hres, hctx, -, hcov⟩ := resolveArtifacts_exists h hbud
      (Nat.le_trans hlen hbat) (fun p hp => hpart p (hsub hp))
      [.monthly, .ranking, .score] ([], {}) (readContext_empty db _)
    have hfai := resolvePage_faithful h hres
    obtain ⟨ctx, hopen, -⟩ := openTerminal_exists h hbud hctx
    obtain ⟨payloads, hpays⟩ := Except.exists_mapM_ok
      (f := sourcePayload db (chain (g :: older)) state.1) (l := page) fun p hp =>
        sourcePayload_exists h hfai (hcov p hp (by cases p.1 <;> decide))
    refine ⟨payloads.filterMap id, bind_ok hres ?_⟩
    refine bind_ok (a := ctx) (by rw [resolved_eq_ok_iff]; exact hopen) ?_
    exact bind_ok hpays rfl
  have hok : compactionPayloads db g.generationId (chain (g :: older)) batchSize =
      .ok found.flatten := bind_ok hfd rfl
  rw [hok, compactionPayloads_eq h hpos hok]

end Payloads

end DyData.Projection
