import DyData.ProjectionViews

/-!
The provenance of a compaction in a history: its closure holds every older generation, so a
reader that verifies it opens every compaction below, and succeeds exactly while these fit
into the node budget.
-/

namespace DyData.Projection

open Relational List
open Except (of_bind bind_ok pure_eq_ok_iff ensure_bind ofOption_bind)

variable {g b t : Generation} {digests : Digests} {db : Db} {older history : List Generation}
  {compactId : String} {closure : VerifiedClosure} {allowed : List GenerationState}
  {path : List String} {ctx : ProvenanceContext}

@[simp] theorem reader_ensure_iff {condition : Bool} {message : String} {u : Unit} :
    ensure condition message = .ok u ↔ condition = true :=
  Except.ensure_eq_ok_iff

theorem published_mem_inherited (h : g.state = .published) : g.state ∈ inheritedCompactStates := by
  rw [h]
  decide

theorem History.older_of_compact (h : History digests db (g :: older))
    (hkind : g.generationKind = .compact) : ∃ b rest, older = b :: rest := by
  cases h with
  | root _ kind => rw [kind] at hkind; cases hkind
  | lineage => exact ⟨_, _, rfl⟩
  | compact => exact ⟨_, _, rfl⟩

theorem History.compactionBase (h : History digests db (g :: b :: older))
    (hkind : g.generationKind = .compact) :
    g.compactionBaseGenerationId = some b.generationId ∧ b.generationId ≠ g.generationId := by
  cases h with
  | lineage _ _ _ kind => rw [kind] at hkind; cases hkind
  | compact _ _ fresh _ base =>
    refine ⟨base, fun he => fresh ?_⟩
    rw [← he]
    exact mem_map_of_mem mem_cons_self

theorem History.tail (h : History digests db (g :: b :: older)) :
    History digests db (b :: older) := by
  cases h with
  | lineage below => exact below
  | compact below => exact below

theorem mem_closureRows {r : ClosureRow}
    (hbd : (db.closure.rows.filter fun r => r.compactGenerationId = compactId).length ≤
      maxCompactProvenanceSources) :
    r ∈ closureRows db compactId ↔ r ∈ db.closure.rows ∧ r.compactGenerationId = compactId := by
  unfold closureRows
  rw [take_of_length_le (by rw [length_mergeSort]; omega), mem_mergeSort,
    mem_filter, decide_eq_true_eq]

/-- The closure of a compaction has at most as many rows as older generations. -/
theorem closure_length
    (hcl : ∀ source digest, (⟨compactId, source, digest⟩ : ClosureRow) ∈ db.closure.rows ↔
      (source, digest) ∈ older.map sourceDigest) :
    (db.closure.rows.filter fun r => r.compactGenerationId = compactId).length ≤ older.length := by
  set rows := db.closure.rows.filter fun r => r.compactGenerationId = compactId with hrows
  have hnd : (rows.map fun r => (r.sourceGenerationId, r.sourceDigest)).Nodup := by
    have hkeys : (rows.map ClosureRow.identity).Nodup :=
      db.closure.nodup.sublist (filter_sublist.map _)
    refine Nodup.of_map Prod.fst ?_
    have hids : (rows.map ClosureRow.identity).map Prod.snd =
        (rows.map fun r => (r.sourceGenerationId, r.sourceDigest)).map Prod.fst := by
      rw [map_map, map_map]
      rfl
    rw [← hids]
    refine Nodup.map_on ?_ hkeys
    -- all rows carry the same compaction, so the source alone is the key
    intro a ha b hb hab
    obtain ⟨r, hr, rfl⟩ := mem_map.mp ha
    obtain ⟨s, hs, rfl⟩ := mem_map.mp hb
    have hr' : r.compactGenerationId = compactId := by simpa using (mem_filter.mp hr).2
    have hs' : s.compactGenerationId = compactId := by simpa using (mem_filter.mp hs).2
    exact Prod.ext (hr'.trans hs'.symm) hab
  have hsubs : (rows.map fun r => (r.sourceGenerationId, r.sourceDigest)) ⊆
      older.map sourceDigest := by
    intro pair hpair
    obtain ⟨r, hr, rfl⟩ := mem_map.mp hpair
    obtain ⟨hmem, hid⟩ := mem_filter.mp hr
    rw [← hcl]
    have hrow : (⟨compactId, r.sourceGenerationId, r.sourceDigest⟩ : ClosureRow) = r := by
      rw [← decide_eq_true_iff.mp hid]
    rw [hrow]
    exact hmem
  have hle := (subperm_of_subset hnd hsubs).length_le
  simpa using hle

/-- A source of the history passes the checks of the closure that names it. -/
theorem checkClosureSource_ok (h : History digests db history) {x : Generation} (hx : x ∈ history)
    (hne : x.generationId ≠ compactId) :
    checkClosureSource db compactId ⟨compactId, (sourceDigest x).1, (sourceDigest x).2⟩ = .ok x := by
  obtain ⟨checksum, hsum, hhex⟩ := h.hex_of_mem hx
  obtain ⟨hrow, hstt⟩ := h.published_of_mem hx
  have hdig : (sourceDigest x).2 = checksum := by rw [sourceDigest, hsum]; rfl
  have hchk := x.kindCheck
  obtain ⟨_, _, -, hblw⟩ := h.suffix_of_mem hx
  have hdep := hblw.length_chain.2
  refine ensure_bind (decide_eq_true hne) ?_
  refine bind_ok (a := x) (by simpa [sourceDigest] using hrow) ?_
  have hkinds : (if x.generationKind = .compact then
      x.compactionBaseGenerationId.isSome && x.baseGenerationId.isNone
      else x.compactionBaseGenerationId.isNone) = true := by
    cases hk : x.generationKind <;> simp_all [kindBaseDepth]
  refine bind_ok (a := ()) ?_ ?_
  · rw [hkinds, hdig, hsum, hhex]
    simp [published_mem_inherited hstt]
  refine ensure_bind (by simpa using hdep) ?_
  refine bind_ok (a := ()) ?_ ?_
  · cases hk : x.generationKind <;> simp_all [kindBaseDepth]
  refine bind_ok (a := ()) ?_ rfl
  cases hk : x.generationKind <;> simp_all [kindBaseDepth]

/-- The closure of a compaction verifies, and its sources are the older generations. -/
theorem History.closure_ok (h : History digests db (g :: b :: older))
    (hkind : g.generationKind = .compact) (allowed : List GenerationState)
    (hall : GenerationState.published ∈ allowed) :
    ∃ closure, verifyCompactClosure db g.generationId allowed = .ok closure ∧
      closure.compactGenerationId = g.generationId ∧
      closure.compactionBaseGenerationId = b.generationId ∧
      closure.sources.Perm (b :: older) := by
  cases h with
  | lineage _ _ _ kind => rw [kind] at hkind; cases hkind
  | compact below published fresh _ base hcl bound _ _ =>
    have hlen : (db.closure.rows.filter fun r =>
        r.compactGenerationId = g.generationId).length ≤ maxCompactProvenanceSources :=
      Nat.le_trans (closure_length hcl) bound
    have hne : ∀ x ∈ b :: older, x.generationId ≠ g.generationId := by
      intro x hx he
      exact fresh (he ▸ mem_map_of_mem hx)
    -- every row of the closure names an older generation, and checks
    have hrow : ∀ r ∈ closureRows db g.generationId, ∃ x ∈ b :: older,
        checkClosureSource db g.generationId r = .ok x ∧
          r = ⟨g.generationId, (sourceDigest x).1, (sourceDigest x).2⟩ := by
      intro r hr
      obtain ⟨hmem, hid⟩ := (mem_closureRows hlen).mp hr
      have hrow : r = ⟨g.generationId, r.sourceGenerationId, r.sourceDigest⟩ := by rw [← hid]
      rw [hrow, hcl] at hmem
      obtain ⟨x, hx, hsrc⟩ := mem_map.mp hmem
      have hr : r = ⟨g.generationId, (sourceDigest x).1, (sourceDigest x).2⟩ := by
        rw [hrow, hsrc]
      exact ⟨x, hx, by rw [hr]; exact checkClosureSource_ok below hx (hne x hx), hr⟩
    obtain ⟨sources, hsrcs⟩ := Except.exists_mapM_ok
      (f := checkClosureSource db g.generationId) (l := closureRows db g.generationId)
      fun r hr => (hrow r hr).imp fun x hx => hx.2.1
    have hmem : ∀ x, x ∈ sources ↔ x ∈ b :: older := by
      intro x
      rw [Except.mem_of_mapM_ok hsrcs]
      constructor
      · rintro ⟨r, hr, hx⟩
        obtain ⟨_, hy, hchk, -⟩ := hrow r hr
        rw [Except.ok.inj (hx.symm.trans hchk)]
        exact hy
      · intro hx
        refine ⟨⟨g.generationId, (sourceDigest x).1, (sourceDigest x).2⟩, ?_,
          checkClosureSource_ok below hx (hne x hx)⟩
        rw [mem_closureRows hlen]
        exact ⟨(hcl _ _).mpr (mem_map_of_mem hx), rfl⟩
    have hb := below.published_of_mem mem_cons_self
    have hempty : (closureRows db g.generationId).isEmpty = false := by
      rw [isEmpty_eq_false_iff]
      intro hnil
      have := (hmem b).mpr mem_cons_self
      rw [Except.mem_of_mapM_ok hsrcs, hnil] at this
      obtain ⟨_, hnone, _⟩ := this
      cases hnone
    have hshort : sources.length ≤ (b :: older).length := by
      rw [Except.length_of_mapM_ok hsrcs]
      refine Nat.le_trans (length_take_le' _ _) ?_
      rw [length_mergeSort]
      exact closure_length hcl
    have hcnt : sources.length ≤ maxCompactProvenanceSources := Nat.le_trans hshort bound
    have hperm : sources.Perm (b :: older) := by
      have hnd : (b :: older).Nodup := below.nodup.of_map _
      refine ((hnd.subperm fun x hx => (hmem x).mpr hx).perm_of_length_le hshort).symm
    obtain ⟨hbase, hdep⟩ := History.base_none (g := g) (by rw [hkind]; decide)
    refine ⟨⟨g.generationId, b.generationId, sources⟩, ?_, rfl, rfl, hperm⟩
    refine ofOption_bind published.row ?_
    refine ofOption_bind base ?_
    refine ensure_bind ?_ ?_
    · rw [published.state, hkind, hbase, hdep]
      simpa [hall] using hne b mem_cons_self
    refine ensure_bind ?_ ?_
    · rw [hb.row, Option.any_some]
      simpa using published_mem_inherited hb.state
    refine ensure_bind (by rw [hempty]; rfl) ?_
    refine bind_ok hsrcs ?_
    exact ensure_bind (by simpa using hcnt) rfl

/-- The verification does not depend on the states allowed for a published head. -/
theorem verifyCompactClosure_allowed (hall : allowed ⊆ inheritedCompactStates)
    (h : verifyCompactClosure db compactId allowed = .ok closure) :
    verifyCompactClosure db compactId inheritedCompactStates = .ok closure := by
  unfold verifyCompactClosure at h ⊢
  obtain ⟨_, hhead, h⟩ := of_bind h
  obtain ⟨_, hbase, h⟩ := of_bind h
  obtain ⟨_, hmeta, h⟩ := of_bind h
  refine bind_ok hhead (bind_ok hbase (bind_ok (a := ()) ?_ h))
  rw [reader_ensure_iff] at hmeta ⊢
  simp only [bool_to_prop] at hmeta ⊢
  exact ⟨⟨⟨⟨hall hmeta.1.1.1.1, hmeta.1.1.1.2⟩, hmeta.1.1.2⟩, hmeta.1.2⟩, hmeta.2⟩

structure ContextOk (db : Db) (ctx : ProvenanceContext) : Prop where
  closures : ∀ c ∈ ctx.closures,
    verifyCompactClosure db c.compactGenerationId inheritedCompactStates = .ok c
  opened : ∀ c ∈ ctx.closures, c.compactGenerationId ∈ ctx.opened ∧
    ∀ source ∈ c.compactSourceIds, source ∈ ctx.opened
  nodup : ctx.opened.Nodup
  budget : ctx.opened.length ≤ maxLineageDepth

theorem contextOk_empty (db : Db) : ContextOk db {} where
  closures := nofun
  opened := nofun
  nodup := nodup_nil
  budget := Nat.zero_le _

theorem ContextOk.insert (h : ContextOk db ctx)
    (hbud : (ctx.opened.insert compactId).length ≤ maxLineageDepth) :
    ContextOk db { ctx with opened := ctx.opened.insert compactId } where
  closures := h.closures
  opened c hc := ⟨mem_insert_of_mem (h.opened c hc).1,
    fun source hs => mem_insert_of_mem ((h.opened c hc).2 source hs)⟩
  nodup := h.nodup.insert
  budget := hbud

/-- Sources that are opened in turn are all open in the end: nothing opened is ever closed. -/
theorem opened_foldlM {f : ProvenanceContext → String → Except ReaderError ProvenanceContext}
    (hf : ∀ {t t' source}, ContextOk db t → f t source = .ok t' →
      ContextOk db t' ∧ t.opened ⊆ t'.opened ∧ source ∈ t'.opened)
    {sources : List String} {after : ProvenanceContext} (hctx : ContextOk db ctx)
    (h : sources.foldlM f ctx = .ok after) :
    ContextOk db after ∧ ctx.opened ⊆ after.opened ∧ ∀ source ∈ sources, source ∈ after.opened := by
  induction sources generalizing ctx with
  | nil =>
    cases h
    exact ⟨hctx, List.Subset.refl _, nofun⟩
  | cons source sources ih =>
    obtain ⟨_, hnext, h⟩ := of_bind h
    obtain ⟨hok, hgrown, hself⟩ := hf hctx hnext
    obtain ⟨haft, hrest, hsrcs⟩ := ih hok h
    exact ⟨haft, List.Subset.trans hgrown hrest, forall_mem_cons.mpr ⟨hrest hself, hsrcs⟩⟩

theorem compactId_of_verified (h : verifyCompactClosure db compactId allowed = .ok closure) :
    closure.compactGenerationId = compactId := by
  iterate 7 obtain ⟨_, -, h⟩ := of_bind h
  rw [← pure_eq_ok_iff.mp h]

/-- What a verification that returned has opened: the compaction and all its compact sources,
within the budget. -/
structure Opened (db : Db) (compactId : String) (ctx ctx' : ProvenanceContext)
    (closure : VerifiedClosure) : Prop where
  ok : ContextOk db ctx'
  grown : ctx.opened ⊆ ctx'.opened
  self : compactId ∈ ctx'.opened
  sources : ∀ source ∈ closure.compactSourceIds, source ∈ ctx'.opened
  closure : verifyCompactClosure db compactId inheritedCompactStates = .ok closure

theorem verifiedClosure_opened (fuel : Nat) {ctx' : ProvenanceContext} (hctx : ContextOk db ctx)
    (hall : allowed ⊆ inheritedCompactStates)
    (h : verifiedClosure db fuel path ctx compactId allowed = .ok (closure, ctx')) :
    Opened db compactId ctx ctx' closure := by
  induction fuel generalizing path ctx ctx' compactId allowed closure with
  | zero => cases h
  | succ fuel ih =>
    obtain ⟨_, -, h⟩ := of_bind h
    split at h
    · -- verified before in this request
      rename_i cached hcach
      obtain ⟨rfl, rfl⟩ := Prod.mk.inj (pure_eq_ok_iff.mp h)
      have hmem := mem_of_find?_eq_some hcach
      have hid : cached.compactGenerationId = compactId := by
        simpa using find?_some hcach
      obtain ⟨hself, hsrcs⟩ := hctx.opened cached hmem
      exact ⟨hctx, List.Subset.refl _, hid ▸ hself, hsrcs, hid ▸ hctx.closures cached hmem⟩
    · obtain ⟨_, hbud, h⟩ := of_bind h
      obtain ⟨_, hver, h⟩ := of_bind h
      obtain ⟨after, hfold, h⟩ := of_bind h
      cases h
      rw [reader_ensure_iff, decide_eq_true_eq] at hbud
      obtain ⟨hok, hgrown, hsrcs⟩ := opened_foldlM (by
        rintro t t' source ht hstep
        obtain ⟨⟨c, _⟩, hc, hstep⟩ := of_bind hstep
        cases hstep
        have hopen := ih ht (List.Subset.refl _) hc
        exact ⟨hopen.ok, hopen.grown, hopen.self⟩) (hctx.insert hbud) hfold
      have hcl := verifyCompactClosure_allowed hall hver
      have hself : compactId ∈ after.opened := hgrown mem_insert_self
      refine ⟨⟨?_, ?_, hok.nodup, hok.budget⟩, ?_, hself, hsrcs, hcl⟩
      · intro c hc
        rcases mem_cons.mp hc with rfl | hc
        · rw [compactId_of_verified hver]
          exact hcl
        · exact hok.closures c hc
      · intro c hc
        rcases mem_cons.mp hc with rfl | hc
        · rw [compactId_of_verified hver]
          exact ⟨hself, hsrcs⟩
        · exact hok.opened c hc
      · exact fun id hid => hgrown (mem_insert_of_mem hid)

theorem compactIds_nodup (h : (ids history).Nodup) : (compactIds history).Nodup :=
  h.sublist (filter_sublist.map _)

theorem compactIds_append_subset (newer older : List Generation) :
    compactIds older ⊆ compactIds (newer ++ older) := by
  intro id hid
  obtain ⟨x, hx, hkind, rfl⟩ := mem_compactIds.mp hid
  exact mem_compactIds.mpr ⟨x, mem_append_right newer hx, hkind, rfl⟩

section

variable (hkind : t.generationKind = .compact)
include hkind

/-- The compact sources of a verified closure are the older compactions. -/
theorem History.mem_compactSourceIds (h : History digests db (t :: older))
    (hcl : verifyCompactClosure db t.generationId inheritedCompactStates = .ok closure)
    {id : String} : id ∈ closure.compactSourceIds ↔ id ∈ compactIds older := by
  obtain ⟨_, _, rfl⟩ := h.older_of_compact hkind
  obtain ⟨closure', hcl', -, -, hperm⟩ :=
    h.closure_ok hkind inheritedCompactStates (by decide)
  obtain rfl : closure = closure' := Except.ok.inj (hcl.symm.trans hcl')
  rw [mem_compactIds, VerifiedClosure.compactSourceIds]
  simp only [mem_map, mem_filter, decide_eq_true_eq, hperm.mem_iff]
  constructor
  · rintro ⟨x, ⟨hx, hk⟩, hid⟩
    exact ⟨x, hx, hk, hid⟩
  · rintro ⟨x, hx, hk, hid⟩
    exact ⟨x, ⟨hx, hk⟩, hid⟩

/-- A verification that returned went through every compaction of the history, so they fit
into the budget. -/
theorem History.compactIds_le_of_verified (h : History digests db (t :: older)) {fuel : Nat}
    {ctx' : ProvenanceContext} (hctx : ContextOk db ctx) (hall : allowed ⊆ inheritedCompactStates)
    (hok : verifiedClosure db fuel path ctx t.generationId allowed = .ok (closure, ctx')) :
    (compactIds (t :: older)).length ≤ maxLineageDepth := by
  have hopen := verifiedClosure_opened fuel hctx hall hok
  have hsubs : compactIds (t :: older) ⊆ ctx'.opened := by
    rw [compactIds_cons_compact hkind]
    intro id hid
    rcases mem_cons.mp hid with rfl | hid
    · exact hopen.self
    · exact hopen.sources id ((h.mem_compactSourceIds hkind hopen.closure).mpr hid)
  have hle := ((compactIds_nodup h.nodup).subperm hsubs).length_le
  exact Nat.le_trans hle hopen.ok.budget

theorem self_mem_compactIds : t.generationId ∈ compactIds (t :: older) := by
  rw [compactIds_cons_compact hkind]
  exact mem_cons_self

end

/-- A compaction below the head has a history of its own within the older part. -/
theorem History.compact_below (h : History digests db (t :: older)) {id : String}
    (hid : id ∈ compactIds older) : ∃ x between below, x.generationId = id ∧
      t :: older = between ++ x :: below ∧ History digests db (x :: below) ∧
      x.generationKind = .compact ∧ compactIds (x :: below) ⊆ compactIds older := by
  obtain ⟨x, hx, hkind, rfl⟩ := mem_compactIds.mp hid
  obtain ⟨between, below, hblw, hxh⟩ := h.suffix_of_mem (mem_cons_of_mem t hx)
  refine ⟨x, between, below, rfl, hblw, hxh, hkind, ?_⟩
  cases between with
  | nil =>
    have hnd := h.nodup
    rw [ids, map_cons, nodup_cons, (cons.inj hblw).1] at hnd
    exact absurd (mem_map_of_mem hx) hnd.1
  | cons y between =>
    rw [(cons.inj hblw).2]
    exact compactIds_append_subset between _

/-- While the compactions fit into the budget, every one of them verifies. -/
theorem verifiedClosure_exists (hbud : (compactIds history).length ≤ maxLineageDepth)
    (fuel : Nat) {newer : List Generation} (hspl : history = newer ++ t :: older)
    (h : History digests db (t :: older)) (hkind : t.generationKind = .compact)
    (hctx : ContextOk db ctx) (hopen : ctx.opened ⊆ compactIds history)
    (hpath : ∀ p ∈ path, p ∉ compactIds (t :: older))
    (hfuel : (compactIds (t :: older)).length ≤ fuel)
    (hpub : GenerationState.published ∈ allowed) (hall : allowed ⊆ inheritedCompactStates) :
    ∃ closure ctx', verifiedClosure db fuel path ctx t.generationId allowed =
      .ok (closure, ctx') ∧ ctx'.opened ⊆ compactIds history := by
  have hself : t.generationId ∈ compactIds (t :: older) := self_mem_compactIds hkind
  induction fuel generalizing t newer older path ctx allowed with
  | zero =>
    rw [Nat.le_zero, length_eq_zero_iff] at hfuel
    rw [hfuel] at hself
    cases hself
  | succ fuel ih =>
    rw [verifiedClosure]
    have hcycle : (ensure (decide (t.generationId ∉ path))
        "compact provenance path contains a cycle") = .ok () := by
      rw [reader_ensure_iff, decide_eq_true_eq]
      exact fun hp => hpath _ hp hself
    cases hcach : ctx.closures.find? (fun c => c.compactGenerationId = t.generationId) with
    | some cached =>
      exact ⟨cached, ctx, bind_ok hcycle rfl, hopen⟩
    | none =>
      have hin : t.generationId ∈ compactIds history := by
        rw [hspl]
        exact compactIds_append_subset newer _ hself
      have hins : ctx.opened.insert t.generationId ⊆ compactIds history := by
        intro id hid
        rcases mem_insert_iff.mp hid with rfl | hid
        · exact hin
        · exact hopen hid
      have hlen : (ctx.opened.insert t.generationId).length ≤ maxLineageDepth :=
        Nat.le_trans (hctx.nodup.insert.subperm hins).length_le hbud
      obtain ⟨b, rest, rfl⟩ := h.older_of_compact hkind
      obtain ⟨closure, hcl, -, -, -⟩ := h.closure_ok hkind allowed hpub
      have hinh := verifyCompactClosure_allowed hall hcl
      have hold : (compactIds (b :: rest)).length ≤ fuel := by
        rw [compactIds_cons_compact hkind, length_cons] at hfuel
        omega
      obtain ⟨after, hfold, haft⟩ := Except.exists_foldlM_ok
        (P := fun c => ContextOk db c ∧ c.opened ⊆ compactIds history)
        (f := fun ctx source => do
          let opened ← verifiedClosure db fuel (t.generationId :: path) ctx source
            inheritedCompactStates
          return opened.2)
        (l := closure.compactSourceIds) (s := { ctx with opened := ctx.opened.insert t.generationId })
        ⟨hctx.insert hlen, hins⟩ (by
          rintro source hsrc c ⟨hc, hcop⟩
          have hmem := (h.mem_compactSourceIds hkind hinh).mp hsrc
          obtain ⟨x, between, below, rfl, hblw, hxh, hxkind, hxsub⟩ := h.compact_below hmem
          have hxlen : (compactIds (x :: below)).length ≤ fuel :=
            Nat.le_trans ((compactIds_nodup hxh.nodup).subperm hxsub).length_le hold
          have hxpath : ∀ p ∈ t.generationId :: path, p ∉ compactIds (x :: below) := by
            intro p hp hin
            rcases mem_cons.mp hp with rfl | hp
            · have hnd := compactIds_nodup h.nodup
              rw [compactIds_cons_compact hkind, nodup_cons] at hnd
              exact hnd.1 (hxsub hin)
            · refine hpath p hp ?_
              rw [compactIds_cons_compact hkind]
              exact mem_cons_of_mem _ (hxsub hin)
          have hxspl : history = (newer ++ between) ++ x :: below := by
            rw [hspl, hblw, append_assoc]
          obtain ⟨_, c', hinner, hc'⟩ := ih hxspl hxh hxkind hc hcop hxpath hxlen
            (by decide) (List.Subset.refl _) (self_mem_compactIds hxkind)
          refine ⟨c', bind_ok hinner rfl,
            (verifiedClosure_opened fuel hc (List.Subset.refl _) hinner).ok, hc'⟩)
      refine ⟨closure, { after with closures := closure :: after.closures }, ?_, haft.2⟩
      refine bind_ok hcycle ?_
      refine ensure_bind (decide_eq_true hlen) ?_
      refine bind_ok hcl ?_
      exact bind_ok hfold rfl

end DyData.Projection
