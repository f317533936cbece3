import DyData.ProjectionProvenance

/-!
The resolver over a history.  Its answers, when it gives any, are those of the view; it gives
them for every artifact and all keys exactly while the compactions of the history fit into the
node budget of the reader.
-/

namespace DyData.Projection

open Relational List
open Except (bind_ok ofOption_bind)

variable {digests : Digests} {db : Db} {history older : List Generation} {t : Generation}
  {ctx : ProvenanceContext} {artifact : Artifact} {key : String}

structure ReadContext (db : Db) (history : List Generation) (ctx : ProvenanceContext) : Prop where
  ok : ContextOk db ctx
  opened : ctx.opened ⊆ compactIds history

theorem readContext_empty (db : Db) (history : List Generation) : ReadContext db history {} :=
  ⟨contextOk_empty db, nil_subset _⟩

theorem open_compact (hbud : (compactIds history).length ≤ maxLineageDepth)
    {newer : List Generation} (hspl : history = newer ++ t :: older)
    (h : History digests db (t :: older)) (hkind : t.generationKind = .compact)
    (hctx : ReadContext db history ctx) (allowed : List GenerationState)
    (hpub : GenerationState.published ∈ allowed) (hall : allowed ⊆ inheritedCompactStates) :
    ∃ closure ctx', verifiedClosure db provenanceFuel [] ctx t.generationId allowed =
        .ok (closure, ctx') ∧ ReadContext db history ctx' ∧
      verifyCompactClosure db t.generationId inheritedCompactStates = .ok closure := by
  have hsub : compactIds (t :: older) ⊆ compactIds history := by
    rw [hspl]
    exact compactIds_append_subset newer _
  have hfuel : (compactIds (t :: older)).length ≤ provenanceFuel := by
    have hle := ((compactIds_nodup h.nodup).subperm hsub).length_le
    unfold provenanceFuel
    omega
  have hpath : ∀ p ∈ ([] : List String), p ∉ compactIds (t :: older) := by
    intro p hp
    cases hp
  obtain ⟨closure, ctx', hok, hopen⟩ := verifiedClosure_exists hbud provenanceFuel hspl h
    hkind hctx.ok hctx.opened hpath hfuel hpub hall
  have haft := verifiedClosure_opened provenanceFuel hctx.ok hall hok
  exact ⟨closure, ctx', hok, ⟨haft.ok, hopen⟩, haft.closure⟩

/-- The leaf of a row is found among the ordinary sources of the compaction's closure. -/
theorem ordinarySource_of_leaf (h : History digests db (t :: older))
    (hkind : t.generationKind = .compact) {closure : VerifiedClosure}
    (hcl : verifyCompactClosure db t.generationId inheritedCompactStates = .ok closure)
    {x : Generation} (hx : x ∈ t :: older) (hord : x.generationKind ≠ .compact) :
    closure.ordinarySource? x.generationId = some x := by
  obtain ⟨b, rest, rfl⟩ := h.older_of_compact hkind
  obtain ⟨closure', hcl', -, -, hperm⟩ :=
    h.closure_ok hkind inheritedCompactStates (by decide)
  obtain rfl : closure = closure' := Except.ok.inj (hcl.symm.trans hcl')
  have hxold : x ∈ b :: rest := by
    rcases mem_cons.mp hx with rfl | hx
    · exact absurd hkind hord
    · exact hx
  unfold VerifiedClosure.ordinarySource?
  cases hfd : closure.sources.find? (fun s => s.generationId = x.generationId &&
      s.generationKind ≠ .compact) with
  | none =>
    have hall := find?_eq_none.mp hfd x (hperm.mem_iff.mpr hxold)
    simp [hord] at hall
  | some y =>
    have hy := hperm.mem_iff.mp (mem_of_find?_eq_some hfd)
    have hid : y.generationId = x.generationId := by
      have := find?_some hfd
      simp only [bool_to_prop] at this
      exact this.1
    have hyrow := (h.published_of_mem (mem_cons_of_mem t hy)).row
    rw [hid, (h.published_of_mem (mem_cons_of_mem t hxold)).row] at hyrow
    exact hyrow.symm

/-- A claim that the reader can prove: an overlay row of a compaction of the history. -/
structure ClaimOf (digests : Digests) (db : Db) (history : List Generation) (artifact : Artifact)
    (claim : CompactClaim) : Prop where
  compaction : ∃ newer t older, history = newer ++ t :: older ∧ History digests db (t :: older) ∧
    t.generationKind = .compact ∧ t.generationId = claim.compactId
  row : db.manifest? claim.compactId artifact claim.partitionKey = some claim.row
  overlay : claim.row.sourceKind = .overlay

theorem History.compact_row (h : History digests db (t :: older))
    (hkind : t.generationKind = .compact) {m : Manifest}
    (hrow : db.manifest? t.generationId artifact key = some m) :
    m.sourceKind ≠ .legacyRoot ∧ m.baseGenerationId = none ∧ m.referenceHeadGenerationId =
      (if m.sourceKind = .overlay then some t.generationId else none) := by
  cases h with
  | root _ kind => rw [kind] at hkind; cases hkind
  | lineage _ _ _ kind => rw [kind] at hkind; cases hkind
  | compact _ _ _ _ _ _ _ rows _ =>
    rw [rows artifact key] at hrow
    obtain ⟨_, hsrc, rfl⟩ := Option.map_eq_some_iff.mp hrow
    obtain ⟨-, hleg⟩ := Option.filter_eq_some_iff.mp hsrc
    exact ⟨by simpa [Manifest.compacted] using hleg, rfl, rfl⟩

theorem view_of_manifest {m : Manifest} (hrow : db.manifest? t.generationId artifact key = some m) :
    view db artifact key (t :: older) = some m := by
  rw [view, hrow]

structure Provable (db : Db) (artifact : Artifact) (active : ActiveClaim) : Prop where
  leaf : ∃ x own, active.closure.ordinarySource? active.dataGenerationId = some x ∧
    active.dataGenerationId = x.generationId ∧
    db.manifest? x.generationId artifact active.claim.partitionKey = some own ∧
    own.sourceKind = .overlay ∧ own.dataGenerationId = some x.generationId ∧
    own.referenceHeadGenerationId = none ∧ own.baseGenerationId = x.baseGenerationId ∧
    sameEvidence own active.claim.row = true ∧
    db.presentCount x.generationId artifact active.claim.partitionKey =
      active.claim.row.rowCount

theorem openClaim_exists (hbud : (compactIds history).length ≤ maxLineageDepth)
    {claim : CompactClaim} (hclm : ClaimOf digests db history artifact claim)
    (hctx : ReadContext db history ctx) :
    ∃ active ctx', openClaim db artifact ctx claim = .ok (active, ctx') ∧
      ReadContext db history ctx' ∧ ∀ a ∈ active, Provable db artifact a := by
  obtain ⟨_, _, _, hspl, h, hkind, hid⟩ := hclm.compaction
  have hrow := hclm.row
  rw [← hid] at hrow
  obtain ⟨closure, ctx', hopen, hctx', hcl⟩ := open_compact hbud hspl h hkind hctx
    inheritedCompactStates (by decide) (List.Subset.refl _)
  obtain ⟨-, hbase, href⟩ := h.compact_row hkind hrow
  obtain ⟨x, own, leaf⟩ := h.leaf (view_of_manifest hrow) hclm.overlay
  have hprov : Provable db artifact ⟨claim, x.generationId, closure⟩ :=
    ⟨x, own, ordinarySource_of_leaf h hkind hcl leaf.mem leaf.ordinary, rfl, leaf.row,
      leaf.overlay, leaf.ownData, leaf.reference, leaf.base, leaf.evidence, leaf.present⟩
  have hsteps : openClaim db artifact ctx claim =
      if (claim.compactId, artifact, claim.partitionKey) ∈ ctx'.verified then .ok (none, ctx')
      else .ok (some ⟨claim, x.generationId, closure⟩, ctx') := by
    unfold openClaim
    rw [← hid, hopen]
    simp only [bind, Except.bind, ensure, Except.ensure, hbase, Option.isNone_none, if_true,
      hclm.overlay, Manifest.owner_of_overlay hclm.overlay, leaf.data, Except.ofOption,
      href, leaf.checksum, decide_true, Bool.and_self, pure, Except.pure]
  rw [hsteps]
  split
  · exact ⟨none, ctx', rfl, hctx', fun a ha => by cases ha⟩
  · refine ⟨some _, ctx', rfl, hctx', ?_⟩
    intro a ha
    obtain rfl := Option.mem_some_iff.mp ha
    exact hprov

def PresenceOk (db : Db) (artifact : Artifact) (requirements : PresenceRequirements) : Prop :=
  ∀ entry ∈ requirements, db.presentCount entry.1.1 artifact entry.1.2 = entry.2

theorem requirePresence_exists {requirements : PresenceRequirements}
    (h : PresenceOk db artifact requirements) {data : String} {rowCount : Nat}
    (hcnt : db.presentCount data artifact key = rowCount) :
    ∃ requirements', requirePresence requirements data key rowCount = .ok requirements' ∧
      PresenceOk db artifact requirements' := by
  unfold requirePresence
  split
  · rename_i existing hex
    have hmem : ((data, key), existing) ∈ requirements := by
      rw [lookup_eq_some_iff] at hex
      obtain ⟨_, _, hspl, -⟩ := hex
      rw [hspl]
      simp
    have hsame : existing = rowCount := (h _ hmem).symm.trans hcnt
    rw [if_neg (by simpa using hsame)]
    exact ⟨requirements, rfl, h⟩
  · refine ⟨_, rfl, ?_⟩
    intro entry hent
    rcases mem_cons.mp hent with rfl | hent
    · exact hcnt
    · exact h entry hent

theorem proveClaim_exists {active : ActiveClaim} (hact : Provable db artifact active)
    {level : ClaimLevel} (hnext : level.next = [])
    (hlevel : PresenceOk db artifact level.requirements) :
    ∃ level', proveClaim db artifact level active = .ok level' ∧ level'.next = [] ∧
      PresenceOk db artifact level'.requirements := by
  obtain ⟨_, _, hsrc, hdata, hrow, hover, hown, href, hbase, hev, hpres⟩ :=
    hact.leaf
  rw [← hdata] at hrow hown hpres
  obtain ⟨requirements, hreq, hok⟩ := requirePresence_exists hlevel hpres
  refine ⟨⟨level.next, requirements,
    (active.claim.compactId, artifact, active.claim.partitionKey) :: level.verified⟩, ?_, hnext,
    hok⟩
  unfold proveClaim
  rw [hsrc]
  refine ofOption_bind hrow ?_
  refine bind_ok (a := ()) ?_ (bind_ok hreq rfl)
  rw [hover, Manifest.owner_of_overlay hover, hown, href, hbase, hev]
  simp

theorem openClaims_exists (hbud : (compactIds history).length ≤ maxLineageDepth)
    {claims : List CompactClaim} (hclms : ∀ c ∈ claims, ClaimOf digests db history artifact c)
    (hctx : ReadContext db history ctx) :
    ∃ state, claims.foldlM (fun (state : List ActiveClaim × ProvenanceContext) claim => do
        let (opened, ctx) ← openClaim db artifact state.2 claim
        return (state.1 ++ opened.toList, ctx)) ([], ctx) = .ok state ∧
      ReadContext db history state.2 ∧ ∀ a ∈ state.1, Provable db artifact a := by
  refine Except.exists_foldlM_ok
    (P := fun (t : List ActiveClaim × ProvenanceContext) =>
      ReadContext db history t.2 ∧ ∀ a ∈ t.1, Provable db artifact a)
    ⟨hctx, fun a ha => by cases ha⟩ ?_
  rintro claim hclm t ⟨ht, hprov⟩
  obtain ⟨opened, ctx', hopen, hctx', hact⟩ := openClaim_exists hbud (hclms claim hclm) ht
  refine ⟨(t.1 ++ opened.toList, ctx'), bind_ok hopen rfl, hctx', ?_⟩
  intro a ha
  rcases mem_append.mp ha with ha | ha
  · exact hprov a ha
  · exact hact a (Option.mem_toList.mp ha)

/-- The second pass: every claim is proved against an ordinary source, nothing is passed on. -/
theorem proveClaims_exists {active : List ActiveClaim}
    (hact : ∀ a ∈ active, Provable db artifact a) (level : ClaimLevel) (hnext : level.next = [])
    (hlevel : PresenceOk db artifact level.requirements) :
    ∃ level', active.foldlM (proveClaim db artifact) level = .ok level' ∧ level'.next = [] ∧
      PresenceOk db artifact level'.requirements := by
  refine Except.exists_foldlM_ok
    (P := fun (t : ClaimLevel) => t.next = [] ∧ PresenceOk db artifact t.requirements)
    ⟨hnext, hlevel⟩ ?_
  rintro a ha t ⟨htnext, htlev⟩
  exact proveClaim_exists (hact a ha) htnext htlev

theorem verifyPresence_exists {requirements : PresenceRequirements}
    (h : PresenceOk db artifact requirements) :
    verifyPresence db artifact requirements = .ok () := by
  rw [verifyPresence, Except.forM_eq_ok_iff]
  intro entry hent
  rw [reader_ensure_iff, decide_eq_true_eq]
  exact h entry hent

/-- All claims of a reader are proved at the first level. -/
theorem verifyCompactPartitionClaims_exists (hbud : (compactIds history).length ≤ maxLineageDepth)
    {claims : List (String × String × Manifest)}
    (hclms : ∀ c ∈ claims, ClaimOf digests db history artifact ⟨[c.1], c.1, c.2.1, c.2.2⟩)
    (hctx : ReadContext db history ctx) :
    ∃ ctx', verifyCompactPartitionClaims db artifact ctx claims = .ok ctx' ∧
      ReadContext db history ctx' := by
  set pending : List CompactClaim := claims.map fun c => ⟨[c.1], c.1, c.2.1, c.2.2⟩ with hpend
  have hall : ∀ c ∈ pending, ClaimOf digests db history artifact c := by
    intro c hc
    obtain ⟨claim, hclm, rfl⟩ := mem_map.mp hc
    exact hclms claim hclm
  obtain ⟨⟨_, ctx'⟩, hopen, hctx', hprov⟩ := openClaims_exists hbud hall hctx
  obtain ⟨level, hprove, hnext, hpres⟩ := proveClaims_exists hprov
    ⟨[], [], ctx'.verified⟩ rfl (fun entry h => by cases h)
  by_cases hnone : pending.isEmpty = true
  · refine ⟨ctx, bind_ok (a := (ctx, [])) ?_ rfl, hctx⟩
    rw [verifyClaimLevels, if_pos hnone]
  · refine ⟨{ ctx' with verified := level.verified }, ?_, ⟨⟨hctx'.ok.closures, hctx'.ok.opened,
      hctx'.ok.nodup, hctx'.ok.budget⟩, hctx'.opened⟩⟩
    refine bind_ok (a := ({ ctx' with verified := level.verified }, level.requirements)) ?_ ?_
    · rw [verifyClaimLevels, if_neg hnone]
      refine bind_ok hopen ?_
      refine bind_ok hprove ?_
      rw [hnext, verifyClaimLevels, if_pos isEmpty_nil]
    · exact bind_ok (verifyPresence_exists hpres) rfl

theorem verifyClaimsWhen_exists (hbud : (compactIds history).length ≤ maxLineageDepth)
    (needed : Bool) {claims : List (String × String × Manifest)}
    (hclms : ∀ c ∈ claims, ClaimOf digests db history artifact ⟨[c.1], c.1, c.2.1, c.2.2⟩)
    (hctx : ReadContext db history ctx) :
    ∃ ctx', verifyClaimsWhen needed db artifact ctx claims = .ok ctx' ∧
      ReadContext db history ctx' := by
  unfold verifyClaimsWhen
  split
  · exact verifyCompactPartitionClaims_exists hbud hclms hctx
  · exact ⟨ctx, rfl, hctx⟩

end DyData.Projection
