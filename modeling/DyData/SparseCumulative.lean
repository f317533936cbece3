import DyData.BillingConfirmations
import DyData.BillingSourceTotals
import DyData.SparseTransactions

/-!
The cumulative rankings of a sparse overlay against the monthly rows that its lineage shows.
Both use the overlay of the generation for the affected months and the base for the others; they
differ only in months that an earlier attempt of the same generation wrote and the last one did
not.
-/

namespace DyData.Sparse

open Relational DyData.Settlement List
open Except (of_bind pure_eq_ok_iff)
open DyData.Projection (Generation chainSource lineageRows sparseBaseChain sparseManifestValues maxLineageDepth)

variable {month : Month} {months affected : List Month}

/-! ### The phases of a build -/

section Phases

variable {digests : SparseDigests} {args : BuildArguments} {s s' : Store}

def Owned (generationId : String) (s : Store) (month : Month) : Prop :=
  ∃ row, s.projection.manifest? generationId .monthly (monthText month) = some row ∧
    (row.sourceKind = .overlay ∧ row.dataGenerationId = some generationId ∨
      row.sourceKind = .tombstone ∧ s.monthlyRows generationId month = [])

theorem MonthlyWritten.owned {rows : List MonthlyOverlay}
    (h : MonthlyWritten digests args month rows s s') : Owned args.generationId s' month := by
  refine ⟨_, (h.manifest (monthText month)).trans (if_pos rfl), ?_⟩
  unfold sparseManifestValues
  split
  · exact .inl ⟨rfl, rfl⟩
  · rename_i hnone
    have hnil : rows = [] := by
      have hlen : ¬ 0 < rows.length := hnone
      exact eq_nil_of_length_eq_zero (by omega)
    refine .inr ⟨rfl, ?_⟩
    rw [h.written, hnil]
    rfl

theorem MonthlyWritten.keeps {m : Month} {rows : List MonthlyOverlay}
    (h : MonthlyWritten digests args month rows s s') (hne : m ≠ month) :
    s'.projection.manifest? args.generationId .monthly (monthText m) =
        s.projection.manifest? args.generationId .monthly (monthText m) ∧
      ∀ id, s'.monthlyRows id m = s.monthlyRows id m := by
  constructor
  · rw [h.manifest, if_neg fun heq => hne (monthText_injective heq)]
  · exact fun id => h.others id m fun heq => hne (Prod.mk.inj heq).2

structure MonthlyPhase (args : BuildArguments) (months : List Month) (s s' : Store) : Prop where
  framed : Framed args s s'
  owned : ∀ month ∈ months, Owned args.generationId s' month
  manifests : ∀ month, month ∉ months →
    s'.projection.manifest? args.generationId .monthly (monthText month) =
      s.projection.manifest? args.generationId .monthly (monthText month)
  rows : ∀ month, month ∉ months → ∀ id, s'.monthlyRows id month = s.monthlyRows id month

theorem monthlyPhase
    (h : months.foldlM (fun s month => s.writeMonthlyPartition digests args month) s = .ok s') :
    MonthlyPhase args months s s' := by
  induction months generalizing s with
  | nil =>
    cases h
    exact ⟨.refl _ _, nofun, fun _ _ => rfl, fun _ _ _ => rfl⟩
  | cons month months ih =>
    obtain ⟨_, hwr, h⟩ := of_bind h
    obtain ⟨_, hwrt⟩ := writeMonthlyPartition_ok hwr
    have hrest := ih h
    refine ⟨hwrt.framed.trans hrest.framed, fun m hm => ?_, fun m hm => ?_, fun m hm id => ?_⟩
    · by_cases hlater : m ∈ months
      · exact hrest.owned m hlater
      · -- the first write made it owned, the later ones left it alone
        obtain rfl : m = month := (mem_cons.mp hm).resolve_right hlater
        obtain ⟨row, hrow, hsrc⟩ := hwrt.owned
        refine ⟨row, (hrest.manifests m hlater).trans hrow, ?_⟩
        rw [hrest.rows m hlater]
        exact hsrc
    · rw [mem_cons, not_or] at hm
      exact (hrest.manifests m hm.2).trans (hwrt.keeps hm.1).1
    · rw [mem_cons, not_or] at hm
      exact (hrest.rows m hm.2 id).trans ((hwrt.keeps hm.1).2 id)

theorem monthRankingPhase
    (h : months.foldlM (fun s month => s.writeRankingPartition digests args affected .month month)
      s = .ok s') : Framed args s s' ∧ MonthlyKept s s' := by
  refine Except.foldlM_ok (P := fun t => Framed args s t ∧ MonthlyKept s t) h ⟨.refl _ _, .refl _⟩ ?_
  rintro month - t t' ⟨hfrm, hkept⟩ hwr
  obtain ⟨_, _, hwrt⟩ := writeRankingPartition_ok hwr
  exact ⟨hfrm.trans hwrt.framed, hkept.trans hwrt.kept⟩

/-- What the cumulative phase leaves for each cutoff: the sums of the monthly rows in force when
it was written. -/
structure CumulativePhase (args : BuildArguments) (affected cutoffs : List Month) (s s' : Store) :
    Prop where
  framed : Framed args s s'
  kept : MonthlyKept s s'
  others : ∀ cutoff, cutoff ∉ cutoffs → ∀ key, s'.cumulativeRanking args.generationId cutoff key =
    s.cumulativeRanking args.generationId cutoff key
  written : ∀ cutoff ∈ cutoffs, ∃ t months rows, Framed args s t ∧ MonthlyKept s t ∧
    sparseMonthRange formalSettlementStart cutoff = .ok months ∧
    t.effectiveMonthly args.generationId args.baseGenerationId affected months = .ok rows ∧
    ∀ key, s'.cumulativeRanking args.generationId cutoff key = monthlySum rows key

theorem cumulativePhase {cutoffs : List Month} (h : cutoffs.foldlM (fun s cutoff =>
      s.writeRankingPartition digests args affected .cumulative cutoff) s = .ok s') :
    CumulativePhase args affected cutoffs s s' := by
  induction cutoffs generalizing s with
  | nil =>
    cases h
    exact ⟨.refl _ _, .refl _, fun _ _ _ => rfl, nofun⟩
  | cons cutoff cutoffs ih =>
    obtain ⟨_, hwr, h⟩ := of_bind h
    obtain ⟨_, _, hwrt⟩ := writeRankingPartition_ok hwr
    have hrest := ih h
    refine ⟨hwrt.framed.trans hrest.framed, hwrt.kept.trans hrest.kept, ?_, ?_⟩
    · intro c hc key
      rw [mem_cons, not_or] at hc
      refine (hrest.others c hc.2 key).trans (cumulativeRanking_other hwrt ?_ key)
      exact fun heq => hc.1 (Prod.mk.inj heq).2.symm
    · intro c hc
      by_cases hlater : c ∈ cutoffs
      · obtain ⟨u, months, sums, hfrm, hkept, hrest⟩ := hrest.written c hlater
        exact ⟨u, months, sums, hwrt.framed.trans hfrm, hwrt.kept.trans hkept, hrest⟩
      · obtain rfl : c = cutoff := (mem_cons.mp hc).resolve_right hlater
        have hquery := hwrt.query
        obtain ⟨months, hmos, hquery⟩ := of_bind hquery
        obtain ⟨sums, hsums, hquery⟩ := of_bind hquery
        cases hquery
        refine ⟨s, months, sums, .refl _ _, .refl _, hmos, hsums, fun key => ?_⟩
        rw [hrest.others c hlater key, cumulativeRanking_written hwrt]
        exact getD_cumulativeTotals sums

structure Built (args : BuildArguments) (plan : Plan) (s s' : Store) : Prop where
  framed : Framed args s s'
  based : (∀ g, plan.existing = some g → Based args s) → Based args s'
  owned : ∀ month ∈ plan.affected, Owned args.generationId s' month
  manifests : ∀ month, month ∉ plan.affected →
    s'.projection.manifest? args.generationId .monthly (monthText month) =
      s.projection.manifest? args.generationId .monthly (monthText month)
  rows : ∀ month, month ∉ plan.affected → ∀ id, s'.monthlyRows id month = s.monthlyRows id month
  cumulative : ∀ cutoff ∈ plan.cumulative, ∃ t months rows,
    Framed args s t ∧ MonthlyKept t s' ∧
    sparseMonthRange formalSettlementStart cutoff = .ok months ∧
    t.effectiveMonthly args.generationId args.baseGenerationId plan.affected months = .ok rows ∧
    ∀ key, s'.cumulativeRanking args.generationId cutoff key = monthlySum rows key

theorem foldlM_transactions {α : Type} (f : α → Store → Except BuildError Store) (items : List α)
    (s : Store) : (items.map f).foldlM (fun s transaction => transaction s) s =
      items.foldlM (fun s item => f item s) s := by
  rw [foldlM_map]

theorem buildSettlementSparseOverlay_ok {env : Env} {plan : Plan}
    (h : s.buildSettlementSparseOverlay digests env args = .ok (s', some plan)) :
    s.preflight env args = .ok plan ∧
      plan.existing.all (fun g => g.state ≠ .ready && g.state ≠ .published) = true ∧
      Built args plan s s' := by
  obtain ⟨plan', hplan, h⟩ := of_bind h
  split at h
  · cases h
  · rename_i hfr
    obtain ⟨_, hblt, h⟩ := of_bind h
    obtain ⟨rfl, heq⟩ := Prod.mk.inj (pure_eq_ok_iff.mp h)
    obtain rfl := Option.some.inj heq
    refine ⟨hplan, ?_, ?_⟩
    · cases hex : plan'.existing with
      | none => rfl
      | some g =>
        rw [hex] at hfr
        simpa using hfr
    -- the five phases, one after the other
    · unfold Plan.transactions at hblt
      rw [cons_append, cons_append, cons_append] at hblt
      obtain ⟨s₁, hclaim, hblt⟩ := of_bind hblt
      rw [foldlM_append, foldlM_append, foldlM_append] at hblt
      obtain ⟨_, hblt, hfinal⟩ := of_bind hblt
      obtain ⟨_, hblt, hcum⟩ := of_bind hblt
      obtain ⟨s₂, hmont, hrank⟩ := of_bind hblt
      rw [foldlM_transactions] at hmont hrank hcum
      obtain ⟨s₅, hfini, hdone⟩ := of_bind hfinal
      obtain rfl := pure_eq_ok_iff.mp hdone
      obtain ⟨hclm, hclaimKept, hclaimBased⟩ := claimGeneration_ok hclaim
      have hmos := monthlyPhase hmont
      obtain ⟨hranke, hrankKept⟩ := monthRankingPhase hrank
      have hsums := cumulativePhase hcum
      obtain ⟨hfin, hfinalKept, hranki⟩ := finalizeGeneration_ok hfini
      have haft : MonthlyKept s₂ s₅ := (hrankKept.trans hsums.kept).trans hfinalKept
      have hrest : Framed args s₁ s₅ :=
        (hmos.framed.trans hranke).trans (hsums.framed.trans hfin)
      refine ⟨hclm.trans hrest, fun hbased => hrest.based (hclaimBased hbased),
        fun m hm => ?_, fun m hm => ?_, fun m hm id => ?_, fun cutoff hcut => ?_⟩
      · obtain ⟨row, hrow, hsrc⟩ := hmos.owned m hm
        refine ⟨row, (haft.manifests _ _).trans hrow, ?_⟩
        rw [haft.monthlyRows]
        exact hsrc
      · exact ((haft.manifests _ _).trans (hmos.manifests m hm)).trans
          (hclaimKept.manifests _ _)
      · exact ((haft.monthlyRows id m).trans (hmos.rows m hm id)).trans
          (hclaimKept.monthlyRows id m)
      · obtain ⟨t, months, rows, hfrm, hkept, hrange, hrows, hsum⟩ :=
          hsums.written cutoff hcut
        refine ⟨t, months, rows, (((hclm.trans hmos.framed).trans hranke).trans hfrm),
          (hkept.symm.trans hsums.kept).trans hfinalKept, hrange, hrows, fun key => ?_⟩
        rw [← hsum key]
        unfold Store.cumulativeRanking
        rw [hranki]

end Phases

/-! ### The chain of the base -/

section Chain

variable {args : BuildArguments} {s t : Store}

/-- What the preflight has found of the base, for a generation that is not built yet. -/
structure Grounded (args : BuildArguments) (s : Store) : Prop where
  distinct : args.generationId ≠ args.baseGenerationId
  length : (lineageRows s.projection 66 (some args.baseGenerationId)).length ≤ maxLineageDepth
  last : (lineageRows s.projection 66 (some args.baseGenerationId)).getLast?.all
    fun g => g.baseGenerationId.isNone
  absent : ∀ g ∈ lineageRows s.projection 66 (some args.baseGenerationId),
    g.generationId ≠ args.generationId

theorem get?_of_mem_lineageRows {db : Projection.Db} {n : Nat} {id : Option String} {g : Generation}
    (h : g ∈ lineageRows db n id) : db.generations.get? g.generationId = some g := by
  induction n generalizing id with
  | zero => cases h
  | succ n ih =>
    cases id with
    | none => cases h
    | some id =>
      cases hrow : db.generations.get? id with
      | none =>
        rw [lineageRows, hrow] at h
        cases h
      | some x =>
        rw [Projection.lineageRows_some hrow] at h
        rcases mem_cons.mp h with rfl | h
        · rw [db.generations.key_of_get? hrow]
          exact hrow
        · exact ih h

theorem sparseBaseChain_ok {db : Projection.Db} {baseId : String} {base : Generation}
    (h : sparseBaseChain db baseId = .ok base) :
    (lineageRows db 66 (some baseId)).length ≤ maxLineageDepth ∧
      ((lineageRows db 66 (some baseId)).getLast?.all fun g => g.baseGenerationId.isNone) = true ∧
      ∀ g ∈ lineageRows db 66 (some baseId), g.state ∈ Projection.inheritedCompactStates := by
  obtain ⟨base', hrow, h⟩ := of_bind h
  obtain ⟨_, hstt, h⟩ := of_bind h
  obtain ⟨_, hdep, h⟩ := of_bind h
  iterate 2 obtain ⟨_, -, h⟩ := of_bind h
  obtain ⟨_, htail, h⟩ := of_bind h
  obtain ⟨_, hlast, h⟩ := of_bind h
  obtain ⟨_, hlen, h⟩ := of_bind h
  rw [Except.ofOption_eq_ok_iff] at hrow
  rw [Projection.expect_eq_ok_iff, decide_eq_true_eq] at hstt hdep
  rw [Projection.expect_eq_ok_iff] at htail hlast hlen
  have hrows := Projection.lineageRows_some hrow 65
  refine ⟨?_, hlast, fun g hg => ?_⟩
  · rw [Bool.or_eq_true, decide_eq_true_eq, decide_eq_true_eq] at hlen
    unfold maxLineageDepth
    rcases hlen with hkind | hlen
    · -- a compaction is its own chain
      rw [hrows, (Projection.History.base_none (g := base') (by rw [hkind]; decide)).1]
      simp
    · omega
  · rw [hrows] at hg htail
    rcases mem_cons.mp hg with rfl | hg
    · rw [hstt]
      decide
    · exact of_decide_eq_true (all_eq_true.mp htail g hg)

theorem preflight_ok {env : Env} {plan : Plan} (h : s.preflight env args = .ok plan)
    (hfr : plan.existing.all (fun g => g.state ≠ .ready && g.state ≠ .published) = true) :
    Grounded args s ∧ ∀ g, plan.existing = some g → Based args s := by
  unfold Store.preflight at h
  iterate 2 obtain ⟨_, -, h⟩ := of_bind h
  obtain ⟨_, hdist, h⟩ := of_bind h
  iterate 3 obtain ⟨_, -, h⟩ := of_bind h
  obtain ⟨_, hbase, h⟩ := of_bind h
  obtain ⟨_, -, h⟩ := of_bind h
  obtain ⟨_, -, h⟩ := of_bind h
  dsimp only at h
  split at h
  · cases h
  obtain ⟨_, -, h⟩ := of_bind h
  obtain ⟨_, -, h⟩ := of_bind h
  obtain ⟨_, -, h⟩ := of_bind h
  obtain ⟨_, hex, h⟩ := of_bind h
  obtain rfl := pure_eq_ok_iff.mp h
  unfold require at hdist hex
  rw [Except.ensure_eq_ok_iff] at hdist hex
  rw [Except.mapError_eq_ok_iff] at hbase
  obtain ⟨hlen, hlast, hstat⟩ := sparseBaseChain_ok hbase
  have hrow : ∀ g, s.projection.generations.get? args.generationId = some g →
      g.baseGenerationId = some args.baseGenerationId ∧ g.state = .staging := by
    intro g hg
    rw [hg] at hex hfr
    simp only [Option.all_some, resumable, bool_to_prop]
      at hex hfr
    refine ⟨hex.1.1.1.2, ?_⟩
    rcases hex.2 with (hstag | hrdy) | hpub
    · exact hstag
    · exact absurd hrdy hfr.1
    · exact absurd hpub hfr.2
  refine ⟨⟨of_decide_eq_true hdist, hlen, hlast, fun g hg hid => ?_⟩, fun g hg => ?_⟩
  · -- a generation of the chain was published, the one being built was not
    have hget := get?_of_mem_lineageRows hg
    rw [hid] at hget
    have hstt := hstat g hg
    rw [(hrow g hget).2] at hstt
    cases hstt with
    | tail _ htail => cases htail with | tail _ hnil => cases hnil
  · exact ⟨g, hg, (hrow g hg).1⟩

/-- The base has the same chain in every state of the build. -/
theorem Grounded.chain (h : Grounded args s) (hfrm : Framed args s t) {n : Nat}
    (hn : maxLineageDepth ≤ n) (hfuel : n ≤ 66) :
    lineageRows t.projection n (some args.baseGenerationId) =
      lineageRows s.projection 66 (some args.baseGenerationId) := by
  have hsame := Projection.lineageRows_of_length hfuel (h.length.trans hn)
  have hlen : (lineageRows s.projection 66 (some args.baseGenerationId)).length < 66 :=
    lt_of_le_of_lt h.length (by decide)
  have hbases : ∀ g ∈ lineageRows s.projection n (some args.baseGenerationId),
      g.baseGenerationId ≠ some args.generationId := by
    intro g hg hbase
    rw [hsame] at hg
    obtain ⟨x, hx, hid⟩ := mem_map.mp
      (Projection.base_mem_lineageRows hlen h.last hg hbase)
    exact h.absent x hx hid
  rw [Projection.lineageRows_frame hfrm.generations
    (fun heq => h.distinct (Option.some.inj heq).symm) (fun g hg => h.absent g (hsame ▸ hg)) hbases,
    hsame]

/-- The base shows the same sources in every state of the build. -/
theorem Grounded.chainSource (h : Grounded args s) (hfrm : Framed args s t) (key : String) :
    chainSource t.projection .monthly
        (lineageRows s.projection 66 (some args.baseGenerationId)) key =
      chainSource s.projection .monthly
        (lineageRows s.projection 66 (some args.baseGenerationId)) key :=
  Projection.chainSource_frame fun g hg => hfrm.manifests _ _ _ (h.absent g hg)

end Chain

/-! ### What the published generation shows -/

namespace Store

def ownRows (s : Store) (generationId : String) (month : Month) : List MonthlySettlement :=
  match s.projection.manifest? generationId .monthly (monthText month) with
  | some row => s.sourceRowsD month (row.sourceKind, row.dataGenerationId)
  | none => []

/-- The months that the generation has a partition of although this attempt does not write
them. -/
def leftovers (s : Store) (args : BuildArguments) (affected months : List Month) : List Month :=
  (months.filter fun month => !affected.contains month).filter fun month =>
    (s.projection.manifest? args.generationId .monthly (monthText month)).isSome

def LeftoversAgree (s : Store) (args : BuildArguments) (affected months : List Month) : Prop :=
  ∀ key, ((s.leftovers args affected months).map fun month =>
      monthlySum (s.ownRows args.generationId month) key).sum =
    ((s.leftovers args affected months).map fun month =>
      monthlySum (s.shownBy args.baseGenerationId month) key).sum

/-- A generation without partitions of its own has none left over. -/
theorem leftoversAgree_of_fresh {s : Store} {args : BuildArguments}
    (h : ∀ month, s.projection.manifest? args.generationId .monthly (monthText month) = none)
    (affected months : List Month) : s.LeftoversAgree args affected months := by
  have hnone : s.leftovers args affected months = [] := by
    refine filter_eq_nil_iff.mpr fun month _ => ?_
    rw [h month]
    exact Bool.false_ne_true
  intro key
  rw [hnone]
  rfl

end Store

section Published

variable {args : BuildArguments} {plan : Plan} {s s' t : Store}

/-- A source names the same rows where the rows and the aggregates are the same. -/
theorem sourceRowsD_frame (haggr : t.aggregates = s.aggregates)
    (hrows : ∀ id, t.monthlyRows id month = s.monthlyRows id month)
    (source : Projection.SourceKind × Option String) :
    t.sourceRowsD month source = s.sourceRowsD month source := by
  obtain ⟨kind, data⟩ := source
  cases kind with
  | tombstone => rfl
  | legacyRoot =>
    unfold Store.sourceRowsD Store.legacyRows
    rw [haggr]
  | overlay =>
    cases data with
    | none => rfl
    | some id => exact hrows id

/-- The base shows the same rows of a month that is not written. -/
theorem Grounded.shownBy (h : Grounded args s) (hfrm : Framed args s t)
    (hrows : ∀ id, t.monthlyRows id month = s.monthlyRows id month) :
    t.shownBy args.baseGenerationId month = s.shownBy args.baseGenerationId month := by
  have hchn : ∀ {u : Store}, Framed args s u →
      lineageRows u.projection (maxLineageDepth + 1) (some args.baseGenerationId) =
        lineageRows s.projection 66 (some args.baseGenerationId) :=
    fun hu => h.chain hu (by decide) (by decide)
  unfold Store.shownBy Store.shown
  rw [hchn hfrm, hchn (.refl args s), h.chainSource hfrm, sourceRowsD_frame hfrm.aggregates hrows]

theorem framed_publish (s : Store) (args : BuildArguments) (now : HeavyQueue.Timestamp) :
    Framed args s (s.publish args.generationId now) where
  generations id hid := by
    change (s.projection.promote args.generationId now).generations.get? id = _
    rw [Projection.Db.get?_promote]
    cases hrow : s.projection.generations.get? id with
    | none => rfl
    | some g =>
      rw [Option.map_some, if_neg]
      rw [s.projection.generations.key_of_get? hrow]
      exact hid
  manifests _ _ _ _ := rfl
  aggregates := rfl
  based := by
    rintro ⟨g, hrow, hbase⟩
    refine ⟨g.publish now, ?_, hbase⟩
    change (s.projection.promote args.generationId now).generations.get? _ = _
    rw [Projection.Db.get?_promote, hrow, Option.map_some,
      if_pos (s.projection.generations.key_of_get? hrow)]

/-- The generation shows its own partition of a month, or what its base shows. -/
theorem shownBy_over_base (h : Grounded args s) (hfrm : Framed args s t) (hbased : Based args t)
    (month : Month) : t.shownBy args.generationId month =
      match t.projection.manifest? args.generationId .monthly (monthText month) with
      | some row => t.sourceRowsD month (row.sourceKind, row.dataGenerationId)
      | none => t.shownBy args.baseGenerationId month := by
  obtain ⟨g, hrow, hbase⟩ := hbased
  have hid : g.generationId = args.generationId := t.projection.generations.key_of_get? hrow
  -- the chain of the generation is its row over the chain of the base, which has depth 64 at most
  have hrows : lineageRows t.projection (maxLineageDepth + 1) (some args.generationId) =
      g :: lineageRows t.projection (maxLineageDepth + 1) (some args.baseGenerationId) := by
    rw [Projection.lineageRows_some hrow, hbase, h.chain hfrm (n := maxLineageDepth) le_rfl
      (by decide), h.chain hfrm (n := maxLineageDepth + 1) (by decide) (by decide)]
  unfold Store.shownBy Store.shown
  rw [hrows, Projection.chainSource_cons, hid]
  cases t.projection.manifest? args.generationId .monthly (monthText month) with
  | some row => rfl
  | none => rfl

theorem shownBy_owned (h : Grounded args s) (hfrm : Framed args s t) (hbased : Based args t)
    (howned : Owned args.generationId t month) :
    t.shownBy args.generationId month = t.monthlyRows args.generationId month := by
  obtain ⟨_, hman, howned⟩ := howned
  rw [shownBy_over_base h hfrm hbased, hman]
  dsimp only
  rcases howned with ⟨hkind, hdata⟩ | ⟨hkind, hnil⟩
  · rw [hkind, hdata]
    rfl
  · rw [hkind, hnil]
    rfl

/-- A month that this attempt does not write shows what an earlier attempt left of it, or what the
base shows. -/
theorem Built.shownBy_unwritten {now : HeavyQueue.Timestamp} (hblt : Built args plan s s')
    (h : Grounded args s) (hpub : Framed args s (s'.publish args.generationId now))
    (hbased : Based args (s'.publish args.generationId now)) (hmo : month ∉ plan.affected) :
    (s'.publish args.generationId now).shownBy args.generationId month =
      if (s.projection.manifest? args.generationId .monthly (monthText month)).isSome then
        s.ownRows args.generationId month
      else s.shownBy args.baseGenerationId month := by
  have hrows : ∀ id, (s'.publish args.generationId now).monthlyRows id month =
      s.monthlyRows id month := hblt.rows month hmo
  have hman : (s'.publish args.generationId now).projection.manifest? args.generationId
      .monthly (monthText month) =
        s.projection.manifest? args.generationId .monthly (monthText month) :=
    hblt.manifests month hmo
  rw [shownBy_over_base h hpub hbased, hman]
  unfold Store.ownRows
  cases s.projection.manifest? args.generationId .monthly (monthText month) with
  | some row => exact sourceRowsD_frame hpub.aggregates hrows _
  | none => exact h.shownBy hpub hrows

theorem sum_filter_split {α β : Type*} [AddCommMonoid β] (l : List α) (p : α → Bool) (f : α → β) :
    (l.map f).sum = ((l.filter p).map f).sum + ((l.filter fun a => !p a).map f).sum := by
  rw [← sum_append, ← map_append]
  exact (((filter_append_perm p l).map f).sum_eq).symm

theorem effectiveMonthly_sum {generationId base : String} {rows : List MonthlySettlement}
    (h : s.effectiveMonthly generationId base affected months = .ok rows)
    (key : String × String × String) : monthlySum rows key =
      ((months.filter fun m => affected.contains m).map fun m =>
        monthlySum (s.monthlyRows generationId m) key).sum +
      ((months.filter fun m => !affected.contains m).map fun m =>
        monthlySum (s.shownBy base m) key).sum := by
  obtain ⟨_, hinh, h⟩ := of_bind h
  cases h
  rw [monthlySum_append, Store.resolvedMonthly_sum hinh, flatMap_def, monthlySum_flatten, map_map]
  rfl

end Published

/-- The cumulative rows of a completed build are the sums of the months its generation shows once
it is published, exactly when the partitions that an earlier attempt left behind agree with the
base. -/
theorem cumulative_rankings_match_iff {digests : SparseDigests} {env : Env} {args : BuildArguments}
    {s s' : Store} {plan : Plan} {now : HeavyQueue.Timestamp}
    (hbuild : s.buildSettlementSparseOverlay digests env args = .ok (s', some plan))
    {cutoff : Month} (hcutoff : cutoff ∈ plan.cumulative)
    {months : List Month} (hmonths : sparseMonthRange formalSettlementStart cutoff = .ok months)
    {rows : List MonthlySettlement}
    (hresolve : (s'.publish args.generationId now).resolvedMonthly args.generationId months =
      .ok rows) :
    (∀ key, (s'.publish args.generationId now).cumulativeRanking args.generationId cutoff key =
      monthlySum rows key) ↔ s.LeftoversAgree args plan.affected months := by
  obtain ⟨hpreflight, hfresh, hbuilt⟩ := buildSettlementSparseOverlay_ok hbuild
  obtain ⟨hgrounded, hexisting⟩ := preflight_ok hpreflight hfresh
  obtain ⟨t, months', _, hframed, hkept, hmonths', heffective, hsums⟩ :=
    hbuilt.cumulative cutoff hcutoff
  obtain rfl : months' = months := Except.ok.inj (hmonths'.symm.trans hmonths)
  have hpublished : Framed args s (s'.publish args.generationId now) :=
    hbuilt.framed.trans (framed_publish s' args now)
  have hbased : Based args (s'.publish args.generationId now) :=
    (framed_publish s' args now).based (hbuilt.based hexisting)
  -- the rows of a month that this attempt does not write are those of the state before it
  have hread : ∀ m, m ∉ plan.affected → ∀ id, t.monthlyRows id m = s.monthlyRows id m :=
    fun m hm id => (hkept.monthlyRows id m).symm.trans (hbuilt.rows m hm id)
  refine forall_congr' fun key => ?_
  change s'.cumulativeRanking args.generationId cutoff key = _ ↔ _
  rw [hsums key, effectiveMonthly_sum heffective, Store.resolvedMonthly_sum hresolve,
    sum_filter_split months' fun m => plan.affected.contains m]
  have hown : ((months'.filter fun m => plan.affected.contains m).map fun m =>
        monthlySum (t.monthlyRows args.generationId m) key) =
      (months'.filter fun m => plan.affected.contains m).map fun m =>
        monthlySum ((s'.publish args.generationId now).shownBy args.generationId m) key := by
    refine map_congr_left fun m hm => ?_
    have hmem : m ∈ plan.affected := contains_iff_mem.mp (mem_filter.mp hm).2
    rw [shownBy_owned hgrounded hpublished hbased (hbuilt.owned m hmem)]
    exact congrArg (monthlySum · key) (hkept.monthlyRows args.generationId m).symm
  rw [hown, add_right_inj]
  have hunaffected : ∀ m ∈ months'.filter (fun m => !plan.affected.contains m),
      m ∉ plan.affected := by
    simp
  have hbase : ((months'.filter fun m => !plan.affected.contains m).map fun m =>
        monthlySum (t.shownBy args.baseGenerationId m) key) =
      (months'.filter fun m => !plan.affected.contains m).map fun m =>
        monthlySum (s.shownBy args.baseGenerationId m) key :=
    map_congr_left fun m hm => by
      rw [hgrounded.shownBy hframed (hread m (hunaffected m hm))]
  rw [hbase, sum_filter_split _ (fun m =>
      (s.projection.manifest? args.generationId .monthly (monthText m)).isSome) fun m =>
        monthlySum (s.shownBy args.baseGenerationId m) key,
    sum_filter_split _ (fun m =>
      (s.projection.manifest? args.generationId .monthly (monthText m)).isSome) fun m =>
        monthlySum ((s'.publish args.generationId now).shownBy args.generationId m) key]
  -- where the generation has no partition both read the base
  have hinherited : ∀ m ∈ (months'.filter fun m => !plan.affected.contains m).filter (fun m =>
      !(s.projection.manifest? args.generationId .monthly (monthText m)).isSome),
      monthlySum ((s'.publish args.generationId now).shownBy args.generationId m) key =
        monthlySum (s.shownBy args.baseGenerationId m) key := by
    intro m hm
    obtain ⟨hm, hnone⟩ := mem_filter.mp hm
    rw [hbuilt.shownBy_unwritten hgrounded hpublished hbased (hunaffected m hm), if_neg]
    simpa using hnone
  have hleft : ∀ m ∈ s.leftovers args plan.affected months',
      monthlySum ((s'.publish args.generationId now).shownBy args.generationId m) key =
        monthlySum (s.ownRows args.generationId m) key := by
    intro m hm
    obtain ⟨hm, hsome⟩ := mem_filter.mp hm
    rw [hbuilt.shownBy_unwritten hgrounded hpublished hbased (hunaffected m hm), if_pos hsome]
  rw [map_congr_left hinherited, add_left_inj, eq_comm]
  change ((s.leftovers args plan.affected months').map _).sum = _ ↔ _
  rw [map_congr_left hleft]
  rfl

namespace CumulativeSample

open BillingSourceSample (fee bill billed env)

def movedFee : FeeResult :=
  { fee with
    feeResultId := "fee-2"
    resultVersion := 2
    originalBusinessMonth := formalSettlementStart + 1 }

def disputed : Settlement.Db where
  feeResults := ⟨[{ fee with resultStatus := .superseded }, movedFee], by decide +kernel⟩
  currents := ⟨[⟨"coupon-1", .promotion, "fee-2"⟩], nodup_singleton _⟩
  billing :=
    { statements := ⟨[{ bill "bill-1" "store-1" formalSettlementStart with lockedAt := none }],
        nodup_singleton _⟩
      lines := billed.billing.lines
      entries := billed.billing.entries
      disputes := ⟨[⟨"dispute-1", "bill-1", "store-1", formalSettlementStart, .promotion, .pending,
        none, 1000, none, none, none⟩], nodup_singleton _⟩ }

def withdrawal : WithdrawRequest := ⟨⟨"key-1", "payload-1"⟩, "audit-1", "dispute-1", "settled", 1⟩

def digest (c : Char) : String := String.ofList (replicate 64 c)

def root : Projection.Db where
  generations := ⟨[
    { generationId := "root", generationKind := .legacyRoot, state := .published
      inputFingerprint := digest 'a', manifestChecksum := some (digest 'b')
      kindCheck := Projection.kindBaseDepth_legacyRoot }],
    nodup_singleton _⟩
  active := some (some "root")
  manifests := .empty
  closure := .empty
  overlays := []
  jobs := .empty
  events := []
  fingerprints := nodup_singleton _

def store : Store := ⟨root, [], [], {}, disputed, fun _ => none⟩

def digests : SparseDigests where
  monthlyRows _ := digest '0'
  rankingRows _ := digest '0'
  monthlyCursor _ := ""
  rankingCursor _ := ""
  partitionCursor _ _ := ""
  manifests _ := digest '0'
  monthlyRows_hex _ := by decide +kernel
  rankingRows_hex _ := by decide +kernel

def args : BuildArguments where
  generationId := "overlay-1"
  baseGenerationId := "root"
  affectedMonths := [formalSettlementStart + 1]
  batchSize := 400
  inputFingerprint := digest 'c'

def attempted : Except BuildError Store := store.interruptedBuild digests env args 2

def resumed : Except BuildError (Store × Option Plan) := do
  let s ← attempted
  let ledger ← (s.ledger.withdrawStoreSettlementDispute withdrawal).mapError .settlement
  { s with ledger }.buildSettlementSparseOverlay digests env args

def key : String × String × String := ("store-1", "all", "all")

/-- The affected months of a build and its cutoffs, the promotion fees of a store's cumulative row
of September, and those of the months that the row covers. -/
def compared (built : Except BuildError (Store × Option Plan)) :
    Except BuildError (Option (List Month × List Month) × Int × Int) := do
  let (s, plan) ← built
  let rows ← (s.publish args.generationId 1).resolvedMonthly args.generationId
    [formalSettlementStart, formalSettlementStart + 1]
  return (plan.map fun plan => (plan.affected, plan.cumulative),
    ((s.publish args.generationId 1).cumulativeRanking args.generationId
      (formalSettlementStart + 1) key).promotionNetFeeCent,
    (monthlySum rows key).promotionNetFeeCent)

end CumulativeSample

/-- A build that is not interrupted counts the months that its generation shows. -/
theorem uninterrupted_build_matches :
    ∃ s' plan rows, CumulativeSample.store.buildSettlementSparseOverlay CumulativeSample.digests
        BillingSourceSample.env CumulativeSample.args = .ok (s', some plan) ∧
      plan.affected = [formalSettlementStart, formalSettlementStart + 1] ∧
      (s'.publish "overlay-1" 1).resolvedMonthly "overlay-1"
        [formalSettlementStart, formalSettlementStart + 1] = .ok rows ∧
      (monthlySum rows CumulativeSample.key).promotionNetFeeCent = 1000 ∧
      ∀ key, (s'.publish "overlay-1" 1).cumulativeRanking "overlay-1" (formalSettlementStart + 1)
        key = monthlySum rows key := by
  have hcompared : CumulativeSample.compared
      (CumulativeSample.store.buildSettlementSparseOverlay CumulativeSample.digests
        BillingSourceSample.env CumulativeSample.args) =
      .ok (some ([formalSettlementStart, formalSettlementStart + 1],
        [formalSettlementStart, formalSettlementStart + 1]), 1000, 1000) := by
    decide +kernel
  obtain ⟨⟨s', _⟩, hbuild, hcompared⟩ := of_bind hcompared
  obtain ⟨rows, hrows, hcompared⟩ := of_bind hcompared
  obtain ⟨hplan, hsums⟩ := Prod.mk.inj (pure_eq_ok_iff.mp hcompared)
  obtain ⟨plan, rfl, hmonths⟩ := Option.map_eq_some_iff.mp hplan
  obtain ⟨haffected, hcumulative⟩ := Prod.mk.inj hmonths
  refine ⟨s', plan, rows, hbuild, haffected, hrows, (Prod.mk.inj hsums).2, ?_⟩
  refine (cumulative_rankings_match_iff hbuild (by rw [hcumulative]; decide)
    (by decide +kernel) hrows).mpr ?_
  exact Store.leftoversAgree_of_fresh (fun _ => rfl) _ _

/-- The second attempt plans September alone: its cumulative row takes August from the base, while
the generation shows the August partition of the first attempt. -/
theorem resumed_build_counts_august_differently :
    CumulativeSample.compared CumulativeSample.resumed =
      .ok (some ([formalSettlementStart + 1], [formalSettlementStart + 1]), 1000, 2000) := by
  decide +kernel

end DyData.Sparse
