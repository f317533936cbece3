import DyData.ProjectionRebuild
import DyData.ProjectionSources
import DyData.SparseBuild

/-!
What the transactions of a sparse build write and leave alone, and what a head of the projection
shows of the monthly rows.
-/

namespace DyData.Sparse

open Relational DyData.Settlement List
open Except (of_bind pure_eq_ok_iff)
open DyData.Projection (Artifact Generation chainSource lineageRows sparseManifestValues maxLineageDepth)

variable {entries : List ((String × String × String) × RankingTotals)} {t : Store}
  {generationId : String}

variable {month periodKey cutoff : Month} {rows : List RankingOverlay} {periodType : PeriodType}
  {affected : List Month}

/-! ### Sums of monthly rows -/

section Sums

variable {key : String × String × String}

theorem monthlySum_append (rows rows' : List MonthlySettlement) :
    monthlySum (rows ++ rows') key = monthlySum rows key + monthlySum rows' key := by
  unfold monthlySum
  rw [filter_append, map_append, sum_append]

theorem monthlySum_flatten (parts : List (List MonthlySettlement)) :
    monthlySum parts.flatten key = (parts.map fun rows => monthlySum rows key).sum := by
  induction parts with
  | nil => rfl
  | cons rows parts ih =>
    rw [flatten_cons, monthlySum_append, ih, map_cons, sum_cons]

/-- The grouped sums are the sums of the rows of each key. -/
theorem getD_cumulativeTotals (rows : List MonthlySettlement) :
    ((cumulativeTotals rows).value? key).getD 0 = monthlySum rows key := by
  unfold cumulativeTotals monthlySum
  rw [Dict.value?_groupBy]
  split
  · rename_i hnone
    rw [hnone]
    rfl
  · rfl

end Sums

/-! ### What a head shows -/

namespace Store

def sourceRowsD (s : Store) (month : Month) : Projection.SourceKind × Option String →
    List MonthlySettlement
  | (.tombstone, _) => []
  | (.legacyRoot, _) => s.legacyRows month
  | (.overlay, some generationId) => s.monthlyRows generationId month
  | (.overlay, none) => []

theorem sourceRows_ok {s : Store} {source : Projection.SourceKind × Option String}
    {rows : List MonthlySettlement} (h : s.sourceRows month source = .ok rows) :
    rows = s.sourceRowsD month source := by
  obtain ⟨kind, data⟩ := source
  cases kind with
  | tombstone => exact (Except.ok.inj h).symm
  | legacyRoot => exact (Except.ok.inj h).symm
  | overlay =>
    cases data with
    | none => cases h
    | some id => exact (Except.ok.inj h).symm

def shown (s : Store) (chain : List Generation) (month : Month) : List MonthlySettlement :=
  s.sourceRowsD month (chainSource s.projection .monthly chain (monthText month))

def shownBy (s : Store) (head : String) (month : Month) : List MonthlySettlement :=
  s.shown (lineageRows s.projection (maxLineageDepth + 1) (some head)) month

/-- The resolver reads the chain and the manifests of the projection. -/
theorem shows_reader (s : Store) (n : Nat) (head key : String) :
    chainSource s.reader .monthly (lineageRows s.reader n (some head)) key =
      chainSource s.projection .monthly (lineageRows s.projection n (some head)) key := by
  have hgens : s.reader.generations = s.projection.generations := rfl
  have hrows : lineageRows s.reader n (some head) = lineageRows s.projection n (some head) :=
    Projection.lineageRows_congr hgens n _
  rw [hrows]
  exact Projection.chainSource_frame fun _ _ => rfl

/-- The rows that a head shows add up month by month. -/
theorem resolvedMonthly_sum {s : Store} {head : String} {months : List Month}
    {rows : List MonthlySettlement} (h : s.resolvedMonthly head months = .ok rows)
    (key : String × String × String) :
    monthlySum rows key = (months.map fun month => monthlySum (s.shownBy head month) key).sum := by
  unfold resolvedMonthly at h
  split at h
  · rename_i hnil
    cases h
    rw [List.isEmpty_iff.mp hnil]
    rfl
  · obtain ⟨⟨_, _⟩, hfd, h⟩ := of_bind h
    obtain ⟨parts, hparts, h⟩ := of_bind h
    cases h
    rw [Except.mapError_eq_ok_iff] at hfd
    have hshown : parts = months.map (s.shownBy head) := by
      have hall := Except.mapM_eq_ok_iff.mp hparts
      rw [← map_id parts]
      refine map_eq_of_forall₂ hall fun month hmo part hpart => ?_
      obtain ⟨r, hr, hpart⟩ := Except.of_ofOption_bind hpart
      have hcan : PythonText.strip (monthText month) = monthText month :=
        PythonText.strip_of_all (noSpace_monthText month)
      obtain ⟨r', hr', hsrc⟩ := Projection.resolveProjectionPartitions_source hfd
        (mem_map_of_mem hmo) hcan
      obtain rfl : r' = r := Option.mem_unique hr' hr
      rw [hsrc, shows_reader] at hpart
      exact sourceRows_ok hpart
    rw [hshown, monthlySum_flatten, map_map]
    rfl

end Store

/-! ### What the transactions leave alone -/

def Based (args : BuildArguments) (s : Store) : Prop :=
  ∃ g, s.projection.generations.get? args.generationId = some g ∧
    g.baseGenerationId = some args.baseGenerationId

/-- Everything but the rows of the generation is the same, and it stays over its base. -/
structure Framed (args : BuildArguments) (s s' : Store) : Prop where
  generations : ∀ id, id ≠ args.generationId →
    s'.projection.generations.get? id = s.projection.generations.get? id
  manifests : ∀ id artifact key, id ≠ args.generationId →
    s'.projection.manifest? id artifact key = s.projection.manifest? id artifact key
  aggregates : s'.aggregates = s.aggregates
  based : Based args s → Based args s'

theorem Framed.refl (args : BuildArguments) (s : Store) : Framed args s s :=
  ⟨fun _ _ => rfl, fun _ _ _ _ => rfl, rfl, id⟩

theorem Framed.trans {args : BuildArguments} {s u : Store} (h : Framed args s t)
    (h' : Framed args t u) : Framed args s u :=
  ⟨fun id hid => (h'.generations id hid).trans (h.generations id hid), fun id artifact key hid =>
      (h'.manifests id artifact key hid).trans (h.manifests id artifact key hid),
    h'.aggregates.trans h.aggregates, fun hbased => h'.based (h.based hbased)⟩

structure MonthlyKept (s s' : Store) : Prop where
  monthly : s'.monthly = s.monthly
  manifests : ∀ id key,
    s'.projection.manifest? id .monthly key = s.projection.manifest? id .monthly key

theorem MonthlyKept.refl (s : Store) : MonthlyKept s s := ⟨rfl, fun _ _ => rfl⟩

theorem MonthlyKept.trans {s u : Store} (h : MonthlyKept s t) (h' : MonthlyKept t u) :
    MonthlyKept s u :=
  ⟨h'.monthly.trans h.monthly, fun id key => (h'.manifests id key).trans (h.manifests id key)⟩

theorem MonthlyKept.symm {s : Store} (h : MonthlyKept s t) : MonthlyKept t s :=
  ⟨h.monthly.symm, fun id key => (h.manifests id key).symm⟩

theorem MonthlyKept.monthlyRows {s s' : Store} (h : MonthlyKept s s') (id : String)
    (month : Month) : s'.monthlyRows id month = s.monthlyRows id month := by
  unfold Store.monthlyRows
  rw [h.monthly]

section Transactions

variable {digests : SparseDigests} {args : BuildArguments} {s s' : Store}

theorem manifest?_putManifest (p : Projection.PartitionBuild) (id : String) (artifact : Artifact)
    (key : String) : (s.putManifest args p).projection.manifest? id artifact key =
      if (id, artifact, key) = (args.generationId, p.artifact, p.partitionKey) then
        some (sparseManifestValues args.generationId args.baseGenerationId p)
      else s.projection.manifest? id artifact key := by
  change (s.projection.manifests.put _).get? _ = _
  rw [Table.get?_put, Projection.sparseManifestValues_identity]
  rfl

theorem framed_putManifest (hproj : s'.projection = s.projection)
    (haggr : s'.aggregates = s.aggregates) (p : Projection.PartitionBuild) :
    Framed args s (s'.putManifest args p) where
  generations id _ := by
    change s'.projection.generations.get? id = _
    rw [hproj]
  manifests id artifact key hid := by
    rw [manifest?_putManifest, if_neg, hproj]
    intro heq
    exact hid (Prod.mk.inj heq).1
  aggregates := haggr
  based hbased := by
    change ∃ g, s'.projection.generations.get? args.generationId = some g ∧ _
    rw [hproj]
    exact hbased

theorem claimGeneration_ok {plan : Plan} (h : s.claimGeneration args plan = .ok s') :
    Framed args s s' ∧ MonthlyKept s s' ∧
      ((∀ g, plan.existing = some g → Based args s) → Based args s') := by
  unfold Store.claimGeneration at h
  split at h
  · rename_i g hex
    cases h
    exact ⟨.refl _ _, .refl _, fun hbased => hbased g hex⟩
  · obtain ⟨_, -, h⟩ := of_bind h
    split at h
    · cases h
      have hget : ∀ id, (s.projection.generations.put (args.staging plan.baseDepth)).get? id =
          if id = args.generationId then some (args.staging plan.baseDepth)
          else s.projection.generations.get? id := fun id => Table.get?_put _ _ id
      refine ⟨⟨fun id hid => (hget id).trans (if_neg hid), fun _ _ _ _ => rfl, rfl, fun _ => ?_⟩,
        ⟨rfl, fun _ _ => rfl⟩, fun _ => ?_⟩
      · exact ⟨_, (hget _).trans (if_pos rfl), rfl⟩
      · exact ⟨_, (hget _).trans (if_pos rfl), rfl⟩
    · cases h

theorem finalizeGeneration_ok (h : s.finalizeGeneration digests args = .ok s') :
    Framed args s s' ∧ MonthlyKept s s' ∧ s'.rankings = s.rankings := by
  obtain ⟨_, -, h⟩ := of_bind h
  cases h
  have hget := Table.get?_update s.projection.generations
    (fun g => g.generationId = args.generationId)
    (finished digests (s.projection.manifestsOf args.generationId)) (fun _ => rfl)
  refine ⟨⟨fun id hid => (hget id).trans ?_, fun _ _ _ _ => rfl, rfl, ?_⟩,
    ⟨rfl, fun _ _ => rfl⟩, rfl⟩
  · cases hrow : s.projection.generations.get? id with
    | none => rfl
    | some g =>
      have hne : ¬ g.generationId = args.generationId := by
        rw [s.projection.generations.key_of_get? hrow]
        exact hid
      rw [Option.map_some, if_neg (by simpa using hne)]
  · rintro ⟨g, hrow, hbase⟩
    have hid := s.projection.generations.key_of_get? hrow
    refine ⟨_, (hget _).trans (by rw [hrow, Option.map_some, if_pos (by simpa using hid)]), ?_⟩
    exact hbase

theorem sparseMonthlyValues_ok {entry : (Option String × String × String) × SparseMonthlyRow}
    {o : MonthlyOverlay} (h : sparseMonthlyValues generationId month entry = .ok o) :
    o.generationId = generationId ∧ o.row.month = month ∧ o.tombstone = false := by
  iterate 3 obtain ⟨_, -, h⟩ := of_bind h
  cases h
  exact ⟨rfl, rfl, rfl⟩

structure MonthlyWritten (digests : SparseDigests) (args : BuildArguments) (month : Month)
    (rows : List MonthlyOverlay) (s s' : Store) : Prop where
  framed : Framed args s s'
  manifest : ∀ key, s'.projection.manifest? args.generationId .monthly key =
    if key = monthText month then
      some (sparseManifestValues args.generationId args.baseGenerationId
        (monthlyPartition digests month rows))
    else s.projection.manifest? args.generationId .monthly key
  written : s'.monthlyRows args.generationId month = rows.map MonthlyOverlay.row
  others : ∀ id m, (id, m) ≠ (args.generationId, month) → s'.monthlyRows id m = s.monthlyRows id m

theorem writeMonthlyPartition_ok (h : s.writeMonthlyPartition digests args month = .ok s') :
    ∃ rows, MonthlyWritten digests args month rows s s' := by
  unfold Store.writeMonthlyPartition at h
  obtain ⟨_, -, h⟩ := of_bind h
  obtain ⟨rows, hrows, h⟩ := of_bind h
  obtain ⟨_, -, h⟩ := of_bind h
  obtain rfl := pure_eq_ok_iff.mp h
  have hown : ∀ o ∈ rows, o.generationId = args.generationId ∧ o.row.month = month ∧
      o.tombstone = false := by
    intro o ho
    obtain ⟨_, -, hent⟩ := (Except.mem_of_mapM_ok hrows).mp ho
    exact sparseMonthlyValues_ok hent
  refine ⟨rows, framed_putManifest (by rfl) (by rfl) _, fun key => ?_, ?_, fun id m hne => ?_⟩
  · rw [manifest?_putManifest]
    by_cases hkey : key = monthText month
    · rw [if_pos hkey, if_pos (by rw [hkey]; rfl)]
    · rw [if_neg hkey, if_neg]
      intro heq
      exact hkey (Prod.mk.inj (Prod.mk.inj heq).2).2
  · change (((s.monthly.filter _) ++ rows).filter _).map _ = _
    have hkept : (s.monthly.filter fun o => !(o.generationId = args.generationId &&
        o.row.month = month)).filter (fun o => o.generationId = args.generationId &&
          o.row.month = month && !o.tombstone) = [] := by
      refine filter_eq_nil_iff.mpr fun o ho => ?_
      have hoth := (mem_filter.mp ho).2
      simp only [Bool.not_eq_true'] at hoth
      rw [hoth]
      exact Bool.false_ne_true
    rw [filter_append, hkept, nil_append, filter_eq_self.mpr]
    intro o ho
    obtain ⟨hid, hmo, hlive⟩ := hown o ho
    simp [hid, hmo, hlive]
  · change (((s.monthly.filter _) ++ rows).filter _).map _ = _
    have hnew : rows.filter (fun o => o.generationId = id && o.row.month = m && !o.tombstone) =
        [] := by
      refine filter_eq_nil_iff.mpr fun o ho hsame => hne ?_
      obtain ⟨hid, hmo, -⟩ := hown o ho
      simp only [bool_to_prop] at hsame
      exact Prod.ext (hsame.1.1.symm.trans hid) (hsame.1.2.symm.trans hmo)
    rw [filter_append, hnew, append_nil, filter_filter]
    refine congrArg (map _) (filter_congr fun o _ => ?_)
    by_cases hsame : o.generationId = id ∧ o.row.month = m
    · have hkept : ¬ (o.generationId = args.generationId ∧ o.row.month = month) := by
        rintro ⟨hid, hmo⟩
        exact hne (Prod.ext (hsame.1.symm.trans hid) (hsame.2.symm.trans hmo))
      have hopen : (decide (o.generationId = args.generationId) && decide (o.row.month = month)) =
          false := by
        rw [Bool.and_eq_false_iff, decide_eq_false_iff_not, decide_eq_false_iff_not, ← not_and_or]
        exact hkept
      rw [hopen, Bool.not_false, Bool.and_true]
    · rw [not_and] at hsame
      by_cases hid : o.generationId = id
      · simp [hid, hsame hid]
      · simp [hid]

structure RankingRowOf (generationId : String) (periodType : PeriodType) (periodKey : Month)
    (entry : (String × String × String) × RankingTotals) (o : RankingOverlay) : Prop where
  generation : o.generationId = generationId
  periodType : o.row.periodType = periodType
  periodKey : o.row.periodKey = periodKey
  key : (o.row.storeId, o.row.productScope, o.row.productType) = entry.1
  totals : o.row.totals = entry.2

theorem sparseRankingValues_ok {entry : (String × String × String) × RankingTotals}
    {o : RankingOverlay} (h : s.sparseRankingValues generationId periodType periodKey entry = .ok o) :
    RankingRowOf generationId periodType periodKey entry o := by
  iterate 3 obtain ⟨_, -, h⟩ := of_bind h
  cases h
  exact ⟨rfl, rfl, rfl, rfl, rfl⟩

structure RankingWritten (args : BuildArguments) (affected : List Month) (periodType : PeriodType)
    (periodKey : Month) (entries : List ((String × String × String) × RankingTotals))
    (rows : List RankingOverlay) (s s' : Store) : Prop where
  framed : Framed args s s'
  kept : MonthlyKept s s'
  query : s.rankingQuery args affected periodType periodKey = .ok entries
  entered : Forall₂ (RankingRowOf args.generationId periodType periodKey) entries rows
  rankings : s'.rankings = (s.rankings.filter fun o => !(o.generationId = args.generationId &&
    o.row.periodType = periodType && o.row.periodKey = periodKey)) ++ rows

theorem writeRankingPartition_ok
    (h : s.writeRankingPartition digests args affected periodType periodKey = .ok s') :
    ∃ entries rows, RankingWritten args affected periodType periodKey entries rows s s' := by
  obtain ⟨_, -, h⟩ := of_bind h
  obtain ⟨entries, hents, h⟩ := of_bind h
  obtain ⟨rows, hrows, h⟩ := of_bind h
  obtain ⟨_, -, h⟩ := of_bind h
  cases h
  refine ⟨entries, rows, framed_putManifest (by rfl) (by rfl) _, ⟨rfl, fun id key => ?_⟩, hents,
    (Except.mapM_eq_ok_iff.mp hrows).imp fun _ _ => sparseRankingValues_ok, rfl⟩
  rw [manifest?_putManifest, if_neg]
  intro heq
  cases (Prod.mk.inj (Prod.mk.inj heq).2).1

/-- A key is looked up in the rows as in the entries. -/
theorem find_rankingRows (h : Forall₂ (RankingRowOf generationId .cumulative cutoff) entries rows)
    (key : String × String × String) :
    (rows.find? fun o => o.generationId = generationId && o.row.periodType = .cumulative &&
      o.row.periodKey = cutoff && (o.row.storeId, o.row.productScope, o.row.productType) = key).map
        (fun o => o.row.totals) = (entries.find? fun e => e.1 = key).map Prod.snd := by
  induction h with
  | nil => rfl
  | @cons entry o entries rows hrow _ ih =>
    rw [find?_cons, find?_cons]
    by_cases hkey : entry.1 = key
    · simp [hrow.generation, hrow.periodType, hrow.periodKey, hrow.key, hkey, hrow.totals]
    · simp only [hrow.generation, hrow.periodType, hrow.periodKey, hrow.key, hkey, decide_true,
        decide_false, Bool.and_false]
      exact ih

/-- The cumulative rows of the cutoff are the entries of the query. -/
theorem cumulativeRanking_written
    (h : RankingWritten args affected .cumulative cutoff entries rows s s')
    (key : String × String × String) : s'.cumulativeRanking args.generationId cutoff key =
      ((entries.find? fun e => e.1 = key).map Prod.snd).getD 0 := by
  have hkept : (s.rankings.filter fun o => !(o.generationId = args.generationId &&
      o.row.periodType = PeriodType.cumulative && o.row.periodKey = cutoff)).find?
        (fun o => o.generationId = args.generationId && o.row.periodType = .cumulative &&
          o.row.periodKey = cutoff &&
          (o.row.storeId, o.row.productScope, o.row.productType) = key) = none := by
    refine find?_eq_none.mpr fun o ho hsame => ?_
    have hoth := (mem_filter.mp ho).2
    rw [Bool.and_eq_true] at hsame
    rw [hsame.1] at hoth
    exact Bool.false_ne_true hoth
  unfold Store.cumulativeRanking
  rw [h.rankings, find?_append, hkept, Option.none_or, find_rankingRows h.entered]

theorem cumulativeRanking_other
    (h : RankingWritten args affected periodType periodKey entries rows s s')
    (hne : (periodType, periodKey) ≠ (PeriodType.cumulative, cutoff))
    (key : String × String × String) : s'.cumulativeRanking args.generationId cutoff key =
      s.cumulativeRanking args.generationId cutoff key := by
  have hnew : rows.find? (fun o => o.generationId = args.generationId &&
      o.row.periodType = .cumulative && o.row.periodKey = cutoff &&
      (o.row.storeId, o.row.productScope, o.row.productType) = key) = none := by
    refine find?_eq_none.mpr fun o ho hsame => hne ?_
    obtain ⟨_, -, hrow⟩ := exists_of_forall₂_right h.entered ho
    simp only [bool_to_prop] at hsame
    exact Prod.ext (hrow.periodType.symm.trans hsame.1.1.2)
      (hrow.periodKey.symm.trans hsame.1.2)
  unfold Store.cumulativeRanking
  rw [h.rankings, find?_append, hnew, Option.or_none, find?_filter]
  refine congrArg (fun p => ((s.rankings.find? p).map fun o => o.row.totals).getD 0)
    (funext fun o => ?_)
  by_cases hsame : o.row.periodType = .cumulative ∧ o.row.periodKey = cutoff
  · -- a row of the cutoff is in another partition than the one written
    have hoth : (decide (o.row.periodType = periodType) && decide (o.row.periodKey = periodKey)) =
        false := by
      rw [Bool.and_eq_false_iff, decide_eq_false_iff_not, decide_eq_false_iff_not, ← not_and_or]
      rintro ⟨htype, hkey⟩
      exact hne (Prod.ext (htype.symm.trans hsame.1) (hkey.symm.trans hsame.2))
    rw [Bool.and_assoc, hoth, Bool.and_false]
    simp
  · rw [not_and] at hsame
    by_cases htype : o.row.periodType = .cumulative
    · simp [hsame htype]
    · simp [htype]

end Transactions

end DyData.Sparse
