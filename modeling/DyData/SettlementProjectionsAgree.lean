import DyData.BillingSourceTotals
import DyData.SettlementProjections

/-!
The two ways to project a month agree.  Both are brought down to the figures of the same
sources: the pass of the full rebuild adds up what the grouped query sums, and without protected
bills the two selections pick the same results and adjustments.
-/

namespace DyData.Settlement

open Relational List Option

variable {rows : List Figure}

variable {p : Figure → Bool} {row : Figure} {r : FeeResult} {aggregates : Aggregates}

/-! ### The pass adds up the figures -/

def StatementSource.figure (s : StatementSource) : Figure :=
  ⟨s.sourceType, s.feeDirection, s.orderId, s.sourceAmountCent, s.baseAmountCent, s.feeAmountCent⟩

theorem sumWhere_append (amount : Figure → Int) (rows : List Figure) :
    sumWhere p amount (rows ++ [row]) =
      sumWhere p amount rows + if p row then amount row else 0 := by
  unfold sumWhere
  cases h : p row <;> simp [h]

/-- The order ids of the rows with `p`. -/
def ordersOf (p : Figure → Bool) (rows : List Figure) : List String :=
  (rows.filter p).map Figure.orderId

theorem ordersOf_append (p : Figure → Bool) (rows : List Figure) (row : Figure) :
    ordersOf p (rows ++ [row]) = ordersOf p rows ++ if p row then [row.orderId] else [] := by
  unfold ordersOf
  cases h : p row <;> simp [h]

/-- A set of order ids that was filled from the rows with `p`. -/
def Collected (ids : List String) (p : Figure → Bool) (rows : List Figure) : Prop :=
  ids.Nodup ∧ ∀ id, id ∈ ids ↔ id ∈ ordersOf p rows

theorem Collected.length {ids : List String} (h : Collected ids p rows) :
    ids.length = ordersWhere p rows := by
  refine ((perm_ext_iff_of_nodup h.1 (nodup_dedup _)).mpr fun id => ?_).length_eq
  rw [mem_dedup]
  exact h.2 id

theorem Collected.append {ids : List String} (h : Collected ids p rows)
    (row : Figure) :
    Collected (if p row then ids.insert row.orderId else ids) p (rows ++ [row]) := by
  split
  · rename_i hp
    refine ⟨h.1.insert, fun id => ?_⟩
    rw [mem_insert_iff, ordersOf_append, if_pos hp, mem_append, mem_singleton, h.2]
    exact or_comm
  · rename_i hp
    refine ⟨h.1, fun id => ?_⟩
    rw [ordersOf_append, if_neg hp, append_nil]
    exact h.2 id

/-- A row of the pass that has seen the figures `rows`. -/
structure Tallied (row : MonthlyProjection) (rows : List Figure) : Prop where
  sales : Collected row.salesOrderIds (·.is .original .promotion) rows
  verified : Collected row.verifiedOrderIds (·.is .original .management) rows
  salesAmount : row.salesAmountCent =
    sumWhere (·.is .original .promotion) Figure.sourceAmountCent rows
  verifiedAmount : row.verifiedAmountCent =
    sumWhere (·.is .original .management) Figure.sourceAmountCent rows
  promotionBase : row.promotionBaseCent =
    sumWhere (·.feeDirection = .promotion) Figure.baseAmountCent rows
  promotionOriginal : row.promotionOriginalFeeCent =
    sumWhere (·.is .original .promotion) Figure.feeAmountCent rows
  promotionAdjustment : row.promotionAdjustmentFeeCent =
    sumWhere (·.is .adjustment .promotion) Figure.feeAmountCent rows
  managementBase : row.managementBaseCent =
    sumWhere (·.feeDirection = .management) Figure.baseAmountCent rows
  managementOriginal : row.managementOriginalFeeCent =
    sumWhere (·.is .original .management) Figure.feeAmountCent rows
  managementAdjustment : row.managementAdjustmentFeeCent =
    sumWhere (·.is .adjustment .management) Figure.feeAmountCent rows

theorem Tallied.figures {row : MonthlyProjection} (h : Tallied row rows) :
    row.figures = monthlyFigures rows := by
  unfold MonthlyProjection.figures monthlyFigures
  rw [h.sales.length, h.verified.length, h.salesAmount, h.verifiedAmount, h.promotionBase,
    h.promotionOriginal, h.promotionAdjustment, h.managementBase, h.managementOriginal,
    h.managementAdjustment]

theorem tallied_empty : Tallied {} [] := by
  have hnone : ∀ p, Collected [] p [] := fun p => ⟨nodup_nil, fun id => Iff.rfl⟩
  exact ⟨hnone _, hnone _, rfl, rfl, rfl, rfl, rfl, rfl, rfl, rfl⟩

/-- One source added to the row: each of the four kinds touches its own fields. -/
theorem Tallied.add {row : MonthlyProjection} (h : Tallied row rows)
    (s : StatementSource) : Tallied (row.add s) (rows ++ [s.figure]) := by
  have hsales := h.sales.append s.figure
  have hver := h.verified.append s.figure
  unfold MonthlyProjection.add
  cases htype : s.sourceType <;> cases hdir : s.feeDirection <;>
    simp only [Figure.is, StatementSource.figure, htype, hdir, decide_true, decide_false,
      Bool.and_self, Bool.and_true, Bool.and_false, reduceCtorEq, if_true, if_false,
      Bool.false_eq_true] at hsales hver ⊢
  all_goals
    refine ⟨hsales, hver, ?_, ?_, ?_, ?_, ?_, ?_, ?_, ?_⟩
    all_goals simp only [sumWhere_append, h.salesAmount, h.verifiedAmount, h.promotionBase,
      h.promotionOriginal, h.promotionAdjustment, h.managementBase, h.managementOriginal,
      h.managementAdjustment, Figure.is, decide_true, decide_false, Bool.and_self, Bool.and_true,
      Bool.and_false, reduceCtorEq, if_true, if_false, Bool.false_eq_true, add_zero]

theorem tallied_foldl (sources : List StatementSource) {row : MonthlyProjection}
    (h : Tallied row rows) : Tallied (sources.foldl MonthlyProjection.add row)
      (rows ++ sources.map StatementSource.figure) := by
  induction sources generalizing row rows with
  | nil =>
    rw [map_nil, append_nil]
    exact h
  | cons s sources ih =>
    have hrest := ih (h.add s)
    rwa [append_assoc] at hrest

/-! ### The rows of a month -/

def sourceFigures (sources : List StatementSource) (storeId : String)
    (dimension : String × String) : List Figure :=
  (sources.filter fun s => s.storeId = storeId &&
    covers (orAll s.productScope) (orAll s.productType) dimension).map StatementSource.figure

theorem entriesOf_dimensioned (sources : List StatementSource) (storeId : String)
    (dimension : String × String) : Dict.entriesOf (storeId, dimension) (dimensioned sources) =
      sources.filter fun s => s.storeId = storeId &&
        covers (orAll s.productScope) (orAll s.productType) dimension := by
  have hspr := Dict.entriesOf_spread StatementSource.storeId
    (fun s => projectionDimensions s.productScope s.productType) id
    (fun s => nodup_projectionDimensions _ _) sources storeId dimension
  rw [List.map_id] at hspr
  refine hspr.trans (filter_congr fun s _ => ?_)
  rw [Bool.eq_iff_iff]
  simp only [bool_to_prop, mem_projectionDimensions]

theorem value?_monthlyProjections (sources : List StatementSource) (storeId : String)
    (dimension : String × String) :
    ((monthlyProjections sources).value? (storeId, dimension)).map MonthlyProjection.figures =
      if sourceFigures sources storeId dimension = [] then none
      else some (monthlyFigures (sourceFigures sources storeId dimension)) := by
  unfold monthlyProjections sourceFigures
  rw [Dict.value?_tally, entriesOf_dimensioned, Dict.value?_empty, getD_none]
  by_cases hnil : (sources.filter fun s => s.storeId = storeId &&
      covers (orAll s.productScope) (orAll s.productType) dimension) = []
  · rw [if_pos hnil, if_pos (by rw [hnil, map_nil]), map_none]
  · rw [if_neg hnil, if_neg (fun h => hnil (map_eq_nil_iff.mp h)), map_some]
    have htall := tallied_foldl (sources.filter fun s => s.storeId = storeId &&
      covers (orAll s.productScope) (orAll s.productType) dimension) tallied_empty
    rw [nil_append] at htall
    rw [htall.figures]

section Created

variable {db : Db} {runId : String} {month : Month} {sources : List StatementSource}

theorem nodup_createdRows : ((db.createdRows runId month sources).map MonthlySettlement.key).Nodup := by
  unfold Db.createdRows
  rw [List.map_map]
  exact (monthlyProjections sources).nodup

theorem month_createdRows {row : MonthlySettlement}
    (h : row ∈ db.createdRows runId month sources) : row.month = month := by
  obtain ⟨_, -, rfl⟩ := List.mem_map.mp h
  rfl

theorem find_createdRows (storeId : String) (dimension : String × String) :
    ((db.createdRows runId month sources).find? fun row => row.key = (storeId, dimension)).map
        MonthlySettlement.figures =
      if sourceFigures sources storeId dimension = [] then none
      else some (monthlyFigures (sourceFigures sources storeId dimension)) := by
  rw [← value?_monthlyProjections]
  unfold Db.createdRows Dict.value?
  rw [find?_map, Option.map_map, Option.map_map]
  rfl

/-- The rows of one month in a table, found among the rows the month was given. -/
theorem get?_eq_find? {t : Table MonthlySettlement.slot} {rows : List MonthlySettlement}
    {key : String × String × String} (hmos : ∀ row ∈ rows, row.month = month)
    (hrows : ∀ row, row.month = month → (row ∈ t.rows ↔ row ∈ rows)) :
    t.get? (month, key) = rows.find? fun row => row.key = key := by
  cases hfind : rows.find? fun row => decide (row.key = key) with
  | none =>
    refine (Table.get?_eq_none_iff _).mpr fun row hrow hslot => ?_
    obtain ⟨hmo, hkey⟩ := Prod.mk.inj hslot
    exact find?_eq_none.mp hfind row ((hrows row hmo).mp hrow) (decide_eq_true hkey)
  | some row =>
    have hmem := mem_of_find?_eq_some hfind
    have hfd := find?_some hfind
    have hkey : row.key = key := of_decide_eq_true hfd
    have hmo := hmos row hmem
    refine t.get?_eq_some_iff.mpr ⟨(hrows row hmo).mpr hmem, ?_⟩
    exact Prod.ext hmo hkey

end Created

/-! ### The loop over the months -/

theorem exists_append? {κ ρ : Type*} [DecidableEq κ] {key : ρ → κ} {t : Table key} {added : List ρ}
    (hadded : (added.map key).Nodup) (hnew : ∀ r ∈ t.rows, ∀ s ∈ added, key r ≠ key s) :
    ∃ t', t.append? added = some t' ∧ t'.rows = t.rows ++ added := by
  have hnd : ((t.rows ++ added).map key).Nodup := by
    rw [map_append, nodup_append]
    refine ⟨t.nodup, hadded, fun a ha b hb hab => ?_⟩
    obtain ⟨r, hr, rfl⟩ := List.mem_map.mp ha
    obtain ⟨s, hs, rfl⟩ := List.mem_map.mp hb
    exact hnew r hr s hs hab
  refine ⟨⟨t.rows ++ added, hnd⟩, ?_, rfl⟩
  unfold Table.append?
  rw [dif_pos hnd]

section Loop

variable {db : Db} (context : ProjectionContext) (runId : String)

/-- The ranking rows of a month have slots of their own. -/
theorem nodup_rankingRows (month : Month) {created : List MonthlySettlement}
    (hcrea : (created.map MonthlySettlement.key).Nodup)
    (cumulative : Dict (String × String × String) RankingTotals) :
    ((rankingRows context runId month created cumulative).map StoreRanking.slot).Nodup := by
  have hslot : Function.Injective fun key : PeriodType × String × String × String =>
      (key.1, month, key.2) := by
    intro x y h
    obtain ⟨h1, h2⟩ := Prod.mk.inj h
    exact Prod.ext h1 (Prod.mk.inj h2).2
  have hmap : (rankingRows context runId month created cumulative).map StoreRanking.slot =
      (((created.map MonthlySettlement.key).map fun key => (PeriodType.month, key)) ++
        (cumulative.rows.map Prod.fst).map fun key => (PeriodType.cumulative, key)).map
          fun key => (key.1, month, key.2) := by
    unfold rankingRows
    simp only [map_append, List.map_map]
    rfl
  rw [hmap]
  refine (nodup_append.mpr ⟨?_, ?_, ?_⟩).map hslot
  · exact hcrea.map fun x y h => (Prod.mk.inj h).2
  · exact cumulative.nodup.map fun x y h => (Prod.mk.inj h).2
  · intro x hx y hy hxy
    obtain ⟨_, -, rfl⟩ := List.mem_map.mp hx
    obtain ⟨_, -, rfl⟩ := List.mem_map.mp hy
    cases (Prod.mk.inj hxy).1

theorem period_rankingRows {month : Month} {created : List MonthlySettlement}
    {cumulative : Dict (String × String × String) RankingTotals} {row : StoreRanking}
    (h : row ∈ rankingRows context runId month created cumulative) : row.periodKey = month := by
  rcases mem_append.mp h with h | h
  · obtain ⟨_, -, rfl⟩ := List.mem_map.mp h
    rfl
  · obtain ⟨_, -, rfl⟩ := List.mem_map.mp h
    rfl

/-- A month whose sources are known is rebuilt, and no other month changes. -/
theorem rebuildMonth_ok {month : Month} {sources : List StatementSource} {skipped : Nat}
    (hsrcs : db.projectionSources context.snapshots month = .ok (sources, skipped))
    (state : RebuildState) : ∃ state', db.rebuildMonth context runId state month = .ok state' ∧
      ∀ row, row ∈ state'.aggregates.monthly.rows ↔
        if row.month = month then row ∈ db.createdRows runId month sources
        else row ∈ state.aggregates.monthly.rows := by
  have hkeys : ((db.createdRows runId month sources).map MonthlySettlement.key).Nodup :=
    nodup_createdRows
  have hslots : ((db.createdRows runId month sources).map MonthlySettlement.slot).Nodup := by
    refine Nodup.of_map (fun slot : Month × String × String × String => slot.2) ?_
    rw [List.map_map]
    exact hkeys
  obtain ⟨monthly, hmont, hrows⟩ := exists_append?
    (t := state.aggregates.monthly.delete fun row => row.month = month) hslots (by
      intro r hr s hs hslot
      have hoth := (mem_filter.mp hr).2
      rw [month_createdRows hs |>.symm.trans (Prod.mk.inj hslot).1.symm] at hoth
      simp at hoth)
  have hwrt : ∀ row, row ∈ monthly.rows ↔
      if row.month = month then row ∈ db.createdRows runId month sources
      else row ∈ state.aggregates.monthly.rows := by
    intro row
    rw [hrows]
    change row ∈ state.aggregates.monthly.rows.filter (fun row => !decide (row.month = month)) ++ _ ↔ _
    by_cases hmo : row.month = month
    · simp [hmo]
    · have hnew : row ∉ db.createdRows runId month sources := fun h => hmo (month_createdRows h)
      simp [hmo, hnew]
  have hdone : ∃ state', db.rebuildMonth context runId state month = .ok state' ∧
      state'.aggregates.monthly = monthly := by
    unfold Db.rebuildMonth
    rw [hsrcs]
    simp only [bind, Except.bind, hmont, Except.ofOption]
    split
    · exact ⟨_, rfl, rfl⟩
    · -- the old ranking rows of the month are gone, so the new ones find their slots free
      obtain ⟨_, hrank, -⟩ := exists_append?
        (t := state.aggregates.rankings.delete fun row => row.periodKey = month)
        (nodup_rankingRows context runId month hkeys
          (Dict.tally {} RankingTotals.add state.cumulative
            ((db.createdRows runId month sources).map fun row => (row.key, row.totals)))) (by
          intro r hr s hs hslot
          have hoth := (mem_filter.mp hr).2
          have hper : r.periodKey = month := by
            rw [(Prod.mk.inj (Prod.mk.inj hslot).2).1]
            exact period_rankingRows context runId hs
          simp [hper] at hoth)
      rw [hrank]
      exact ⟨_, rfl, rfl⟩
  obtain ⟨state', hstt, rfl⟩ := hdone
  exact ⟨state', hstt, hwrt⟩

/-- The months that were rebuilt have the rows of their sources. -/
theorem rebuildMonths_ok (sourcesOf : Month → List StatementSource) (skippedOf : Month → Nat)
    {months : List Month}
    (hsrcs : ∀ month ∈ months,
      db.projectionSources context.snapshots month = .ok (sourcesOf month, skippedOf month))
    (state : RebuildState) :
    ∃ final, months.foldlM (db.rebuildMonth context runId) state = .ok final ∧
      ∀ row, row ∈ final.aggregates.monthly.rows ↔
        if row.month ∈ months then row ∈ db.createdRows runId row.month (sourcesOf row.month)
        else row ∈ state.aggregates.monthly.rows := by
  induction months generalizing state with
  | nil => exact ⟨state, rfl, fun row => by simp⟩
  | cons month months ih =>
    obtain ⟨state', hstt, hfst⟩ :=
      rebuildMonth_ok context runId (hsrcs month mem_cons_self) state
    obtain ⟨final, hfinal, hrest⟩ := ih (fun m hm => hsrcs m (mem_cons_of_mem _ hm)) state'
    refine ⟨final, ?_, fun row => ?_⟩
    · rw [foldlM_cons, hstt]
      exact hfinal
    · rw [hrest]
      by_cases hlater : row.month ∈ months
      · rw [if_pos hlater, if_pos (mem_cons_of_mem _ hlater)]
      · rw [if_neg hlater, hfst]
        by_cases hmo : row.month = month
        · rw [if_pos hmo, if_pos (mem_cons.mpr (.inl hmo)), hmo]
        · rw [if_neg hmo, if_neg]
          exact fun h => (mem_cons.mp h).elim hmo hlater

end Loop

/-! ### The two selections -/

/-- Every pointer names a result of its own coupon and direction, and a restored redemption
belongs to the coupon and direction of the one it restores. -/
structure Db.LinkedLedger (db : Db) : Prop where
  points : ∀ p ∈ db.currents.rows, ∃ r, db.feeResults.get? p.feeResultId = some r ∧
    (r.couponId, r.feeDirection) = p.slot
  anchored : ∀ r ∈ db.feeResults.rows, ∀ id, r.reverificationAnchorId = some id →
    ∀ anchor, db.feeResults.get? id = some anchor →
      (anchor.couponId, anchor.feeDirection) = (r.couponId, r.feeDirection)

structure Db.StoresKnown (db : Db) : Prop where
  results : ∀ r ∈ db.currentResults, formalSettlementStart ≤ r.originalBusinessMonth →
    (r.knownStore r.feeDirection).isSome = true
  adjustments : ∀ row ∈ db.pointedAdjustments,
    formalSettlementStart ≤ row.1.adjustmentPostingMonth → db.activeAdjustment row.1 = true →
    (row.2.knownStore row.1.feeDirection).isSome = true

section Selection

variable {db : Db} (hledger : db.LinkedLedger)

include hledger

/-- The pointers that make a result authoritative all stand in its own slot. -/
theorem slot_of_pointed (hr : r ∈ db.feeResults.rows) {p : FeeResultCurrent}
    (hp : p ∈ db.currents.rows)
    (h : p.feeResultId = r.feeResultId ∨ some p.feeResultId = r.reverificationAnchorId) :
    p.slot = (r.couponId, r.feeDirection) := by
  obtain ⟨named, hnamed, hslot⟩ := hledger.points p hp
  rw [← hslot]
  rcases h with h | h
  · rw [h, db.feeResults.get?_of_mem hr] at hnamed
    rw [some.inj hnamed]
  · exact hledger.anchored r hr p.feeResultId h.symm named hnamed

theorem pointer_unique (hr : r ∈ db.feeResults.rows) {p q : FeeResultCurrent}
    (hp : p ∈ db.currents.rows) (hq : q ∈ db.currents.rows)
    (hpr : p.feeResultId = r.feeResultId ∨ some p.feeResultId = r.reverificationAnchorId)
    (hqr : q.feeResultId = r.feeResultId ∨ some q.feeResultId = r.reverificationAnchorId) : p = q :=
  db.currents.eq_of_key_eq hp hq
    ((slot_of_pointed hledger hr hp hpr).trans (slot_of_pointed hledger hr hq hqr).symm)

theorem currentResults_eq : db.currentResults = db.feeResults.rows.filter fun r =>
    db.currents.rows.any fun p => p.feeResultId = r.feeResultId :=
  currentResults_of_unique fun _ hr _ hp _ hq hpr hqr =>
    pointer_unique hledger hr hp hq (.inl hpr) (.inl hqr)

theorem pointedAdjustments_eq : db.pointedAdjustments = db.adjustments.rows.flatMap fun a =>
    match db.feeResults.get? a.originalFeeResultId with
    | none => []
    | some r => if db.pointed r then [(a, r)] else [] := by
  have hnd : db.currents.rows.Nodup := Nodup.of_map _ db.currents.nodup
  unfold Db.pointedAdjustments
  refine flatMap_congr fun a _ => ?_
  cases hr : db.feeResults.get? a.originalFeeResultId with
  | none => rfl
  | some r =>
    refine map_const_filter hnd (fun p hp q hq hpr hqr => ?_) (a, r)
    simp only [bool_to_prop] at hpr hqr
    exact pointer_unique hledger (db.feeResults.mem_of_get? hr) hp hq hpr hqr

end Selection

/-! ### Without protected bills -/

section Open

variable {db : Db} (hopen : db.billing.protectedBills = [])

include hopen

theorem protectedEntries_of_open : db.billing.protectedEntries = [] := by
  unfold Billing.protectedEntries
  rw [hopen, flatMap_nil]

theorem protectedSlot_of_open (storeId : Option String) (month : Month) :
    db.billing.protectedSlot storeId month = false := by
  unfold Billing.protectedSlot
  rw [hopen, any_nil]

theorem not_locked_of_open {s : Statement} (hs : s ∈ db.billing.statements.rows) :
    ¬ (s.statementStatus = .locked ∧ s.isCurrent = true) := by
  rintro ⟨hlock, hcur⟩
  have hprot : s ∈ db.billing.protectedBills := by
    refine mem_filter.mpr ⟨hs, ?_⟩
    simp [hcur, Billing.protectedStatement, hlock, StatementStatus.isFinal]
  rw [hopen] at hprot
  exact not_mem_nil hprot

theorem lockedStatement_of_open (storeId : String) (month : Month) :
    db.billing.lockedStatement storeId month = none := by
  refine find?_eq_none.mpr fun s hs hfd => ?_
  simp only [bool_to_prop] at hfd
  exact not_locked_of_open hopen hs ⟨hfd.1.2, hfd.2⟩

theorem lockedSources_of_open (month : Month) : db.lockedSources month = [] := by
  refine filterMap_eq_nil_iff.mpr fun e _ => ?_
  split
  · rename_i hs _
    refine if_neg fun hlock => ?_
    simp only [bool_to_prop] at hlock
    exact not_locked_of_open hopen (db.billing.statements.mem_of_get? hs) hlock.1
  · rfl

theorem resultAuthorityRows_of_open (month : Month) : db.resultAuthorityRows [month] =
    (db.currentResults.filter fun r => r.originalBusinessMonth = month).map
      FeeResult.authorityRow := by
  unfold Db.resultAuthorityRows
  congr 1
  refine filter_congr fun r _ => ?_
  unfold Billing.frozenPrimaryChain
  rw [protectedSlot_of_open hopen, protectedEntries_of_open hopen]
  simp

theorem frozenAuthorityRows_of_open (months : List Month) : db.frozenAuthorityRows months = [] := by
  unfold Db.frozenAuthorityRows
  rw [protectedEntries_of_open hopen]
  rfl

/-- The adjustments the query selects are those whose result is pointed at. -/
theorem authoritativeAdjustments_of_open (hledger : db.LinkedLedger) (month : Month) :
    db.basedAdjustments.filter (db.authoritativeAdjustment [month]) =
      (db.pointedAdjustments.filter fun row => row.1.adjustmentPostingMonth = month &&
        db.activeAdjustment row.1).map fun row => (row.1, row.2, none) := by
  rw [pointedAdjustments_eq hledger, filter_flatMap, map_flatMap]
  unfold Db.basedAdjustments
  rw [filter_flatMap]
  refine flatMap_congr fun a _ => ?_
  have hbases : db.basesOf a = [] := by
    unfold Db.basesOf
    rw [protectedEntries_of_open hopen, filter_nil]
  cases hr : db.feeResults.get? a.originalFeeResultId with
  | none => rfl
  | some r =>
    have hsel : db.authoritativeAdjustment [month] (a, r, none) =
        ((decide (a.adjustmentPostingMonth = month) && db.activeAdjustment a) && db.pointed r) := by
      unfold Db.authoritativeAdjustment Billing.frozenAdjustment Billing.frozenAnchor
      simp [protectedSlot_of_open hopen, protectedEntries_of_open hopen]
    simp only [hbases, outerJoined, map_cons, map_nil, filter_cons, filter_nil, hsel]
    cases hpoin : db.pointed r
    · simp
    · cases hkeep : (decide (a.adjustmentPostingMonth = month) && db.activeAdjustment a) <;>
        simp [hkeep]

end Open

/-! ### Agreement -/

def AuthorityRow.view (r : AuthorityRow) : Option String × String × String × Figure :=
  (r.storeId, r.sourceProductScope, r.sourceProductType, r.figure)

def StatementSource.view (s : StatementSource) : Option String × String × String × Figure :=
  (some s.storeId, orAll s.productScope, orAll s.productType, s.figure)

theorem sourceFigures_eq {sources : List StatementSource} {rows : List AuthorityRow}
    (h : sources.map StatementSource.view = rows.map AuthorityRow.view) (storeId : String)
    (dimension : String × String) :
    sourceFigures sources storeId dimension = figuresAt rows (some storeId) dimension := by
  let keep (view : Option String × String × String × Figure) : Bool :=
    view.1 = some storeId && covers view.2.1 view.2.2.1 dimension
  have hsrcs : sourceFigures sources storeId dimension =
      ((sources.map StatementSource.view).filter keep).map fun view => view.2.2.2 := by
    rw [List.filter_map, List.map_map]
    unfold sourceFigures
    congr 1
    refine filter_congr fun s _ => ?_
    simp [keep, StatementSource.view]
  have hrows : figuresAt rows (some storeId) dimension =
      ((rows.map AuthorityRow.view).filter keep).map fun view => view.2.2.2 := by
    rw [List.filter_map, List.map_map]
    rfl
  rw [hsrcs, hrows, h]

theorem responsibleStore_of_known {direction : Direction} {storeId : String}
    (h : r.knownStore direction = some storeId) : r.responsibleStore direction = some storeId :=
  (filter_eq_some_iff.mp h).1

theorem view_resultStatementSource {snapshots : SourceSnapshots} {s : StatementSource}
    (h : resultStatementSource snapshots r = .ok s) : s.view = r.authorityRow.view := by
  unfold resultStatementSource at h
  split at h
  · cases h
  · rename_i hst
    cases h
    unfold AuthorityRow.view FeeResult.authorityRow
    rw [responsibleStore_of_known hst]
    rfl

theorem view_adjustmentStatementSource {snapshots : SourceSnapshots} {a : FeeAdjustment}
    {s : StatementSource} (h : adjustmentStatementSource snapshots a r = .ok s) :
    s.view = (adjustmentAuthorityRow (a, r, none)).view := by
  unfold adjustmentStatementSource at h
  split at h
  · cases h
  · rename_i hst
    cases h
    unfold AuthorityRow.view adjustmentAuthorityRow adjustmentStore
    simp only [map_none, none_or, responsibleStore_of_known hst]
    rfl

theorem flatMap_sublist {α : Type*} {l : List α} {f : α → List α}
    (h : ∀ a, f a = [] ∨ f a = [a]) : (l.flatMap f).Sublist l := by
  induction l with
  | nil => exact Sublist.slnil
  | cons a l ih =>
    rw [flatMap_cons]
    rcases h a with hnil | hone
    · rw [hnil]
      exact ih.cons a
    · rw [hone, singleton_append]
      exact ih.cons_cons a

theorem mem_projectionMonths {db : Db} {month : Month} (hmo : formalSettlementStart ≤ month)
    (h : (∃ r ∈ db.currentResults, r.originalBusinessMonth = month) ∨
      (∃ a ∈ db.adjustments.rows, db.activeAdjustment a = true ∧ a.adjustmentPostingMonth = month) ∨
      ∃ row ∈ aggregates.monthly.rows, row.month = month) :
    month ∈ db.projectionMonths aggregates := by
  unfold Db.projectionMonths
  rw [mem_insertionSort, mem_filter, mem_dedup]
  refine ⟨?_, decide_eq_true hmo⟩
  simp only [mem_append, List.mem_map, mem_filter]
  rcases h with ⟨r, hr, hm⟩ | ⟨a, ha, hact, hm⟩ | ⟨row, hrow, hm⟩
  · exact .inl (.inl (.inl (.inr ⟨r, hr, hm⟩)))
  · exact .inr ⟨a, ⟨ha, hact⟩, hm⟩
  · exact .inl (.inl (.inr ⟨row, hrow, hm⟩))

theorem formal_of_projected {db : Db} {month : Month} (h : month ∈ db.projectionMonths aggregates) :
    formalSettlementStart ≤ month := by
  unfold Db.projectionMonths at h
  rw [mem_insertionSort, mem_filter] at h
  exact of_decide_eq_true h.2

section Agreement

variable {db : Db} (hledger : db.LinkedLedger) (hstores : db.StoresKnown)
  (hopen : db.billing.protectedBills = []) (snapshots : SourceSnapshots)

include hledger hstores hopen

theorem projectionSources_ok {month : Month} (hmo : formalSettlementStart ≤ month) :
    ∃ sources, db.projectionSources snapshots month = .ok (sources, 0) ∧
      sources.map StatementSource.view = (db.authoritySources [month]).map AuthorityRow.view := by
  obtain ⟨results, hress⟩ := Except.exists_mapM_ok (f := resultStatementSource snapshots)
    (l := db.currentResults.filter fun r => r.originalBusinessMonth = month) (by
      intro r hr
      obtain ⟨hr, hmont⟩ := mem_filter.mp hr
      obtain ⟨storeId, hst⟩ := isSome_iff_exists.mp
        (hstores.results r hr (of_decide_eq_true hmont ▸ hmo))
      unfold resultStatementSource
      rw [hst]
      exact ⟨_, rfl⟩)
  obtain ⟨adjustments, hadjs⟩ := Except.exists_mapM_ok
    (f := fun row : FeeAdjustment × FeeResult => adjustmentStatementSource snapshots row.1 row.2)
    (l := db.pointedAdjustments.filter fun row => row.1.adjustmentPostingMonth = month &&
      db.activeAdjustment row.1) (by
      intro row hrow
      obtain ⟨hrow, hkeep⟩ := mem_filter.mp hrow
      rw [Bool.and_eq_true, decide_eq_true_eq] at hkeep
      obtain ⟨_, hst⟩ := isSome_iff_exists.mp
        (hstores.adjustments row hrow (hkeep.1 ▸ hmo) hkeep.2)
      unfold adjustmentStatementSource
      rw [hst]
      exact ⟨_, rfl⟩)
  have hunl : (results ++ adjustments).filter
      (fun s => (db.billing.lockedStatement s.storeId month).isNone) = results ++ adjustments := by
    refine filter_eq_self.mpr fun s _ => ?_
    rw [lockedStatement_of_open hopen]
    rfl
  refine ⟨results ++ adjustments, ?_, ?_⟩
  · unfold Db.projectionSources
    rw [hress, hadjs]
    simp only [bind, Except.bind, pure, Except.pure, hunl, lockedSources_of_open hopen,
      nil_append, Nat.sub_self]
  · unfold Db.authoritySources Db.adjustmentAuthorityRows
    rw [resultAuthorityRows_of_open hopen, frozenAuthorityRows_of_open hopen, append_nil,
      authoritativeAdjustments_of_open hopen hledger, map_append, map_append]
    congr 1
    · rw [List.map_map]
      exact Except.map_eq_map_of_mapM_ok hress fun r s hs => view_resultStatementSource hs
    · rw [List.map_map, List.map_map]
      exact Except.map_eq_map_of_mapM_ok hadjs fun row s hs =>
        view_adjustmentStatementSource hs

omit hstores

theorem nodup_authoritySources (month : Month) : (db.authoritySources [month]).Nodup := by
  have hpoin : (db.pointedAdjustments.map Prod.fst).Sublist db.adjustments.rows := by
    rw [pointedAdjustments_eq hledger, map_flatMap]
    refine flatMap_sublist fun a => ?_
    cases db.feeResults.get? a.originalFeeResultId with
    | none => exact .inl rfl
    | some r => cases hpoin : db.pointed r <;> simp [hpoin]
  refine Nodup.of_map (fun r => (r.sourceKind, r.sourceId)) ?_
  unfold Db.authoritySources Db.adjustmentAuthorityRows
  rw [resultAuthorityRows_of_open hopen, frozenAuthorityRows_of_open hopen, append_nil,
    authoritativeAdjustments_of_open hopen hledger, map_append, nodup_append]
  refine ⟨?_, ?_, ?_⟩
  · rw [List.map_map, currentResults_eq hledger]
    have hids : (db.feeResults.rows.map fun r => (SourceType.original, r.feeResultId)).Nodup := by
      rw [show (fun r : FeeResult => (SourceType.original, r.feeResultId)) =
        (fun id => (SourceType.original, id)) ∘ FeeResult.feeResultId from rfl, ← List.map_map]
      exact db.feeResults.nodup.map fun x y h => (Prod.mk.inj h).2
    exact hids.sublist ((filter_sublist.trans filter_sublist).map _)
  · rw [List.map_map, List.map_map]
    have hids : (db.pointedAdjustments.map fun row =>
        (SourceType.adjustment, row.1.adjustmentId)).Nodup := by
      rw [show (fun row : FeeAdjustment × FeeResult => (SourceType.adjustment, row.1.adjustmentId)) =
        (fun id => (SourceType.adjustment, id)) ∘ FeeAdjustment.adjustmentId ∘ Prod.fst from rfl,
        ← List.map_map, ← List.map_map]
      exact (db.adjustments.nodup.sublist (hpoin.map _)).map fun x y h => (Prod.mk.inj h).2
    exact hids.sublist (filter_sublist.map _)
  · intro x hx y hy hxy
    obtain ⟨_, hr, rfl⟩ := List.mem_map.mp hx
    obtain ⟨_, hr', rfl⟩ := List.mem_map.mp hy
    obtain ⟨_, -, rfl⟩ := List.mem_map.mp hr
    obtain ⟨_, -, rfl⟩ := List.mem_map.mp hr'
    cases (Prod.mk.inj hxy).1

/-- A month that the full rebuild leaves out has no sources. -/
theorem authoritySources_of_not_projected {month : Month} (hmo : formalSettlementStart ≤ month)
    (hout : month ∉ db.projectionMonths aggregates) : db.authoritySources [month] = [] := by
  have hress : db.currentResults.filter (fun r => r.originalBusinessMonth = month) = [] := by
    refine filter_eq_nil_iff.mpr fun r hr hmont => hout ?_
    exact mem_projectionMonths hmo (.inl ⟨r, hr, of_decide_eq_true hmont⟩)
  have hadjs : db.pointedAdjustments.filter (fun row =>
      row.1.adjustmentPostingMonth = month && db.activeAdjustment row.1) = [] := by
    refine filter_eq_nil_iff.mpr fun row hrow hkeep => hout ?_
    rw [Bool.and_eq_true, decide_eq_true_eq] at hkeep
    refine mem_projectionMonths hmo (.inr (.inl ⟨row.1, ?_, hkeep.2, hkeep.1⟩))
    obtain ⟨_, ha, hrow⟩ := mem_flatMap.mp hrow
    split at hrow
    · exact absurd hrow not_mem_nil
    · obtain ⟨_, -, rfl⟩ := List.mem_map.mp hrow
      exact ha
  unfold Db.authoritySources Db.adjustmentAuthorityRows
  rw [resultAuthorityRows_of_open hopen, frozenAuthorityRows_of_open hopen,
    authoritativeAdjustments_of_open hopen hledger, hress, hadjs]
  rfl

end Agreement

/-- For a ledger without protected bills, whose pointers are linked and whose sources name their
stores, the full rebuild succeeds and writes for every month of the formal period exactly the
figures of the sparse query. -/
theorem sparse_and_full_projections_agree (db : Db) (context : ProjectionContext) (runId : String)
    (aggregates : Aggregates) (hledger : db.LinkedLedger) (hstores : db.StoresKnown)
    (hopen : db.billing.protectedBills = []) :
    ∃ written stats, db.rebuildDualFeeProjections context runId aggregates = .ok (written, stats) ∧
      ∀ month, formalSettlementStart ≤ month → (∀ storeId scope type,
          (written.monthly.get? (month, storeId, scope, type)).map MonthlySettlement.figures =
            ((db.sparseMonthlyQuery month).value? (some storeId, scope, type)).map
              SparseMonthlyRow.figures) ∧
        ∀ scope type, (db.sparseMonthlyQuery month).value? (none, scope, type) = none := by
  have hchoice : ∀ month, ∃ sources : List StatementSource, formalSettlementStart ≤ month →
      db.projectionSources context.snapshots month = .ok (sources, 0) ∧
        sources.map StatementSource.view = (db.authoritySources [month]).map AuthorityRow.view := by
    intro month
    by_cases hmonth : formalSettlementStart ≤ month
    · obtain ⟨sources, hsources⟩ :=
        projectionSources_ok hledger hstores hopen context.snapshots hmonth
      exact ⟨sources, fun _ => hsources⟩
    · exact ⟨[], fun h => absurd h hmonth⟩
  choose sourcesOf hsourcesOf using hchoice
  have hsources : ∀ month ∈ db.projectionMonths aggregates,
      db.projectionSources context.snapshots month = .ok (sourcesOf month, 0) :=
    fun month hmonth => (hsourcesOf month (formal_of_projected hmonth)).1
  obtain ⟨final, hfinal, hrows⟩ :=
    rebuildMonths_ok context runId sourcesOf (fun _ => 0) hsources { aggregates }
  refine ⟨final.aggregates, final.stats, ?_, fun month hmonth => ⟨?_, ?_⟩⟩
  · unfold Db.rebuildDualFeeProjections
    rw [hfinal]
    rfl
  · intro storeId scope type
    rw [figures_sparseMonthlyQuery (nodup_authoritySources hledger hopen month)]
    by_cases hprojected : month ∈ db.projectionMonths aggregates
    · have hmonthly : final.aggregates.monthly.get? (month, storeId, scope, type) =
          (db.createdRows runId month (sourcesOf month)).find?
            fun row => row.key = (storeId, scope, type) := by
        refine get?_eq_find? (fun row hrow => month_createdRows hrow) fun row hrowmonth => ?_
        rw [hrows, hrowmonth, if_pos hprojected]
      rw [hmonthly, find_createdRows, sourceFigures_eq (hsourcesOf month hmonth).2]
    · have hmonthly : final.aggregates.monthly.get? (month, storeId, scope, type) = none := by
        refine (Table.get?_eq_none_iff _).mpr fun row hrow hslot => hprojected ?_
        have hrowmonth : row.month = month := (Prod.mk.inj hslot).1
        rw [hrows, hrowmonth, if_neg hprojected] at hrow
        exact mem_projectionMonths hmonth (.inr (.inr ⟨row, hrow, hrowmonth⟩))
      rw [hmonthly, authoritySources_of_not_projected hledger hopen hmonth hprojected]
      rfl
  · intro scope type
    have hstoreless : figuresAt (db.authoritySources [month]) none (scope, type) = [] := by
      refine map_eq_nil_iff.mpr (filter_eq_nil_iff.mpr fun r hr hkeep => ?_)
      have hview := List.mem_map_of_mem (f := AuthorityRow.view) hr
      rw [← (hsourcesOf month hmonth).2] at hview
      obtain ⟨s, -, hs⟩ := List.mem_map.mp hview
      have hstore : r.storeId = some s.storeId := (Prod.mk.inj hs).1.symm
      rw [Bool.and_eq_true, hstore] at hkeep
      cases hkeep.1
    have hfigures := figures_sparseMonthlyQuery (nodup_authoritySources hledger hopen month) none
      (scope, type)
    rw [hstoreless, if_pos rfl] at hfigures
    exact map_eq_none_iff.mp hfigures

/-! ### A refund before the formal period -/

namespace ProjectionSample

open BillingSourceSample (fee billed)

def refund (month : Month) : FeeAdjustment where
  adjustmentId := "adjustment-1"
  originalFeeResultId := "fee-1"
  refundEventId := some "refund-1"
  couponId := "coupon-1"
  orderId := "order-1"
  feeDirection := .promotion
  originalBusinessMonth := formalSettlementStart
  adjustmentPostingMonth := month
  adjustmentType := .partialRefund
  adjustmentBaseCent := -5000
  adjustmentFeeCent := -500
  ruleVersion := "rule-1"
  adjustmentReason := ""
  occurredAt := 0
  createdBy := "settlement:run-1"

def ledger (month : Month) : Db where
  feeResults := billed.feeResults
  currents := billed.currents
  adjustments := ⟨[refund month], nodup_singleton _⟩

def context : ProjectionContext := ⟨fun _ _ => {}, fun _ => none⟩

theorem linked_ledger (month : Month) : (ledger month).LinkedLedger where
  points p hp := by
    rw [mem_singleton.mp hp]
    exact ⟨fee, rfl, rfl⟩
  anchored r hr id hid := by
    rw [mem_singleton.mp hr] at hid
    cases hid

theorem storesKnown_ledger (month : Month) : (ledger month).StoresKnown where
  results r hr _ := by
    obtain rfl : r = fee := mem_singleton.mp hr
    rfl
  adjustments row hrow _ _ := by
    obtain rfl : row = (refund month, fee) := mem_singleton.mp hrow
    rfl

end ProjectionSample

/-- The refund of August lowers the fees of August in both projections. -/
theorem refunded_fee_is_projected_alike :
    ∃ written stats, (ProjectionSample.ledger formalSettlementStart).rebuildDualFeeProjections
        ProjectionSample.context "run-2" {} = .ok (written, stats) ∧
      (written.monthly.get? (formalSettlementStart, "store-1", "scope-1", "all")).map
        MonthlySettlement.figures = some ⟨1, 10000, 0, 0, 5000, 1000, -500, 0, 0, 0⟩ := by
  obtain ⟨written, stats, hwritten, hagree⟩ := sparse_and_full_projections_agree
    (ProjectionSample.ledger formalSettlementStart) ProjectionSample.context "run-2" {}
    (ProjectionSample.linked_ledger _) (ProjectionSample.storesKnown_ledger _) rfl
  refine ⟨written, stats, hwritten, ?_⟩
  rw [(hagree formalSettlementStart (le_refl _)).1]
  decide +kernel

/-- A refund posted before the formal period is in the sparse projection of its month and not in
the full one. -/
theorem early_refund_is_projected_by_sparse_only :
    (ProjectionSample.ledger 24318).LinkedLedger ∧ (ProjectionSample.ledger 24318).StoresKnown ∧
      (ProjectionSample.ledger 24318).billing.protectedBills = [] ∧
      (((ProjectionSample.ledger 24318).sparseMonthlyQuery 24318).value?
        (some "store-1", "all", "all")).map SparseMonthlyRow.figures =
          some ⟨0, 0, 0, 0, -5000, 0, -500, 0, 0, 0⟩ ∧
      ((ProjectionSample.ledger 24318).rebuildDualFeeProjections ProjectionSample.context "run-2"
        {}).toOption.map (fun result => result.1.monthly.get? (24318, "store-1", "all", "all")) =
          some none :=
  ⟨ProjectionSample.linked_ledger _, ProjectionSample.storesKnown_ledger _, rfl,
    by decide +kernel, by decide +kernel⟩

end DyData.Settlement
