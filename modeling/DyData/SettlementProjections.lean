import DyData.SettlementAuthority

/-!
The full rebuild of the monthly projections: one pass over the sources of each month that adds
every source to the rows of its dimensions.  Without protected bills it writes the figures that
the sparse overlay query computes in the database.
-/

namespace DyData.Settlement

open Relational

/-- `agg_store_monthly_settlement`. -/
structure MonthlySettlement where
  month : Month
  storeId : String
  productScope : String
  productType : String
  figures : MonthlyFigures
  promotionNetFeeCent : Int
  managementNetFeeCent : Int
  statementStatus : StatementStatus
  projectionRunId : String
deriving DecidableEq

def MonthlySettlement.slot (row : MonthlySettlement) : Month × String × String × String :=
  (row.month, row.storeId, row.productScope, row.productType)

inductive PeriodType
  | month | cumulative
deriving DecidableEq

structure RankingTotals where
  salesOrderCount : Nat := 0
  salesAmountCent : Int := 0
  verifiedOrderCount : Nat := 0
  verifiedAmountCent : Int := 0
  promotionNetFeeCent : Int := 0
  managementNetFeeCent : Int := 0
deriving DecidableEq

def RankingTotals.add (x y : RankingTotals) : RankingTotals where
  salesOrderCount := x.salesOrderCount + y.salesOrderCount
  salesAmountCent := x.salesAmountCent + y.salesAmountCent
  verifiedOrderCount := x.verifiedOrderCount + y.verifiedOrderCount
  verifiedAmountCent := x.verifiedAmountCent + y.verifiedAmountCent
  promotionNetFeeCent := x.promotionNetFeeCent + y.promotionNetFeeCent
  managementNetFeeCent := x.managementNetFeeCent + y.managementNetFeeCent

def MonthlySettlement.totals (row : MonthlySettlement) : RankingTotals where
  salesOrderCount := row.figures.salesOrderCount
  salesAmountCent := row.figures.salesAmountCent
  verifiedOrderCount := row.figures.verifiedOrderCount
  verifiedAmountCent := row.figures.verifiedAmountCent
  promotionNetFeeCent := row.promotionNetFeeCent
  managementNetFeeCent := row.managementNetFeeCent

/-- `agg_store_ranking`. -/
structure StoreRanking where
  periodType : PeriodType
  periodKey : Month
  storeId : String
  storeName : String
  productScope : String
  productType : String
  totals : RankingTotals
  netSettlementReferenceCent : Int
  projectionRunId : String
deriving DecidableEq

def StoreRanking.slot (row : StoreRanking) : PeriodType × Month × String × String × String :=
  (row.periodType, row.periodKey, row.storeId, row.productScope, row.productType)

structure Aggregates where
  monthly : Table MonthlySettlement.slot := .empty
  rankings : Table StoreRanking.slot := .empty

/-- What the rebuild reads besides the ledger: the display facts and the names of the stores. -/
structure ProjectionContext where
  snapshots : SourceSnapshots
  storeName : String → Option String

/-! ### Sources of a month -/

def Db.lockedSources (db : Db) (month : Month) : List StatementSource :=
  db.billing.entries.rows.filterMap fun e =>
    match db.billing.statements.get? e.statementId, db.feeResults.get? e.originalFeeResultId with
    | some s, some r =>
      if s.statementStatus = .locked && s.isCurrent && s.statementMonth = month then
        some (e.source s.storeId r.sourceAmountCent)
      else none
    | _, _ => none

def Db.pointedAdjustments (db : Db) : List (FeeAdjustment × FeeResult) :=
  db.adjustments.rows.flatMap fun a =>
    match db.feeResults.get? a.originalFeeResultId with
    | none => []
    | some r => (db.currents.rows.filter fun p => p.feeResultId = r.feeResultId ||
        some p.feeResultId = r.reverificationAnchorId).map fun _ => (a, r)

/-- `_projection_sources`, with the number of sources that a locked bill hides. -/
def Db.projectionSources (db : Db) (snapshots : SourceSnapshots) (month : Month) :
    Except SettlementError (List StatementSource × Nat) := do
  let results ← (db.currentResults.filter fun r => r.originalBusinessMonth = month).mapM
    (resultStatementSource snapshots)
  let adjustments ← (db.pointedAdjustments.filter fun row =>
      row.1.adjustmentPostingMonth = month && db.activeAdjustment row.1).mapM
    fun row => adjustmentStatementSource snapshots row.1 row.2
  let live := results ++ adjustments
  let unlocked := live.filter fun s => (db.billing.lockedStatement s.storeId month).isNone
  return (db.lockedSources month ++ unlocked, live.length - unlocked.length)

/-! ### Monthly rows -/

/-- `_empty_monthly_projection`, a set of order ids being a list without repetitions. -/
structure MonthlyProjection where
  salesOrderIds : List String := []
  salesAmountCent : Int := 0
  verifiedOrderIds : List String := []
  verifiedAmountCent : Int := 0
  promotionBaseCent : Int := 0
  promotionOriginalFeeCent : Int := 0
  promotionAdjustmentFeeCent : Int := 0
  managementBaseCent : Int := 0
  managementOriginalFeeCent : Int := 0
  managementAdjustmentFeeCent : Int := 0
deriving DecidableEq

def MonthlyProjection.add (row : MonthlyProjection) (s : StatementSource) : MonthlyProjection :=
  let row :=
    if s.sourceType = .original && s.feeDirection = .promotion then
      { row with
        salesOrderIds := row.salesOrderIds.insert s.orderId
        salesAmountCent := row.salesAmountCent + s.sourceAmountCent
        promotionOriginalFeeCent := row.promotionOriginalFeeCent + s.feeAmountCent }
    else if s.sourceType = .original then
      { row with
        verifiedOrderIds := row.verifiedOrderIds.insert s.orderId
        verifiedAmountCent := row.verifiedAmountCent + s.sourceAmountCent
        managementOriginalFeeCent := row.managementOriginalFeeCent + s.feeAmountCent }
    else if s.feeDirection = .promotion then
      { row with
        promotionAdjustmentFeeCent := row.promotionAdjustmentFeeCent + s.feeAmountCent }
    else
      { row with
        managementAdjustmentFeeCent := row.managementAdjustmentFeeCent + s.feeAmountCent }
  if s.feeDirection = .promotion then
    { row with promotionBaseCent := row.promotionBaseCent + s.baseAmountCent }
  else { row with managementBaseCent := row.managementBaseCent + s.baseAmountCent }

def MonthlyProjection.figures (row : MonthlyProjection) : MonthlyFigures where
  salesOrderCount := row.salesOrderIds.length
  salesAmountCent := row.salesAmountCent
  verifiedOrderCount := row.verifiedOrderIds.length
  verifiedAmountCent := row.verifiedAmountCent
  promotionBaseCent := row.promotionBaseCent
  promotionOriginalFeeCent := row.promotionOriginalFeeCent
  promotionAdjustmentFeeCent := row.promotionAdjustmentFeeCent
  managementBaseCent := row.managementBaseCent
  managementOriginalFeeCent := row.managementOriginalFeeCent
  managementAdjustmentFeeCent := row.managementAdjustmentFeeCent

def dimensioned (sources : List StatementSource) :
    List ((String × String × String) × StatementSource) :=
  sources.flatMap fun s =>
    (projectionDimensions s.productScope s.productType).map fun d => ((s.storeId, d), s)

def monthlyProjections (sources : List StatementSource) :
    Dict (String × String × String) MonthlyProjection :=
  Dict.tally {} MonthlyProjection.add .empty (dimensioned sources)

def Db.createdRows (db : Db) (runId : String) (month : Month) (sources : List StatementSource) :
    List MonthlySettlement :=
  (monthlyProjections sources).rows.map fun (key, values) =>
    { month
      storeId := key.1
      productScope := key.2.1
      productType := key.2.2
      figures := values.figures
      promotionNetFeeCent := values.figures.promotionNetFeeCent
      managementNetFeeCent := values.figures.managementNetFeeCent
      statementStatus := ((db.billing.lockedStatement key.1 month).map
        Statement.statementStatus).getD .generating
      projectionRunId := runId }

/-! ### The rebuild -/

def Db.projectionMonths (db : Db) (aggregates : Aggregates) : List Month :=
  let months := ((db.billing.statements.rows.filter fun s => s.statementStatus = .locked).map
      Statement.statementMonth) ++
    db.currentResults.map FeeResult.originalBusinessMonth ++
    aggregates.monthly.rows.map MonthlySettlement.month ++
    aggregates.rankings.rows.map StoreRanking.periodKey ++
    (db.adjustments.rows.filter db.activeAdjustment).map FeeAdjustment.adjustmentPostingMonth
  (months.dedup.filter fun month => formalSettlementStart ≤ month).insertionSort (· ≤ ·)

/-- `_add_target_ranking_row`. -/
def targetRankingRow (context : ProjectionContext) (runId : String) (periodType : PeriodType)
    (periodKey : Month) (key : String × String × String) (totals : RankingTotals) :
    StoreRanking where
  periodType := periodType
  periodKey := periodKey
  storeId := key.1
  storeName := (context.storeName key.1).getD key.1
  productScope := key.2.1
  productType := key.2.2
  totals := totals
  netSettlementReferenceCent := totals.promotionNetFeeCent - totals.managementNetFeeCent
  projectionRunId := runId

/-- `StatementProjectionStats`. -/
structure ProjectionStats where
  monthlyCount : Nat := 0
  rankingCount : Nat := 0
  processedCount : Nat := 0
  skippedCount : Nat := 0
deriving DecidableEq

structure RebuildState where
  aggregates : Aggregates
  cumulative : Dict (String × String × String) RankingTotals := .empty
  stats : ProjectionStats := {}

def MonthlySettlement.key (row : MonthlySettlement) : String × String × String :=
  (row.storeId, row.productScope, row.productType)

def rankingRows (context : ProjectionContext) (runId : String) (month : Month)
    (created : List MonthlySettlement) (cumulative : Dict (String × String × String) RankingTotals) :
    List StoreRanking :=
  created.map (fun row => targetRankingRow context runId .month month row.key row.totals) ++
    cumulative.rows.map fun entry =>
      targetRankingRow context runId .cumulative month entry.1 entry.2

/-- One month of `_rebuild_dual_fee_projections`. -/
def Db.rebuildMonth (db : Db) (context : ProjectionContext) (runId : String)
    (state : RebuildState) (month : Month) : Except SettlementError RebuildState := do
  let (sources, skipped) ← db.projectionSources context.snapshots month
  let created := db.createdRows runId month sources
  let monthly ← Except.ofOption
    ((state.aggregates.monthly.delete fun row => row.month = month).append? created)
    (.integrityError "uk_agg_store_monthly_settlement_slot")
  let rankings := state.aggregates.rankings.delete fun row => row.periodKey = month
  let stats := { state.stats with
    monthlyCount := state.stats.monthlyCount + created.length
    processedCount := state.stats.processedCount + sources.length
    skippedCount := state.stats.skippedCount + skipped }
  if created.isEmpty then return { state with aggregates := ⟨monthly, rankings⟩, stats }
  else
    let cumulative := Dict.tally {} RankingTotals.add state.cumulative
      (created.map fun row => (row.key, row.totals))
    let added := rankingRows context runId month created cumulative
    let rankings ← Except.ofOption (rankings.append? added)
      (.integrityError "uk_agg_store_ranking_slot")
    return {
      aggregates := ⟨monthly, rankings⟩
      cumulative
      stats := { stats with rankingCount := stats.rankingCount + added.length } }

def Db.rebuildDualFeeProjections (db : Db) (context : ProjectionContext) (runId : String)
    (aggregates : Aggregates) : Except SettlementError (Aggregates × ProjectionStats) := do
  let final ← (db.projectionMonths aggregates).foldlM (db.rebuildMonth context runId)
    { aggregates }
  return (final.aggregates, final.stats)

end DyData.Settlement
