import DyData.BillingSourceCapture
import DyData.MonthKeys
import DyData.ProjectionMaintenance
import DyData.SettlementProjections

/-!
The state a sparse overlay is built in: the generations of the projection with their monthly and
ranking rows, the legacy aggregates and the ledger the monthly figures come from.
-/

namespace DyData.Settlement

/-! Totals of several ranking rows add up field by field. -/

instance : Add RankingTotals := ⟨RankingTotals.add⟩

instance : Zero RankingTotals := ⟨{}⟩

theorem RankingTotals.add_def (x y : RankingTotals) : x + y = x.add y := rfl

theorem RankingTotals.zero_def : (0 : RankingTotals) = {} := rfl

attribute [ext] RankingTotals

instance : AddCancelCommMonoid RankingTotals where
  add_assoc x y z := by
    ext <;> simp [RankingTotals.add_def, RankingTotals.add, Nat.add_assoc, Int.add_assoc]
  zero_add x := by
    ext <;> simp [RankingTotals.add_def, RankingTotals.zero_def, RankingTotals.add]
  add_zero x := by
    ext <;> simp [RankingTotals.add_def, RankingTotals.zero_def, RankingTotals.add]
  add_comm x y := by
    ext <;> simp [RankingTotals.add_def, RankingTotals.add, Nat.add_comm, Int.add_comm]
  add_left_cancel x y z h := by
    have hfields := RankingTotals.ext_iff.mp h
    simp only [RankingTotals.add_def, RankingTotals.add, Nat.add_left_cancel_iff,
      Int.add_right_inj] at hfields
    exact RankingTotals.ext_iff.mpr hfields
  nsmul := nsmulRec

end DyData.Settlement

namespace DyData.Sparse

open Relational DyData.Settlement
open DyData.Projection (LineageError SourceKind resolveProjectionPartitions)

/-- `settlement_monthly_overlay`.  The partition of a row is its month; an absent tombstone mark
counts as false. -/
structure MonthlyOverlay where
  generationId : String
  row : MonthlySettlement
  tombstone : Bool := false
deriving DecidableEq

/-- `settlement_ranking_overlay`. -/
structure RankingOverlay where
  generationId : String
  row : StoreRanking
  tombstone : Bool := false
deriving DecidableEq

def rankingKey (periodType : PeriodType) (periodKey : Month) : String :=
  match periodType with
  | .month => "monthly:" ++ monthText periodKey
  | .cumulative => "cumulative:" ++ monthText periodKey

/-- `projection.overlays` holds the overlay rows of the scores only. -/
structure Store where
  projection : Projection.Db
  monthly : List MonthlyOverlay
  rankings : List RankingOverlay
  aggregates : Aggregates
  ledger : Settlement.Db
  storeName : String → Option String

inductive BuildError
  | valueError (message : String)
  | keyError (key : String)
  | integrityError (constraint : String)
  | lockedConflict (message : String)
  | settlement (error : SettlementError)
  | lineage (error : LineageError)
deriving DecidableEq

def require (condition : Bool) (message : String) : Except BuildError Unit :=
  .ensure condition (.valueError message)

namespace Store

def reader (s : Store) : Projection.Db :=
  { s.projection with
    overlays :=
      ((s.monthly.filter fun o => !o.tombstone).map fun o =>
        ⟨o.generationId, .monthly, monthText o.row.month⟩) ++
      ((s.rankings.filter fun o => !o.tombstone).map fun o =>
        ⟨o.generationId, .ranking, rankingKey o.row.periodType o.row.periodKey⟩) ++
      s.projection.overlays }

def monthlyRows (s : Store) (generationId : String) (month : Month) : List MonthlySettlement :=
  (s.monthly.filter fun o => o.generationId = generationId && o.row.month = month &&
    !o.tombstone).map MonthlyOverlay.row

def legacyRows (s : Store) (month : Month) : List MonthlySettlement :=
  s.aggregates.monthly.rows.filter fun row => row.month = month

def sourceRows (s : Store) (month : Month) :
    SourceKind × Option String → Except BuildError (List MonthlySettlement)
  | (.tombstone, _) => .ok []
  | (.legacyRoot, _) => .ok (s.legacyRows month)
  | (.overlay, some generationId) => .ok (s.monthlyRows generationId month)
  | (.overlay, none) => .error (.valueError "base monthly overlay has no data generation")

def resolvedMonthly (s : Store) (pinned : String) (months : List Month) :
    Except BuildError (List MonthlySettlement) :=
  if months.isEmpty then .ok [] else do
  let (resolutions, _) ← (resolveProjectionPartitions s.reader .monthly (months.map monthText)
    (some pinned) {}).mapError .lineage
  let rows ← months.mapM fun month => do
    let resolution ← Except.ofOption
      (resolutions.find? fun r => r.partitionKey = monthText month) (.keyError (monthText month))
    s.sourceRows month (resolution.sourceKind, resolution.actualDataGenerationId)
  return rows.flatten

/-- `_sparse_effective_monthly_relation`: the overlay of the generation itself for the affected
months, and what its base shows for the others. -/
def effectiveMonthly (s : Store) (generationId base : String) (affected months : List Month) :
    Except BuildError (List MonthlySettlement) := do
  let own := (months.filter fun month => affected.contains month).flatMap
    (s.monthlyRows generationId)
  let inherited ← s.resolvedMonthly base (months.filter fun month => !affected.contains month)
  return own ++ inherited

end Store

/-- The sums of `_sparse_cumulative_ranking_query`, by store, product scope and product type. -/
def cumulativeTotals (rows : List MonthlySettlement) :
    Dict (String × String × String) RankingTotals :=
  Dict.groupBy MonthlySettlement.key (fun _ rows => (rows.map MonthlySettlement.totals).sum) rows

/-- The cumulative ranking row of a store and a dimension, or zero where there is none. -/
def Store.cumulativeRanking (s : Store) (generationId : String) (cutoff : Month)
    (key : String × String × String) : RankingTotals :=
  ((s.rankings.find? fun o => o.generationId = generationId && o.row.periodType = .cumulative &&
    o.row.periodKey = cutoff && (o.row.storeId, o.row.productScope, o.row.productType) = key).map
      fun o => o.row.totals).getD 0

def monthlySum (rows : List MonthlySettlement) (key : String × String × String) : RankingTotals :=
  ((rows.filter fun row => row.key = key).map MonthlySettlement.totals).sum

end DyData.Sparse
