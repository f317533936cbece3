import DyData.SparseRows

/-!
`build_settlement_sparse_overlay`.  Every partition is its own transaction, so an interrupted
build leaves the partitions written so far; a later attempt plans again and writes the partitions
of its own plan over them.
-/

namespace DyData.Sparse

open Relational DyData.Settlement
open PythonText (strip strip_of_all isSpace)
open DyData.Projection (Artifact Generation Manifest PartitionBuild isLowerHex64 lineageRows
  sparseBaseChain sparseManifestValues)

/-! ### The plan -/

/-- `MAX_SETTLEMENT_SPARSE_MONTHS`. -/
def maxSparseMonths : Nat := 120

/-- `MAX_SETTLEMENT_PAGE_CARDINALITY`. -/
def maxPageCardinality : Nat := 8192

structure BuildArguments where
  generationId : String
  baseGenerationId : String
  affectedMonths : List Month
  batchSize : Int
  inputFingerprint : String
  sourceJobId : Option String := none

def sparseIdentity (label value : String) : Except BuildError Unit :=
  require (value ≠ "" && strip value = value)
    (label ++ " must be a non-empty canonical string")

def sparseMonthRange (start last : Month) : Except BuildError (List Month) := do
  if last < start then return []
  require (last - start + 1 ≤ maxSparseMonths) "settlement sparse cumulative suffix is too large"
  return List.range' start (last - start + 1)

/-- The months that an adjustment, or a frozen fee whose current result has moved, links with the
given ones. -/
def linkedMonths (db : Settlement.Db) (values : List Month) : List Month :=
  let pairs := ((db.adjustments.rows.filter fun a => values.contains a.originalBusinessMonth ||
      values.contains a.adjustmentPostingMonth).map fun a =>
    (a.originalBusinessMonth, a.adjustmentPostingMonth)).dedup.take (maxSparseMonths + 1)
  let movedChains := db.billing.protectedEntries.flatMap fun (e, bill) =>
    (db.currentResults.filter fun r => e.sourceType = .original && e.couponId = r.couponId &&
      e.feeDirection = r.feeDirection && (values.contains bill.statementMonth ||
        values.contains r.originalBusinessMonth)).map fun r =>
      (bill.statementMonth, r.originalBusinessMonth)
  (pairs ++ movedChains).flatMap fun pair => [pair.1, pair.2]

/-- The rounds of `_sparse_expand_affected_months`.  Every round but the last adds a month, so
the limit is met before the rounds run out. -/
def expandRounds (db : Settlement.Db) : Nat → List Month → Except BuildError (List Month)
  | 0, _ => .error (.valueError "adjustment month closure exceeds sparse limit")
  | rounds + 1, values =>
    let expanded := (values ++ linkedMonths db values).dedup
    if maxSparseMonths < expanded.length then
      .error (.valueError "adjustment month closure exceeds sparse limit")
    else if expanded.length = values.length then .ok (values.insertionSort (· ≤ ·))
    else expandRounds db rounds expanded

/-- `_sparse_expand_affected_months`. -/
def expandAffectedMonths (db : Settlement.Db) (affected : List Month) :
    Except BuildError (List Month) := do
  let values := affected.dedup
  require (!values.isEmpty) "affected_months must not be empty"
  require (values.length ≤ maxSparseMonths) "too many affected settlement months"
  expandRounds db (maxSparseMonths + 1) values

def manifestMonth (key : String) : Except BuildError Month :=
  let text := if key.startsWith "monthly:" || key.startsWith "cumulative:" then
      String.ofList ((key.toList.dropWhile (· ≠ ':')).drop 1)
    else key
  Except.ofOption (monthOfText? text) (.valueError "base manifest month must use YYYY-MM")

/-- `_sparse_latest_authoritative_month`. -/
def Store.latestAuthoritativeMonth (s : Store) (affected : List Month) (lineageIds : List String) :
    Except BuildError Month := do
  let manifests ← (s.projection.manifests.rows.filter fun m =>
    lineageIds.contains m.generationId && (m.artifact = .monthly || m.artifact = .ranking)).mapM
      fun m => manifestMonth m.partitionKey
  let candidates := affected ++
    s.ledger.currentResults.map FeeResult.originalBusinessMonth ++
    s.ledger.adjustments.rows.map FeeAdjustment.originalBusinessMonth ++
    s.ledger.adjustments.rows.map FeeAdjustment.adjustmentPostingMonth ++
    s.ledger.billing.statements.rows.map Statement.statementMonth ++
    s.aggregates.monthly.rows.map MonthlySettlement.month ++
    s.aggregates.rankings.rows.map StoreRanking.periodKey ++ manifests
  return candidates.foldl max 0

/-- What `_sparse_preflight` returns. -/
structure Plan where
  affected : List Month
  cumulative : List Month
  baseDepth : Nat
  existing : Option Generation

def resumable (args : BuildArguments) (baseDepth : Nat) (g : Generation) : Bool :=
  g.generationKind = .lineage && g.baseGenerationId = some args.baseGenerationId &&
  g.inputFingerprint = args.inputFingerprint && g.lineageDepth = baseDepth + 1 &&
  (g.state = .staging || g.state = .ready || g.state = .published)

/-- `_sparse_preflight`. -/
def Store.preflight (s : Store) (env : Env) (args : BuildArguments) : Except BuildError Plan := do
  sparseIdentity "generation_id" args.generationId
  sparseIdentity "base_generation_id" args.baseGenerationId
  require (args.generationId ≠ args.baseGenerationId)
    "sparse generation cannot reference itself as base"
  require (1 ≤ args.batchSize && args.batchSize ≤ 400)
    "batch_size must be an integer between 1 and 400"
  require (isLowerHex64 args.inputFingerprint)
    "input_fingerprint must be 64 lowercase hexadecimal characters"
  require (s.projection.active.bind id = some args.baseGenerationId)
    "active settlement pointer does not match sparse base"
  let base ← (sparseBaseChain s.projection args.baseGenerationId).mapError
    fun e => .valueError e.message
  let affected ← expandAffectedMonths s.ledger args.affectedMonths
  (s.ledger.validateProtectedAuthority env affected).mapError .settlement
  let locked := (s.ledger.billing.statements.rows.filter fun st =>
    st.statementStatus = .locked && affected.contains st.statementMonth).insertionSort
      fun a b => toLex (a.statementMonth, a.statementId) ≤ toLex (b.statementMonth, b.statementId)
  match locked with
  | st :: _ => .error (.lockedConflict
      ("affected settlement month contains locked statement: " ++ st.statementId))
  | [] => do
    let latest ← s.latestAuthoritativeMonth affected
      ((lineageRows s.projection 66 (some args.baseGenerationId)).map Generation.generationId)
    let start := max ((affected.min?).getD 0) formalSettlementStart
    let cumulative ← sparseMonthRange start (max latest start)
    require (!s.projection.generations.rows.any fun g =>
        g.inputFingerprint = args.inputFingerprint && g.generationId ≠ args.generationId)
      "input_fingerprint already belongs to another generation"
    let existing := s.projection.generations.get? args.generationId
    require (existing.all (resumable args base.lineageDepth))
      "existing sparse generation metadata conflicts"
    return ⟨affected, cumulative, base.lineageDepth, existing⟩

/-! ### The transactions -/

structure SparseDigests where
  monthlyRows : List MonthlyOverlay → String
  rankingRows : List RankingOverlay → String
  monthlyCursor : MonthlyOverlay → String
  rankingCursor : RankingOverlay → String
  partitionCursor : Artifact → String → String
  manifests : List Manifest → String
  monthlyRows_hex : ∀ rows, isLowerHex64 (monthlyRows rows) = true
  rankingRows_hex : ∀ rows, isLowerHex64 (rankingRows rows) = true

def statusCounts (rows : List MonthlyOverlay) : List (String × Nat) :=
  [(StatementStatus.generating, "1"), (.pendingConfirmation, "2"), (.confirmed, "3"),
    (.locked, "4")].filterMap fun (status, code) =>
      let count := rows.countP fun o => o.row.statementStatus = status
      if count = 0 then none else some (code, count)

def monthlyPartition (digests : SparseDigests) (month : Month) (rows : List MonthlyOverlay) :
    PartitionBuild where
  artifact := .monthly
  partitionKey := monthText month
  rowCount := rows.length
  amountTotalCent := (rows.map fun o =>
    o.row.promotionNetFeeCent - o.row.managementNetFeeCent).sum
  statusCounts := statusCounts rows
  digest := digests.monthlyRows rows
  lastKey := rows.getLast?.map digests.monthlyCursor
  digestHex := digests.monthlyRows_hex rows
  canonicalKey := ⟨monthText_ne_empty month, strip_of_all (noSpace_monthText month)⟩

theorem canonical_rankingKey (periodType : PeriodType) (periodKey : Month) :
    rankingKey periodType periodKey ≠ "" ∧
      strip (rankingKey periodType periodKey) = rankingKey periodType periodKey := by
  have htext : ∀ label : String, label.toList.any isSpace = false →
      label ++ monthText periodKey ≠ "" ∧
        strip (label ++ monthText periodKey) = label ++ monthText periodKey := by
    intro label hlabel
    constructor
    · intro hnil
      rw [String.append_eq_empty_iff] at hnil
      exact monthText_ne_empty periodKey hnil.2
    · refine strip_of_all fun c hc => ?_
      rw [String.toList_append, List.mem_append] at hc
      rcases hc with hc | hc
      · simpa using List.any_eq_false.mp hlabel c hc
      · exact noSpace_monthText periodKey c hc
  cases periodType with
  | month => exact htext _ (by decide)
  | cumulative => exact htext _ (by decide)

def rankingPartition (digests : SparseDigests) (periodType : PeriodType) (periodKey : Month)
    (rows : List RankingOverlay) : PartitionBuild where
  artifact := .ranking
  partitionKey := rankingKey periodType periodKey
  rowCount := rows.length
  amountTotalCent := (rows.map fun o => o.row.netSettlementReferenceCent).sum
  statusCounts := []
  digest := digests.rankingRows rows
  lastKey := rows.getLast?.map digests.rankingCursor
  digestHex := digests.rankingRows_hex rows
  canonicalKey := canonical_rankingKey periodType periodKey

/-- `_sparse_assert_writable`. -/
def Store.assertWritable (s : Store) (args : BuildArguments) : Except BuildError Unit := do
  require ((s.projection.generations.get? args.generationId).any fun g => g.state = .staging)
    "sparse settlement generation is not writable"
  require (s.projection.active.bind id = some args.baseGenerationId)
    "active settlement pointer changed during sparse build"

def Store.putManifest (s : Store) (args : BuildArguments) (p : PartitionBuild) : Store :=
  let row := sparseManifestValues args.generationId args.baseGenerationId p
  { s with projection := { s.projection with manifests := s.projection.manifests.put row } }

def sparseMonthlyValues (generationId : String) (month : Month)
    (entry : (Option String × String × String) × SparseMonthlyRow) :
    Except BuildError MonthlyOverlay := do
  let ((storeId, productScope, productType), row) := entry
  sparseIdentity "monthly source store_id" (storeId.getD "")
  sparseIdentity "monthly product_scope" productScope
  sparseIdentity "monthly product_type" productType
  return ⟨generationId,
    { month, storeId := storeId.getD "", productScope, productType, figures := row.figures
      promotionNetFeeCent := row.figures.promotionNetFeeCent
      managementNetFeeCent := row.figures.managementNetFeeCent
      statementStatus := row.statementStatus
      projectionRunId := generationId }, false⟩

/-- `_sparse_write_monthly_partition`. -/
def Store.writeMonthlyPartition (digests : SparseDigests) (args : BuildArguments) (month : Month)
    (s : Store) : Except BuildError Store := do
  s.assertWritable args
  let rows ← (s.ledger.sparseMonthlyQuery month).rows.mapM
    (sparseMonthlyValues args.generationId month)
  require (rows.length ≤ maxPageCardinality) "monthly sparse partition exceeds row limit"
  let kept := s.monthly.filter fun o => !(o.generationId = args.generationId && o.row.month = month)
  return { s with monthly := kept ++ rows }.putManifest args (monthlyPartition digests month rows)

def Store.sparseRankingValues (s : Store) (generationId : String) (periodType : PeriodType)
    (periodKey : Month) (entry : (String × String × String) × RankingTotals) :
    Except BuildError RankingOverlay := do
  let ((storeId, productScope, productType), totals) := entry
  sparseIdentity "ranking store_id" storeId
  sparseIdentity "ranking product_scope" productScope
  sparseIdentity "ranking product_type" productType
  return ⟨generationId,
    { periodType, periodKey, storeId
      storeName := ((s.storeName storeId).filter fun name => name ≠ "").getD storeId
      productScope, productType, totals
      netSettlementReferenceCent := totals.promotionNetFeeCent - totals.managementNetFeeCent
      projectionRunId := generationId }, false⟩

/-- The rows of `_sparse_monthly_ranking_query` and `_sparse_cumulative_ranking_query`. -/
def Store.rankingQuery (s : Store) (args : BuildArguments) (affected : List Month)
    (periodType : PeriodType) (periodKey : Month) :
    Except BuildError (List ((String × String × String) × RankingTotals)) :=
  match periodType with
  | .month => .ok ((s.monthlyRows args.generationId periodKey).map fun row => (row.key, row.totals))
  | .cumulative => do
    let months ← sparseMonthRange formalSettlementStart periodKey
    let rows ← s.effectiveMonthly args.generationId args.baseGenerationId affected months
    return (cumulativeTotals rows).rows

/-- `_sparse_write_ranking_partition`. -/
def Store.writeRankingPartition (digests : SparseDigests) (args : BuildArguments)
    (affected : List Month) (periodType : PeriodType) (periodKey : Month) (s : Store) :
    Except BuildError Store := do
  s.assertWritable args
  let entries ← s.rankingQuery args affected periodType periodKey
  let rows ← entries.mapM (s.sparseRankingValues args.generationId periodType periodKey)
  require (rows.length ≤ maxPageCardinality) "ranking sparse partition exceeds row limit"
  let kept := s.rankings.filter fun o => !(o.generationId = args.generationId &&
    o.row.periodType = periodType && o.row.periodKey = periodKey)
  return { s with rankings := kept ++ rows }.putManifest args
    (rankingPartition digests periodType periodKey rows)

def BuildArguments.staging (args : BuildArguments) (baseDepth : Nat) : Generation where
  generationId := args.generationId
  baseGenerationId := some args.baseGenerationId
  inputFingerprint := args.inputFingerprint
  lineageDepth := baseDepth + 1
  sourceJobId := args.sourceJobId

def Store.claimGeneration (args : BuildArguments) (plan : Plan) (s : Store) :
    Except BuildError Store :=
  match plan.existing with
  | some _ => .ok s
  | none => do
    require (s.projection.active.bind id = some args.baseGenerationId)
      "active settlement pointer changed before sparse claim"
    if h : ((s.projection.generations.put (args.staging plan.baseDepth)).rows.map
        Generation.inputFingerprint).Nodup then
      return { s with projection := { s.projection with
        generations := s.projection.generations.put (args.staging plan.baseDepth)
        fingerprints := h } }
    else .error (.integrityError "uq_settlement_projection_generation_input_fingerprint")

/-- What `_sparse_finalize_generation` records of the build. -/
def finished (digests : SparseDigests) (manifests : List Manifest) (g : Generation) : Generation :=
  let written : Int := manifests.length + (manifests.map Manifest.rowCount).sum
  { g with
    estimatedWriteRows := 1 + written
    estimatedWriteBytes := 16384 + 4096 * written
    estimatedWalBytes := 2 * (16384 + 4096 * written)
    estimatedDiskHeadroomBytes := 0
    lastKey := manifests.getLast?.map fun m => digests.partitionCursor m.artifact m.partitionKey
    manifestChecksum := some (digests.manifests manifests) }

/-- `_sparse_finalize_generation`: the row stays in staging, for its certification. -/
def Store.finalizeGeneration (digests : SparseDigests) (args : BuildArguments) (s : Store) :
    Except BuildError Store := do
  s.assertWritable args
  let finish := finished digests (s.projection.manifestsOf args.generationId)
  let projection := s.projection.updateGenerations (fun g => g.generationId = args.generationId)
    finish (fun _ => rfl) fun _ => rfl
  return { s with projection }

def Plan.transactions (digests : SparseDigests) (args : BuildArguments) (plan : Plan) :
    List (Store → Except BuildError Store) :=
  Store.claimGeneration args plan ::
    plan.affected.map (Store.writeMonthlyPartition digests args) ++
    plan.affected.map (Store.writeRankingPartition digests args plan.affected .month) ++
    plan.cumulative.map (Store.writeRankingPartition digests args plan.affected .cumulative) ++
    [Store.finalizeGeneration digests args]

/-- `build_settlement_sparse_overlay`, with the plan unless the generation was built already. -/
def Store.buildSettlementSparseOverlay (digests : SparseDigests) (env : Env) (args : BuildArguments)
    (s : Store) : Except BuildError (Store × Option Plan) := do
  let plan ← s.preflight env args
  if plan.existing.any fun g => g.state = .ready || g.state = .published then return (s, none)
  let built ← (plan.transactions digests args).foldlM (fun s transaction => transaction s) s
  return (built, some plan)

def Store.interruptedBuild (digests : SparseDigests) (env : Env) (args : BuildArguments)
    (committed : Nat) (s : Store) : Except BuildError Store := do
  let plan ← s.preflight env args
  if plan.existing.any fun g => g.state = .ready || g.state = .published then return s
  ((plan.transactions digests args).take committed).foldlM (fun s transaction => transaction s) s

def Store.publish (s : Store) (generationId : String) (now : HeavyQueue.Timestamp) : Store :=
  { s with projection := s.projection.promote generationId now }

end DyData.Sparse
