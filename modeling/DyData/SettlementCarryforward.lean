import DyData.SettlementLedger

/-!
Posting the deferred deltas of a store to a bill.  A delta waits for the first month after its
event month that is not closed; there it becomes an adjustment of its own, tied to it by an
application.
-/

namespace DyData.Settlement

open Relational

def Billing.firstUnlockedMonthBetween (b : Billing) (storeId : String)
    (eventMonth targetMonth : Month) : Option Month :=
  (List.range' (eventMonth + 1) (targetMonth - (eventMonth + 1))).find? fun month =>
    !b.isSettlementPeriodImmutable storeId month

/-- The order of `(occurred_at, carryforward_source_id)`. -/
def CarryforwardSource.before (a b : CarryforwardSource) : Prop :=
  a.occurredAt < b.occurredAt ∨
    a.occurredAt = b.occurredAt ∧ a.carryforwardSourceId ≤ b.carryforwardSourceId

instance : DecidableRel CarryforwardSource.before := fun a b => by
  unfold CarryforwardSource.before
  infer_instance

def Db.currentApplication (db : Db) (carryforwardSourceId : String) :
    Option CarryforwardApplication :=
  db.carryforwardApplications.rows.find? fun p =>
    p.carryforwardSourceId = carryforwardSourceId && p.isCurrent

/-- `max(application_version)` of a source, plus one. -/
def Db.nextApplicationVersion (db : Db) (carryforwardSourceId : String) : Nat :=
  ((db.carryforwardApplications.rows.filter fun p =>
    p.carryforwardSourceId = carryforwardSourceId).map
      CarryforwardApplication.applicationVersion).foldl max 0 + 1

def carryforwardIssue (source : CarryforwardSource) (issueType message : String) : Issue where
  issueType := issueType
  message := message
  orderId := some source.orderId
  couponId := some source.couponId
  identitySuffix := some source.carryforwardSourceId

def carryforwardAdjustment (env : Env) (source : CarryforwardSource) (version : Nat)
    (statement : Statement) (runId : String) : FeeAdjustment where
  adjustmentId := stableBusinessId env "carryforward-adjustment"
    [source.carryforwardSourceId, toString version]
  originalFeeResultId := source.originalFeeResultId
  refundEventId := source.refundEventId
  couponId := source.couponId
  orderId := source.orderId
  feeDirection := source.feeDirection
  originalBusinessMonth := source.originalBusinessMonth
  adjustmentPostingMonth := statement.statementMonth
  adjustmentType := source.adjustmentType
  adjustmentBaseCent := source.adjustmentBaseCent
  adjustmentFeeCent := source.adjustmentFeeCent
  ruleVersion := source.ruleVersion
  adjustmentReason := source.carryforwardReason
  occurredAt := source.occurredAt
  createdBy := "settlement:" ++ runId

def carryforwardApplication (env : Env) (source : CarryforwardSource) (version : Nat)
    (statement : Statement) (runId : String) : CarryforwardApplication where
  carryforwardApplicationId := stableBusinessId env "carryforward-application"
    [source.carryforwardSourceId, toString version]
  carryforwardSourceId := source.carryforwardSourceId
  targetStatementId := statement.statementId
  targetStatementVersion := statement.versionNo
  targetAdjustmentId := stableBusinessId env "carryforward-adjustment"
    [source.carryforwardSourceId, toString version]
  targetPostingMonth := statement.statementMonth
  applicationVersion := version
  appliedBy := "settlement:" ++ runId

/-- Adding an application: `uk_settlement_carryforward_application_id` and
`uk_settlement_carryforward_application_adjustment`. -/
def Db.addApplication (db : Db) (p : CarryforwardApplication) : Except SettlementError Db :=
  if db.carryforwardApplications.rows.any fun q => q.targetAdjustmentId = p.targetAdjustmentId then
    .error (.integrityError "uk_settlement_carryforward_application_adjustment")
  else match db.carryforwardApplications.insert? p with
    | none => .error (.integrityError "uk_settlement_carryforward_application_id")
    | some carryforwardApplications => .ok { db with carryforwardApplications }

def Db.postCarryforward (env : Env) (db : Db) (source : CarryforwardSource)
    (statement : Statement) (runId : String) : Except SettlementError Db := do
  let version := db.nextApplicationVersion source.carryforwardSourceId
  let db ← db.addAdjustment (carryforwardAdjustment env source version statement runId)
  let db ← db.addApplication (carryforwardApplication env source version statement runId)
  return db.recordIssue
    (carryforwardIssue source "dual_fee_carryforward_applied" "顺延来源已完整应用到下一可处理账期。")

def Db.applyCarryforwardSource (env : Env) (statement : Statement) (runId : String) (db : Db)
    (source : CarryforwardSource) : Except SettlementError Db :=
  match db.currentApplication source.carryforwardSourceId with
  | some _ => .ok (db.recordIssue (carryforwardIssue source
      "dual_fee_carryforward_application_idempotent" "顺延来源已有当前有效应用，重复任务未再次入账。"))
  | none =>
    match db.billing.firstUnlockedMonthBetween source.storeId source.eventMonth
        statement.statementMonth with
    | some _ => .ok (db.recordIssue (carryforwardIssue source
        "dual_fee_carryforward_waiting" "顺延来源仍等待更早的可处理账期。"))
    | none => match db.feeResults.get? source.originalFeeResultId with
      | none => .error (.valueError ("carryforward source has no original fee result: " ++
          source.carryforwardSourceId))
      | some _ => db.postCarryforward env source statement runId

def Db.applyCarryforwardSources (env : Env) (db : Db) (statement : Statement) (runId : String) :
    Except SettlementError Db :=
  ((db.carryforwardSources.rows.filter fun s => s.storeId = statement.storeId &&
    s.eventMonth < statement.statementMonth).insertionSort CarryforwardSource.before).foldlM
    (Db.applyCarryforwardSource env statement runId) db

end DyData.Settlement
