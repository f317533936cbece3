import DyData.SettlementLedger

/-!
The refund adjustments of a coupon.  A run walks the successful refund events in the order in
which they occurred and posts, for every event it has not posted before, the delta between what
remains after that event and what the original and the earlier deltas add up to.
-/

namespace DyData.Settlement

open Relational

/-- `_refund_event_observed_at`. -/
def RefundEvent.observedAt (e : RefundEvent) : Time := e.successfulObservedAt.getD e.createdAt

/-- The order of `(occurred_at, refund_event_id)`. -/
def RefundEvent.before (a b : RefundEvent) : Prop :=
  a.occurredAt < b.occurredAt ∨ a.occurredAt = b.occurredAt ∧ a.refundEventId ≤ b.refundEventId

instance : DecidableRel RefundEvent.before := fun a b => by
  unfold RefundEvent.before
  infer_instance

def Db.orderRefundEvents (db : Db) (coupon : RawCoupon) : List RefundEvent :=
  db.refundEvents.rows.filter fun e => e.orderId = coupon.orderId && e.couponId.isNone &&
    e.refundStatus = .succeeded

def Db.couponCount (db : Db) (coupon : RawCoupon) : Nat :=
  db.coupons.rows.countP fun c => c.rawOrderId = coupon.rawOrderId

/-- `_resolved_refund_events`: refunds of the order count only for the order's only coupon. -/
def Db.resolvedRefundEvents (db : Db) (coupon : RawCoupon) : List RefundEvent :=
  let direct := db.refundEvents.rows.filter fun e => e.couponId = some coupon.couponId &&
    e.orderId = coupon.orderId && e.refundStatus = .succeeded
  (direct ++ if db.couponCount coupon = 1 then db.orderRefundEvents coupon else []).insertionSort
    RefundEvent.before

/-- The issues that `_resolved_refund_events` records for refunds it must not split. -/
def Db.recordAmbiguousRefunds (db : Db) (coupon : RawCoupon) : Db :=
  if db.couponCount coupon = 1 then db
  else (db.orderRefundEvents coupon).foldl (fun db e => db.recordIssue
    { issueType := "dual_fee_ambiguous_order_level_refund"
      message := "多券订单的退款事件缺少券 ID，禁止猜测分摊到具体券。"
      orderId := some coupon.orderId
      couponId := none
      severity := "error"
      identitySuffix := some e.refundEventId }) db

/-- A refunded total after one more event, never more than the source amount. -/
def addRefund (sourceAmountCent total : Int) (e : RefundEvent) : Int :=
  match e.refundType with
  | .inFull => sourceAmountCent
  | .inPart => min sourceAmountCent (total + e.refundAmountCent)

structure RefundLoop where
  db : Db
  manualReviewCount : Nat := 0
  cumulativeRefund : Int
  eventRefundTotal : Int := 0
  applied : Delta := 0

def RefundLoop.account (s : RefundLoop) (original : FeeResult) (e : RefundEvent) (delta : Delta) :
    RefundLoop :=
  { s with
    cumulativeRefund := addRefund original.sourceAmountCent s.cumulativeRefund e
    applied := s.applied + delta }

def refundEventKey (e : RefundEvent) : String := "refund:" ++ e.refundEventId

def refundAdjustmentId (env : Env) (original : FeeResult) (direction : Direction)
    (e : RefundEvent) : String :=
  stableBusinessId env "refund-adjustment"
    [e.refundEventId, original.feeResultId, direction.code]

def refundAdjustmentReason (e : RefundEvent) : String :=
  match e.refundType with
  | .inFull => "全额退款，按原规则版本将费用净额调整为零。"
  | .inPart => "部分退款，按退款后净额和原规则版本同比例调减费用。"

def remainingAfter (sourceAmountCent refunded : Int) : Int := max (sourceAmountCent - refunded) 0

def refundDelta (env : Env) (original : FeeResult) (manualBasis : Bool) (s : RefundLoop)
    (e : RefundEvent) : Delta :=
  if manualBasis && e.refundType = .inFull then
    -(original.feeBaseCent, original.feeAmountCent) -
      s.db.effectiveAdjustmentTotals env original.feeResultId
  else
    let targetBase := remainingAfter original.sourceAmountCent
      (addRefund original.sourceAmountCent s.cumulativeRefund e)
    (targetBase, commissionCent targetBase original.feeRate) -
      (original.feeBaseCent, original.feeAmountCent) - s.applied

def refundCarryforward (env : Env) (original : FeeResult) (runId storeId : String)
    (e : RefundEvent) (delta : Delta) : CarryforwardSource where
  carryforwardSourceId := stableBusinessId env "carryforward-source"
    [refundEventKey e, original.feeResultId, original.feeDirection.code]
  sourceEventType := .refund
  sourceEventKey := refundEventKey e
  originalFeeResultId := original.feeResultId
  refundEventId := some e.refundEventId
  verifyId := none
  couponId := original.couponId
  orderId := original.orderId
  storeId := storeId
  feeDirection := original.feeDirection
  originalBusinessMonth := original.originalBusinessMonth
  eventMonth := env.businessMonth e.occurredAt
  adjustmentType := e.refundType.adjustmentType
  adjustmentBaseCent := delta.1
  adjustmentFeeCent := delta.2
  ruleVersion := original.ruleVersion
  carryforwardReason := refundAdjustmentReason e
  occurredAt := e.occurredAt
  createdBy := "settlement:" ++ runId

def refundAdjustment (env : Env) (original : FeeResult) (direction : Direction) (runId : String)
    (e : RefundEvent) (delta : Delta) : FeeAdjustment where
  adjustmentId := refundAdjustmentId env original direction e
  originalFeeResultId := original.feeResultId
  refundEventId := some e.refundEventId
  couponId := original.couponId
  orderId := original.orderId
  feeDirection := direction
  originalBusinessMonth := original.originalBusinessMonth
  adjustmentPostingMonth := env.businessMonth e.occurredAt
  adjustmentType := e.refundType.adjustmentType
  adjustmentBaseCent := delta.1
  adjustmentFeeCent := delta.2
  ruleVersion := original.ruleVersion
  adjustmentReason := refundAdjustmentReason e
  occurredAt := e.occurredAt
  createdBy := "settlement:" ++ runId

def postRefund (env : Env) (original : FeeResult) (direction : Direction) (runId : String)
    (s : RefundLoop) (storeId : String) (e : RefundEvent) (delta : Delta) :
    Except SettlementError RefundLoop :=
  if s.db.isFeeResultLocked storeId (env.businessMonth e.occurredAt) then do
    let (db, source) ← s.db.createCarryforwardSource
      (refundCarryforward env original runId storeId e delta)
    let db := db.recordIssue
      { issueType := "dual_fee_locked_adjustment_posting_month"
        message := "调整事件月已锁定，退款差额已保存并等待顺延。"
        orderId := some original.orderId
        couponId := some original.couponId
        identitySuffix := some (e.refundEventId ++ ":" ++ direction.code) }
    return { s with db }.account original e source.delta
  else do
    let db ← s.db.addAdjustment (refundAdjustment env original direction runId e delta)
    return { s with db }.account original e delta

/-- A partial refund of a result with a fixed manual amount: left to a reviewer, unless the
result is already reversed or is going to be. -/
def reviewManualRefund (env : Env) (original : FeeResult) (direction : Direction)
    (events : List RefundEvent) (s : RefundLoop) (e : RefundEvent) : RefundLoop :=
  if original.feeAmountCent + (s.db.effectiveAdjustmentTotals env original.feeResultId).2 = 0 ||
      events.any fun later => later.refundType = .inFull && e.occurredAt ≤ later.occurredAt then s
  else
    { s with
      manualReviewCount := s.manualReviewCount + 1
      db := s.db.recordIssue
        { issueType := "dual_fee_manual_correction_partial_refund_review"
          message := "历史手工定额费用发生部分退款，缺少已批准的比例规则；保留原金额，等待人工核对。"
          orderId := some original.orderId
          couponId := some original.couponId
          severity := "error"
          identitySuffix := some (e.refundEventId ++ ":" ++ direction.code) } }

def Db.recordKnownSource (db : Db) (original : FeeResult) (source : CarryforwardSource) : Db :=
  db.recordIssue
    { issueType := "dual_fee_carryforward_source_idempotent"
      message := "顺延来源已存在，重复任务幂等命中。"
      orderId := some original.orderId
      couponId := some original.couponId
      identitySuffix := some source.carryforwardSourceId }

def refundStep (env : Env) (original : FeeResult) (direction : Direction) (runId : String)
    (manualBasis manualAmountOverride : Bool) (events : List RefundEvent) (s : RefundLoop)
    (e : RefundEvent) : Except SettlementError RefundLoop :=
  let s := { s with
    eventRefundTotal := addRefund original.sourceAmountCent s.eventRefundTotal e }
  -- the amount snapshot proves whether the event was included when the result was calculated
  if e.observedAt ≤ original.calculatedAt ∧ s.eventRefundTotal ≤ original.refundedAmountCent then
    .ok s
  else if manualAmountOverride && e.refundType ≠ .inFull then
    .ok (reviewManualRefund env original direction events s e)
  else match s.db.carryforwardSource (refundEventKey e) original.feeResultId direction with
  | some source =>
    .ok ({ s with db := s.db.recordKnownSource original source }.account original e source.delta)
  | none => match s.db.adjustments.get? (refundAdjustmentId env original direction e) with
    | some existing => .ok (s.account original e existing.delta)
    | none => match original.knownStore direction with
      | none => .error (.valueError
          ("refund adjustment has no responsible store: " ++ original.feeResultId))
      | some storeId => postRefund env original direction runId s storeId e
          (refundDelta env original manualBasis s e)

def materializeDirectionRefunds (env : Env) (runId couponId : String) (events : List RefundEvent)
    (db : Db) (direction : Direction) : Except SettlementError (Db × Nat) :=
  match db.currentFeeResult couponId direction with
  | none => .ok (db, 0)
  | some original =>
    if db.hasVerifyCancellation original then .ok (db, 0)
    else do
      let manualBasis := db.hasHistoricalFeeCorrection original.feeResultId
      let manualAmountOverride :=
        manualBasis && db.hasHistoricalFeeAmountOverride original.feeResultId
      let s ← events.foldlM
        (refundStep env original direction runId manualBasis manualAmountOverride events)
        { db, cumulativeRefund := original.refundedAmountCent }
      return (s.db, s.manualReviewCount)

def materializeRefundAdjustments (env : Env) (db : Db) (coupon : RawCoupon) (runId : String)
    (directions : List Direction := [.promotion, .management]) :
    Except SettlementError (Db × Nat) :=
  let events := db.resolvedRefundEvents coupon
  let db := db.recordAmbiguousRefunds coupon
  if events.isEmpty then .ok (db, 0)
  else directions.foldlM (fun (db, count) direction => do
    let (db, reviewed) ← materializeDirectionRefunds env runId coupon.couponId events db direction
    return (db, count + reviewed)) (db, 0)

end DyData.Settlement
