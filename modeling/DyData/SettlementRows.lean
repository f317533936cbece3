import DyData.RelationalTable
import DyData.JsonValue

/-!
The rows of the settlement: what the platform reported, the fee results and their adjustments,
the deferred deltas, and the bills.  Instants are microseconds in UTC, amounts are cents.
-/

namespace DyData.Settlement

open Relational

abbrev Time := Int

/-- A month key `YYYY-MM`, counted in months. -/
abbrev Month := Nat

def formalSettlementStart : Month := 12 * 2026 + 7

/-- `PROMOTION_FEE` and `MANAGEMENT_FEE`. -/
inductive Direction
  | promotion | management
deriving DecidableEq

def Direction.code : Direction → String
  | .promotion => "1"
  | .management => "2"

inductive RefundType
  | inPart | inFull
deriving DecidableEq

/-- `refund_status`: only `succeeded` is a `SUCCESSFUL_REFUND`. -/
inductive RefundStatus
  | pending | succeeded | failed | closed
deriving DecidableEq

/-- `raw_douyin_orders`. -/
structure RawOrder where
  id : Nat
  orderId : String
  orderStatus : Option String := none
  orderStatusNormalized : Option String := none
  skuId : Option String := none
  payTime : Option Time := none
  saleTime : Option Time := none
  ownerAccountId : Option String := none
  ownerAccountName : Option String := none
  saleChannel : Option String := none
  saleChannelNormalized : Option String := none
  intentionPoiId : Option String := none
  rawPayload : JsonValue := .obj []

/-- `raw_douyin_order_coupons`. -/
structure RawCoupon where
  couponId : String
  orderId : String
  rawOrderId : Nat
  orderItemId : Option String := none
  couponStatus : Option String := none
  couponStatusNormalized : Option String := none
  couponRefundedCent : Option Int := none
  couponRefundedAmountCent : Int := 0
  rawPayload : JsonValue := .obj []

/-- `raw_douyin_verify_records`. -/
structure VerifyRecord where
  verifyId : String
  couponId : Option String
  verifyStatus : Option String := none
  verifyTime : Option Time := none
  poiId : Option String := none
  cancelTime : Option Time := none
deriving DecidableEq

/-- `douyin_refund_event`. -/
structure RefundEvent where
  refundEventId : String
  orderId : String
  couponId : Option String
  refundType : RefundType
  refundStatus : RefundStatus := .succeeded
  refundAmountCent : Int
  occurredAt : Time
  successfulObservedAt : Option Time := none
  createdAt : Time
  amountCheck : 0 ≤ refundAmountCent := by decide
deriving DecidableEq

inductive ResultStatus
  | active | superseded | blocked
deriving DecidableEq

/-- `settlement_fee_result`. -/
structure FeeResult where
  feeResultId : String
  couponId : String
  orderId : String
  feeDirection : Direction
  resultVersion : Nat
  originalBusinessMonth : Month
  ruleMatchDate : String := ""
  saleStoreId : Option String
  verifyStoreId : Option String
  skuId : String := ""
  productScope : String := ""
  productType : String := ""
  saleChannelNormalized : String := ""
  sourceAmountCent : Int
  refundedAmountCent : Int
  feeBaseCent : Int
  feeRate : ℚ
  feeAmountCent : Int
  ruleVersion : String
  scopeRuleVersion : String := ""
  resultStatus : ResultStatus := .active
  calculationRunId : String
  inputFingerprint : Option String := none
  accountQualificationVersionId : Option String := none
  saleAttributionDecisionId : Option String := none
  qualifyingVerifyId : Option String := none
  qualifyingVerifyTime : Option Time := none
  reverificationAnchorId : Option String := none
  calculatedAt : Time
  amountCheck : 0 ≤ sourceAmountCent ∧ 0 ≤ refundedAmountCent ∧ 0 ≤ feeBaseCent ∧
    0 ≤ feeAmountCent := by decide
  rateCheck : 0 ≤ feeRate ∧ feeRate ≤ 1 := by decide +kernel
deriving DecidableEq

def FeeResult.responsibleStore (r : FeeResult) : Direction → Option String
  | .promotion => r.saleStoreId
  | .management => r.verifyStoreId

/-- `if not store_id`: an empty identifier is no store. -/
def FeeResult.knownStore (r : FeeResult) (direction : Direction) : Option String :=
  (r.responsibleStore direction).filter fun id => id ≠ ""

/-- `settlement_fee_result_current`: the pointer of a coupon and direction. -/
structure FeeResultCurrent where
  couponId : String
  feeDirection : Direction
  feeResultId : String
deriving DecidableEq

def FeeResultCurrent.slot (p : FeeResultCurrent) : String × Direction :=
  (p.couponId, p.feeDirection)

/-- `adjustment_type`: the two refund types, a cancelled verification, and a correction or
restoration. -/
inductive AdjustmentType
  | partialRefund | fullRefund | verifyCancellation | correction
deriving DecidableEq

def RefundType.adjustmentType : RefundType → AdjustmentType
  | .inPart => .partialRefund
  | .inFull => .fullRefund

/-- `settlement_fee_adjustment`. -/
structure FeeAdjustment where
  adjustmentId : String
  originalFeeResultId : String
  refundEventId : Option String
  couponId : String
  orderId : String
  feeDirection : Direction
  originalBusinessMonth : Month
  adjustmentPostingMonth : Month
  adjustmentType : AdjustmentType
  adjustmentBaseCent : Int
  adjustmentFeeCent : Int
  ruleVersion : String
  adjustmentReason : String
  occurredAt : Time
  createdBy : String
deriving DecidableEq

inductive SourceEventType
  | refund | verification
deriving DecidableEq

/-- `settlement_carryforward_source`: a delta whose event month cannot be changed any more. -/
structure CarryforwardSource where
  carryforwardSourceId : String
  sourceEventType : SourceEventType
  sourceEventKey : String
  originalFeeResultId : String
  refundEventId : Option String
  verifyId : Option String
  couponId : String
  orderId : String
  storeId : String
  feeDirection : Direction
  originalBusinessMonth : Month
  eventMonth : Month
  adjustmentType : AdjustmentType
  adjustmentBaseCent : Int
  adjustmentFeeCent : Int
  ruleVersion : String
  carryforwardReason : String
  occurredAt : Time
  createdBy : String
deriving DecidableEq

/-- `settlement_carryforward_application`: the posting of a deferred delta to a bill. -/
structure CarryforwardApplication where
  carryforwardApplicationId : String
  carryforwardSourceId : String
  targetStatementId : String
  targetStatementVersion : Nat
  targetAdjustmentId : String
  targetPostingMonth : Month
  applicationVersion : Nat
  isCurrent : Bool := true
  appliedBy : String
deriving DecidableEq

inductive StatementStatus
  | generating | pendingConfirmation | confirmed | locked
deriving DecidableEq

/-- `settlement_statement`. -/
structure Statement where
  statementId : String
  storeId : String
  statementMonth : Month
  versionNo : Nat := 1
  isCurrent : Bool := true
  supersedesStatementId : Option String := none
  statementStatus : StatementStatus := .generating
  promotionOriginalFeeCent : Int := 0
  promotionAdjustmentFeeCent : Int := 0
  promotionNetFeeCent : Int := 0
  managementOriginalFeeCent : Int := 0
  managementAdjustmentFeeCent : Int := 0
  managementNetFeeCent : Int := 0
  confirmedAt : Option Time := none
  lockedAt : Option Time := none
deriving DecidableEq

def Statement.slot (s : Statement) : String × Month := (s.storeId, s.statementMonth)

/-- `settlement_statement_line`. -/
structure StatementLine where
  statementLineId : String
  statementId : String
  feeDirection : Direction
  productScope : String
  productType : String
  originalEntryCount : Nat
  adjustmentEntryCount : Nat
  originalBaseCent : Int
  adjustmentBaseCent : Int
  netBaseCent : Int
  originalFeeCent : Int
  adjustmentFeeCent : Int
  netFeeCent : Int
deriving DecidableEq

/-- `source_type`: a fee result or an adjustment. -/
inductive SourceType
  | original | adjustment
deriving DecidableEq

/-- `SNAPSHOT_FIELDS`: what a bill entry keeps for display. -/
structure Snapshot where
  orderStatus : Option String := none
  couponStatus : Option String := none
  productName : Option String := none
  skuId : Option String := none
  skuName : Option String := none
  saleChannel : Option String := none
  saleStoreId : Option String := none
  saleStore : Option String := none
  verifyStoreId : Option String := none
  verifyStore : Option String := none
  saleTime : Option Time := none
  verifyTime : Option Time := none
  receivedAmountCent : Option Int := none
  feeRate : Option ℚ := none
  refundAt : Option Time := none
  adjustmentType : Option AdjustmentType := none
deriving DecidableEq

/-- `settlement_statement_entry`. -/
structure StatementEntry where
  statementEntryId : String
  statementId : String
  statementLineId : String
  sourceType : SourceType
  sourceRecordId : String
  originalFeeResultId : String
  couponId : String
  orderId : String
  feeDirection : Direction
  originalBusinessMonth : Month
  statementPostingMonth : Month
  productScope : String
  productType : String
  baseAmountCent : Int
  feeAmountCent : Int
  ruleVersion : String
  snapshot : Snapshot := {}
deriving DecidableEq

/-- `settlement_statement_confirmation`. -/
structure StatementConfirmation where
  confirmationId : String
  statementId : String
  feeDirection : Direction
  confirmedAmountCent : Int
  confirmedAt : Time := 0
  idempotencyKeyHash : Option String := none
  requestPayloadSha256 : Option String := none
deriving DecidableEq

/-- `DISPUTE_STATUS_NAMES`. -/
inductive DisputeStatus
  | pending | inReview | pendingAdminApproval | acceptedWithAdjustment | rejected | withdrawn
deriving DecidableEq

/-- `settlement_dispute`. -/
structure Dispute where
  disputeId : String
  statementId : String
  storeId : String
  statementMonth : Month
  feeDirection : Direction
  status : DisputeStatus := .pending
  resultStatementId : Option String := none
  disputedAmountCent : Int := 0
  resolutionNote : Option String := none
  idempotencyKeyHash : Option String := none
  requestPayloadSha256 : Option String := none
deriving DecidableEq

/-- `settlement_dispute_order`. -/
structure DisputeOrder where
  disputeId : String
  orderId : String
  couponId : Option String
  disputedAmountCent : Int
deriving DecidableEq

/-- `INVOICE_STATUS_NAMES`. -/
inductive InvoiceStatus
  | pendingInvoice | submittedPendingFactoryReview | approvedSettled | rejectedReupload
deriving DecidableEq

abbrev Day := Int

/-- `invoice_record`: the versions of the invoice of a bill and direction. -/
structure InvoiceRecord where
  invoiceId : String
  storeId : String
  statementMonth : Month
  statementId : String
  feeDirection : Direction
  versionNo : Nat := 1
  isCurrent : Bool := true
  isTombstone : Bool := false
  invoiceNumber : String
  invoiceDate : Day := 0
  invoiceAmountCent : Int
  invoiceStatus : InvoiceStatus := .pendingInvoice
  importBatchId : Option String := none
deriving DecidableEq

/-- `management_carryforward_application`: the part of a negative month that reduced a positive
one, and the invoice it went into. -/
structure ManagementApplication where
  applicationId : String
  storeId : String
  sourceStatementId : String
  sourceStatementMonth : Month
  targetStatementId : String
  targetStatementMonth : Month
  invoiceId : Option String
  appliedAmountCent : Int
  versionNo : Nat := 1
  isCurrent : Bool := true
  supersedesApplicationId : Option String := none
  projectionSha256 : String := ""
deriving DecidableEq

/-- `version_kind` of a promotion invoice: a registration, or a factory result. -/
inductive InvoiceVersionKind
  | registration | factoryResult
deriving DecidableEq

structure PromotionInvoice where
  invoiceId : String
  physicalInvoiceId : String
  storeId : String
  versionNo : Nat := 1
  versionKind : InvoiceVersionKind := .registration
  isCurrent : Bool := true
  isTombstone : Bool := false
  supersedesInvoiceId : Option String := none
  replacesInvoiceId : Option String := none
  invoiceNumber : String
  invoiceDate : Day := 0
  invoiceAmountCent : Int
  netAmountCent : Option Int := none
  taxAmountCent : Option Int := none
  invoiceStatus : InvoiceStatus := .submittedPendingFactoryReview
  idempotencyKeyHash : Option String := none
  requestPayloadSha256 : Option String := none
deriving DecidableEq

structure PromotionInvoiceAllocation where
  allocationId : String
  invoiceId : String
  storeId : String
  statementId : String
  statementMonth : Month
  settlementBatchMonth : Month
  allocatedAmountCent : Int
  isCurrent : Bool := true
deriving DecidableEq

/-- `promotion_invoice_number_registry`. -/
structure InvoiceNumberRegistration where
  invoiceNumber : String
  physicalInvoiceId : String
  firstInvoiceId : String
  storeId : String
deriving DecidableEq

/-- `promotion_invoice_replacement_source`. -/
structure ReplacementSource where
  replacementInvoiceId : String
  sourceInvoiceId : String
  sourcePhysicalInvoiceId : String
deriving DecidableEq

/-- `PROMOTION_LIFECYCLE_EVENT_TO_DB`. -/
inductive LifecycleEventType
  | redFlushed | voided
deriving DecidableEq

/-- `promotion_invoice_lifecycle_event`. -/
structure LifecycleEvent where
  lifecycleEventId : String
  physicalInvoiceId : String
  invoiceId : String
  invoiceVersion : Nat
  eventType : LifecycleEventType
  reason : String
  readVersion : Nat
  isCurrent : Bool := true
  idempotencyKeyHash : String
  requestPayloadSha256 : String
deriving DecidableEq

/-- The normalised payload of a management factory result; a date or an amount that does not
parse is absent. -/
structure ManagementPayload where
  storeId : String
  storeName : String
  statementMonth : Month
  invoiceNumber : String
  invoiceDate : Option Day
  deductionDate : Option Day
  deductionAmountCent : Option Int
deriving DecidableEq

/-- `finance_import_row` of a management factory result, written once its row is committed. -/
structure ImportRow where
  batchId : String
  rowNumber : Nat
  payload : ManagementPayload
  targetRecordId : Option String := none
deriving DecidableEq

def ImportRow.key (r : ImportRow) : String × Nat := (r.batchId, r.rowNumber)

/-- `finance_operation_audit`. -/
structure OperationAudit where
  auditId : String
  operationType : String
  targetType : String
  targetId : String
  resultStatus : Nat
  afterSnapshot : JsonValue := .null
  idempotencyKeyHash : Option String := none
  requestPayloadSha256 : Option String := none

structure Issue where
  issueType : String
  message : String
  orderId : Option String
  couponId : Option String
  severity : String := "warning"
  identitySuffix : Option String := none
deriving DecidableEq

structure Billing where
  statements : Table Statement.statementId := .empty
  lines : Table StatementLine.statementLineId := .empty
  entries : Table StatementEntry.statementEntryId := .empty
  confirmations : Table StatementConfirmation.confirmationId := .empty
  disputes : Table Dispute.disputeId := .empty
  disputeOrders : List DisputeOrder := []
  promotionInvoices : Table PromotionInvoice.invoiceId := .empty
  promotionInvoiceAllocations : Table PromotionInvoiceAllocation.allocationId := .empty
  invoiceNumberRegistry : Table InvoiceNumberRegistration.invoiceNumber := .empty
  lifecycleEvents : Table LifecycleEvent.lifecycleEventId := .empty
  replacementSources : Table ReplacementSource.sourceInvoiceId := .empty
  invoiceRecords : Table InvoiceRecord.invoiceId := .empty
  managementApplications : Table ManagementApplication.applicationId := .empty
  importRows : Table ImportRow.key := .empty
  /-- The import batches whose `batch_status` is `COMMITTED` or `CORRECTED`. -/
  committedBatches : List String := []

structure Db where
  orders : Table RawOrder.id := .empty
  coupons : Table RawCoupon.couponId := .empty
  verifyRecords : Table VerifyRecord.verifyId := .empty
  refundEvents : Table RefundEvent.refundEventId := .empty
  feeResults : Table FeeResult.feeResultId := .empty
  currents : Table FeeResultCurrent.slot := .empty
  adjustments : Table FeeAdjustment.adjustmentId := .empty
  carryforwardSources : Table CarryforwardSource.carryforwardSourceId := .empty
  carryforwardApplications :
    Table CarryforwardApplication.carryforwardApplicationId := .empty
  billing : Billing := {}
  audits : Table OperationAudit.auditId := .empty
  issues : List Issue := []

def Db.recordIssue (db : Db) (issue : Issue) : Db := { db with issues := issue :: db.issues }

end DyData.Settlement
