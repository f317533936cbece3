import DyData.ManagementInvoices
import DyData.PromotionProjection

/-!
Promotion invoices: a store registers one invoice for all the groups that can be invoiced, the
factory approves or rejects it, and a red flush or a void releases its months again.
-/

namespace DyData.Settlement

open Relational
open PythonText (strip)
open Except (ofOption ensure)

/-! ### Writing invoices and allocations -/

/-- The unique indexes of `promotion_invoice` that two rows would break. -/
def PromotionInvoice.clashes (r i : PromotionInvoice) : Bool :=
  (r.idempotencyKeyHash.isSome && r.idempotencyKeyHash = i.idempotencyKeyHash) ||
  (r.physicalInvoiceId = i.physicalInvoiceId && r.versionNo = i.versionNo) ||
  (r.isCurrent && i.isCurrent && (r.invoiceNumber = i.invoiceNumber ||
    r.physicalInvoiceId = i.physicalInvoiceId)) ||
  (r.replacesInvoiceId.isSome && r.replacesInvoiceId = i.replacesInvoiceId &&
    r.versionKind = .registration && i.versionKind = .registration)

def Billing.addPromotionInvoice (b : Billing) (i : PromotionInvoice) :
    Except SettlementError Billing := do
  ensure (!b.promotionInvoices.rows.any fun r => r.clashes i)
    (.integrityError "idx_promotion_invoice")
  ensure (0 ≤ i.invoiceAmountCent) (.integrityError "ck_promotion_invoice_amount")
  let promotionInvoices ← ofOption (b.promotionInvoices.insert? i)
    (.integrityError "uk_promotion_invoice_id")
  return { b with promotionInvoices }

/-- `idx_promotion_invoice_allocation_current_period` and
`uk_promotion_invoice_allocation_statement`. -/
def PromotionInvoiceAllocation.clashes (r a : PromotionInvoiceAllocation) : Bool :=
  (r.isCurrent && a.isCurrent && r.storeId = a.storeId && r.statementMonth = a.statementMonth) ||
  (r.invoiceId = a.invoiceId && r.statementId = a.statementId)

def Billing.addPromotionAllocation (b : Billing) (a : PromotionInvoiceAllocation) :
    Except SettlementError Billing := do
  ensure (!b.promotionInvoiceAllocations.rows.any fun r => r.clashes a)
    (.integrityError "idx_promotion_invoice_allocation_current_period")
  let promotionInvoiceAllocations ← ofOption (b.promotionInvoiceAllocations.insert? a)
    (.integrityError "uk_promotion_invoice_allocation_id")
  return { b with promotionInvoiceAllocations }

def Billing.issuePromotionInvoice (b : Billing) (i : PromotionInvoice)
    (allocations : List PromotionInvoiceAllocation) : Except SettlementError Billing := do
  let b ← b.addPromotionInvoice i
  allocations.foldlM Billing.addPromotionAllocation b

def PromotionInvoice.retired (i : PromotionInvoice) : PromotionInvoice :=
  { i with isCurrent := false }

def PromotionInvoiceAllocation.retired (a : PromotionInvoiceAllocation) :
    PromotionInvoiceAllocation :=
  { a with isCurrent := false }

def Billing.allocationsOf (b : Billing) (invoiceId : String) : List PromotionInvoiceAllocation :=
  b.promotionInvoiceAllocations.rows.filter fun a => a.invoiceId = invoiceId && a.isCurrent

def Billing.retirePromotionInvoice (b : Billing) (invoiceId : String) : Billing :=
  { b with
    promotionInvoices := b.promotionInvoices.update (fun i => i.invoiceId = invoiceId)
      PromotionInvoice.retired fun _ => rfl
    promotionInvoiceAllocations := b.promotionInvoiceAllocations.update
      (fun a => a.invoiceId = invoiceId && a.isCurrent) PromotionInvoiceAllocation.retired
      fun _ => rfl }

def Billing.lockPromotionInvoicePhysical (b : Billing) (physicalInvoiceId : String) :
    Except SettlementError Unit :=
  ensure (b.invoiceNumberRegistry.rows.any fun r => r.physicalInvoiceId = physicalInvoiceId)
    (conflict "PROMOTION_INVOICE_PHYSICAL_LOCK_MISSING" "发票物理版本锁缺失，请先处理迁移异常")

def Billing.terminationOf (b : Billing) (physicalInvoiceId : String) : Option LifecycleEvent :=
  b.lifecycleEvents.rows.find? fun e => e.physicalInvoiceId = physicalInvoiceId && e.isCurrent

/-! ### Registering -/

structure InvoiceEnv where
  now : Time
  beijingDay : Time → Day
  beijingMonth : Time → Month
  beijingDayOfMonth : Time → Nat
  storeExists : String → Bool

/-- `_promotion_invoice_settlement_batch_month`. -/
def InvoiceEnv.settlementBatchMonth (env : InvoiceEnv) : Month :=
  if 10 < env.beijingDayOfMonth env.now then env.beijingMonth env.now
  else env.beijingMonth env.now - 1

structure AllocationRequest where
  statementId : String
  statementMonth : Month
  readVersion : Nat
  promotionInvoiceGroupId : Option String
deriving DecidableEq

structure PromotionIds where
  invoiceId : String
  physicalInvoiceId : String
  allocation : String → String

structure RegisterRequest where
  key : RequestKey
  auditId : String
  ids : PromotionIds
  /-- The hash of the payload in the shape that registrations had before. -/
  legacySha256 : PromotionInvoice → List PromotionInvoiceAllocation → String
  storeId : String
  fillerPhone : String
  invoiceNumber : String
  invoiceDate : Option Day
  allocations : List AllocationRequest
  replacesInvoiceId : Option String

structure ParsedRegistration where
  storeId : String
  invoiceNumber : String
  invoiceDate : Day
  replacesInvoiceId : Option String
  allocations : List AllocationRequest

def registerValidation (field message : String) : SettlementError :=
  unprocessable "VALIDATION_FAILED" message (some field)

def parseAllocation (parsed : List AllocationRequest) (item : AllocationRequest) :
    Except SettlementError (List AllocationRequest) := do
  ensure (!parsed.any fun p => p.statementMonth = item.statementMonth)
    (registerValidation "allocations" "同一账期不得拆分多张发票")
  ensure (1 ≤ item.readVersion) (registerValidation "allocations" "readVersion 不合法")
  return parsed ++ [{ item with
    promotionInvoiceGroupId := (item.promotionInvoiceGroupId.map strip).filter
      fun id => id ≠ "" }]

/-- `_parse_promotion_invoice_payload`. -/
def RegisterRequest.parse (r : RegisterRequest) : Except SettlementError ParsedRegistration := do
  let storeId := strip r.storeId
  let fillerPhone := strip r.fillerPhone
  ensure (storeId ≠ "") (registerValidation "storeId" "storeId 为必填项")
  ensure (fillerPhone ≠ "" && fillerPhone.toList.length ≤ 64)
    (registerValidation "fillerPhone" "fillerPhone 必须填写且不超过 64 个字符")
  ensure (isInvoiceNumber r.invoiceNumber)
    (registerValidation "invoiceNumber" "invoiceNumber 必须为 20 位 ASCII 数字")
  let invoiceDate ← ofOption r.invoiceDate
    (registerValidation "invoiceDate" "invoiceDate 必须为 YYYY-MM-DD")
  ensure (!r.allocations.isEmpty)
    (registerValidation "allocations" "allocations 至少包含一个完整账期")
  ensure (r.replacesInvoiceId.all fun id => strip id ≠ "")
    (registerValidation "replacesInvoiceId" "replacesInvoiceId 必须为非空字符串")
  let allocations ← r.allocations.foldlM parseAllocation []
  return {
    storeId
    invoiceNumber := r.invoiceNumber
    invoiceDate
    replacesInvoiceId := r.replacesInvoiceId.map strip
    allocations }

structure SelectedBill where
  statement : Statement
  groupId : String
  allocatedAmountCent : Int
deriving DecidableEq

def InvoiceEnv.isDatedAfter (env : InvoiceEnv) (day : Day) (s : Statement)
    (c : StatementConfirmation) : Bool :=
  (c.confirmedAt :: (s.confirmedAt.toList ++ s.lockedAt.toList)).all fun time =>
    env.beijingDay time ≤ day

def Billing.selectBill (b : Billing) (env : InvoiceEnv) (projection : PromotionProjection)
    (parsed : ParsedRegistration) (item : AllocationRequest) :
    Except SettlementError SelectedBill := do
  let period ← ofOption ((projection.period? item.statementId).filter fun p =>
      item.promotionInvoiceGroupId = some p.group.groupId)
    (conflict "PROMOTION_INVOICE_GROUP_CHANGED" "推广费抵扣组已变化，请刷新账单后重新选择"
      (some "allocations"))
  ensure (0 < period.group.invoiceableAmountCent)
    (unprocessable "PROMOTION_INVOICE_GROUP_NOT_CLOSED" "推广费抵扣组尚未形成正数净额，不能登记发票"
      (some "allocations"))
  let s ← ofOption (b.statements.get? item.statementId)
    (notFound "账单不存在" (some "statementId"))
  ensure (s.isCurrent && s.storeId = parsed.storeId &&
    s.statementMonth = item.statementMonth && s.versionNo = item.readVersion)
    statementVersionConflict
  let confirmed ← ofOption (b.confirmationOf s.statementId .promotion)
    (registerValidation "allocations" "每个账期必须有当前有效推广费确认")
  ensure (env.isDatedAfter parsed.invoiceDate s confirmed)
    (registerValidation "invoiceDate" "开票日期不得早于账单确认或锁账日期")
  ensure (!b.promotionInvoiceAllocations.rows.any fun a => a.storeId = s.storeId &&
      a.statementMonth = s.statementMonth && a.isCurrent)
    (conflict "PROMOTION_INVOICE_PERIOD_OCCUPIED" "账期已存在当前有效推广费发票分配"
      (some "allocations"))
  return {
    statement := s
    groupId := period.group.groupId
    allocatedAmountCent := confirmed.confirmedAmountCent }

def sameSet (l m : List String) : Bool := l.all m.contains && m.all l.contains

/-- `selected_statement_ids_by_group`. -/
def selectedOf (selected : List SelectedBill) (groupId : String) : List String :=
  (selected.filter fun x => x.groupId = groupId).map fun x => x.statement.statementId

def PromotionProjection.checkSelection (projection : PromotionProjection)
    (selected : List SelectedBill) : Except SettlementError Unit := do
  let groupIds := selected.map SelectedBill.groupId
  groupIds.forM fun groupId =>
    ensure (sameSet (selectedOf selected groupId)
        (((projection.group? groupId).map PromotionGroup.requiredStatementIds).getD []))
      (unprocessable "PROMOTION_INVOICE_GROUP_INCOMPLETE" "登记发票必须一次包含抵扣组的全部正负账期"
        (some "allocations"))
  ensure (sameSet groupIds ((projection.groups.filter fun g =>
      0 < g.invoiceableAmountCent).map PromotionGroup.groupId))
    (unprocessable "PROMOTION_INVOICE_SELECTION_INCOMPLETE"
      "登记发票必须一次包含所有当前可开票且未开票的完整账期" (some "allocations"))

def Billing.successorOf (b : Billing) (invoiceId : String) : Option String :=
  ((b.replacementSources.get? invoiceId).map ReplacementSource.replacementInvoiceId).or
    ((b.promotionInvoices.rows.find? fun i => i.replacesInvoiceId = some invoiceId &&
      i.versionKind = .registration).map PromotionInvoice.invoiceId)

/-- `required_replacement_ids`: the terminated invoices of the selected bills that have not been
replaced. -/
def Billing.requiredReplacementIds (b : Billing) (selected : List SelectedBill) : List String :=
  let statementIds := selected.map fun x => x.statement.statementId
  ((b.lifecycleEvents.rows.filter fun e => e.isCurrent &&
    (b.promotionInvoiceAllocations.rows.any fun a => a.invoiceId = e.invoiceId &&
      statementIds.contains a.statementId) &&
    (b.successorOf e.invoiceId).isNone).map LifecycleEvent.invoiceId).insertionSort (· ≤ ·)

def Billing.replacedInvoice (b : Billing) (parsed : ParsedRegistration)
    (selected : List SelectedBill) (invoiceId : String) :
    Except SettlementError (PromotionInvoice × LifecycleEvent) := do
  let field := some "replacesInvoiceId"
  let source ← ofOption (b.promotionInvoices.get? invoiceId)
    (notFound "被替换发票不存在" field)
  b.lockPromotionInvoicePhysical source.physicalInvoiceId
  ensure (source.storeId = parsed.storeId)
    (conflict "PROMOTION_INVOICE_REPLACEMENT_SCOPE_CONFLICT" "不得跨门店替换发票" field)
  let termination ← ofOption ((b.terminationOf source.physicalInvoiceId).filter fun e =>
      e.invoiceId = source.invoiceId)
    (conflict "PROMOTION_INVOICE_REPLACEMENT_VERSION_CONFLICT"
      "被替换发票必须指向当前待替换的红冲或作废版本" field)
  ensure (b.successorOf source.invoiceId).isNone
    (conflict "PROMOTION_INVOICE_REPLACEMENT_ALREADY_EXISTS"
      "被替换发票已经登记后继发票，不能形成分叉链" field)
  ensure (b.promotionInvoiceAllocations.rows.all fun a =>
      a.invoiceId ≠ source.invoiceId ||
        selected.any fun x => x.statement.statementMonth = a.statementMonth)
    (conflict "PROMOTION_INVOICE_REPLACEMENT_PERIOD_MISMATCH"
      "替换发票必须覆盖全部来源发票释放的完整账期及其当前抵扣组" (some "allocations"))
  ensure (source.invoiceNumber ≠ parsed.invoiceNumber)
    (unprocessable "PROMOTION_INVOICE_NUMBER_REUSED" "替换发票必须使用新的 20 位发票号码"
      (some "invoiceNumber"))
  return (source, termination)

def Billing.replacedInvoices (b : Billing) (parsed : ParsedRegistration)
    (selected : List SelectedBill) :
    Except SettlementError (List (PromotionInvoice × LifecycleEvent)) := do
  let required := b.requiredReplacementIds selected
  ensure (required.isEmpty || parsed.replacesInvoiceId.any required.contains)
    (conflict "PROMOTION_INVOICE_REPLACEMENT_REQUIRED"
      "释放账期必须关联其中一张被红冲或作废的原发票；系统会审计关联同组全部来源"
      (some "replacesInvoiceId"))
  let sourceIds := if required.isEmpty then parsed.replacesInvoiceId.toList else required
  sourceIds.mapM (b.replacedInvoice parsed selected)

def promotionInvoiceTaxRatePercent : Int := 6

/-- The net part of `_promotion_invoice_amounts`, rounded half up. -/
def promotionNetAmount (total : Int) : Int :=
  let denominator := 100 + promotionInvoiceTaxRatePercent
  (total * 100 + denominator / 2) / denominator

def registeredAmount (selected : List SelectedBill) : Int :=
  (selected.map SelectedBill.allocatedAmountCent).sum

def RegisterRequest.invoice (r : RegisterRequest) (parsed : ParsedRegistration)
    (selected : List SelectedBill) (replaced : List PromotionInvoice) : PromotionInvoice where
  invoiceId := r.ids.invoiceId
  physicalInvoiceId := r.ids.physicalInvoiceId
  storeId := parsed.storeId
  versionNo := 1
  versionKind := .registration
  replacesInvoiceId := ((replaced.find? fun i => some i.invoiceId = parsed.replacesInvoiceId).or
    replaced.head?).map PromotionInvoice.invoiceId
  invoiceNumber := parsed.invoiceNumber
  invoiceDate := parsed.invoiceDate
  invoiceAmountCent := registeredAmount selected
  netAmountCent := some (promotionNetAmount (registeredAmount selected))
  taxAmountCent := some (registeredAmount selected - promotionNetAmount (registeredAmount selected))
  invoiceStatus := .submittedPendingFactoryReview
  idempotencyKeyHash := some r.key.keyHash
  requestPayloadSha256 := some r.key.payloadSha256

def SelectedBill.allocation (x : SelectedBill) (ids : PromotionIds) (batchMonth : Month) :
    PromotionInvoiceAllocation where
  allocationId := ids.allocation x.statement.statementId
  invoiceId := ids.invoiceId
  storeId := x.statement.storeId
  statementId := x.statement.statementId
  statementMonth := x.statement.statementMonth
  settlementBatchMonth := batchMonth
  allocatedAmountCent := x.allocatedAmountCent

/-- `promotion_invoice_number_registry`, with a unique number and a unique physical invoice. -/
def Billing.registerNumber (b : Billing) (r : InvoiceNumberRegistration) :
    Except SettlementError Billing := do
  ensure (!b.invoiceNumberRegistry.rows.any fun x =>
      x.physicalInvoiceId = r.physicalInvoiceId)
    (.integrityError "uk_promotion_invoice_number_registry_physical")
  let invoiceNumberRegistry ← ofOption (b.invoiceNumberRegistry.insert? r)
    (.integrityError "uk_promotion_invoice_number_registry_number")
  return { b with invoiceNumberRegistry }

def LifecycleEvent.answered (e : LifecycleEvent) : LifecycleEvent := { e with isCurrent := false }

def Billing.linkReplacement (replacementInvoiceId : String) (b : Billing)
    (source : PromotionInvoice × LifecycleEvent) : Except SettlementError Billing := do
  let replacementSources ← ofOption (b.replacementSources.insert? {
      replacementInvoiceId
      sourceInvoiceId := source.1.invoiceId
      sourcePhysicalInvoiceId := source.1.physicalInvoiceId })
    (.integrityError "uk_promotion_invoice_replacement_source_source")
  return { b with
    replacementSources
    lifecycleEvents := b.lifecycleEvents.update
      (fun e => e.lifecycleEventId = source.2.lifecycleEventId) LifecycleEvent.answered
      fun _ => rfl }

def Billing.writeRegistration (b : Billing) (env : InvoiceEnv) (r : RegisterRequest)
    (parsed : ParsedRegistration) (selected : List SelectedBill)
    (replaced : List (PromotionInvoice × LifecycleEvent)) : Except SettlementError Billing := do
  let b ← b.registerNumber {
    invoiceNumber := parsed.invoiceNumber
    physicalInvoiceId := r.ids.physicalInvoiceId
    firstInvoiceId := r.ids.invoiceId
    storeId := parsed.storeId }
  let b ← replaced.foldlM (Billing.linkReplacement r.ids.invoiceId) b
  b.issuePromotionInvoice (r.invoice parsed selected (replaced.map Prod.fst))
    (selected.map fun x => x.allocation r.ids env.settlementBatchMonth)

section Registration

variable (digest : List MemberIdentity → String)

def Billing.selectBills (b : Billing) (env : InvoiceEnv) (parsed : ParsedRegistration) :
    Except SettlementError (List SelectedBill) := do
  let projection :=
    b.promotionInvoiceCarryforwardProjection digest { storeId := some parsed.storeId }
  let selected ← parsed.allocations.mapM (b.selectBill env projection parsed)
  projection.checkSelection selected
  return selected

/-- The part of `register_promotion_invoice` after the replay check. -/
def Db.recordRegistration (db : Db) (env : InvoiceEnv) (r : RegisterRequest)
    (parsed : ParsedRegistration) : Except SettlementError Db := do
  let b := db.billing
  ensure (!b.invoiceRecords.rows.any fun x => x.invoiceNumber = parsed.invoiceNumber)
    (conflict "INVOICE_NUMBER_ALREADY_USED" "发票号码已登记为其他费用方向的票据，不能重复使用"
      (some "invoiceNumber"))
  ensure ((b.invoiceNumberRegistry.get? parsed.invoiceNumber).isNone &&
      !b.promotionInvoices.rows.any fun i => i.invoiceNumber = parsed.invoiceNumber)
    (conflict "PROMOTION_INVOICE_NUMBER_REUSED" "该发票号码已被使用，新的物理发票必须使用新号码"
      (some "invoiceNumber"))
  let selected ← b.selectBills digest env parsed
  let replaced ← b.replacedInvoices parsed selected
  let billing ← (b.writeRegistration env r parsed selected replaced).mapError fun _ =>
    conflict "PROMOTION_INVOICE_CONFLICT" "发票号码或账期分配已存在"
  { db with billing }.addAudit r.auditId
    (if replaced.isEmpty then "PROMOTION_INVOICE_REGISTER"
      else "PROMOTION_INVOICE_REPLACEMENT_REGISTER")
    "PROMOTION_INVOICE" r.ids.invoiceId r.key

def Db.registerPromotionInvoice (db : Db) (env : InvoiceEnv) (r : RegisterRequest) :
    Except SettlementError Db := do
  let parsed ← r.parse
  ensure (env.storeExists parsed.storeId) (notFound "门店不存在" (some "storeId"))
  ensure (parsed.invoiceDate ≤ env.beijingDay env.now)
    (registerValidation "invoiceDate" "开票日期不得晚于服务器当前日期")
  match db.billing.promotionInvoices.rows.find? fun i =>
      i.idempotencyKeyHash = some r.key.keyHash with
  | some replay =>
    ensure (replay.requestPayloadSha256 = some r.key.payloadSha256 ||
      replay.requestPayloadSha256 = some (r.legacySha256 replay
        (db.billing.promotionInvoiceAllocations.rows.filter fun a =>
          a.invoiceId = replay.invoiceId))) keyReused
    return db
  | none => db.recordRegistration digest env r parsed

end Registration

/-! ### Red flushes and voids -/

structure LifecycleRequest where
  key : RequestKey
  lifecycleEventId : String
  auditId : String
  invoiceId : String
  eventType : Option LifecycleEventType
  reason : String
  readVersion : Nat

def LifecycleRequest.event (r : LifecycleRequest) (i : PromotionInvoice)
    (eventType : LifecycleEventType) : LifecycleEvent where
  lifecycleEventId := r.lifecycleEventId
  physicalInvoiceId := i.physicalInvoiceId
  invoiceId := i.invoiceId
  invoiceVersion := i.versionNo
  eventType := eventType
  reason := strip r.reason
  readVersion := r.readVersion
  isCurrent := true
  idempotencyKeyHash := r.key.keyHash
  requestPayloadSha256 := r.key.payloadSha256

/-- `uk_promotion_invoice_lifecycle_idempotency` and
`idx_promotion_invoice_lifecycle_current_physical`. -/
def Billing.addLifecycleEvent (b : Billing) (e : LifecycleEvent) :
    Except SettlementError Billing := do
  ensure (!b.lifecycleEvents.rows.any fun r => r.idempotencyKeyHash = e.idempotencyKeyHash ||
      (r.isCurrent && r.physicalInvoiceId = e.physicalInvoiceId))
    (.integrityError "idx_promotion_invoice_lifecycle_current_physical")
  let lifecycleEvents ← ofOption (b.lifecycleEvents.insert? e)
    (.integrityError "uk_promotion_invoice_lifecycle_event_id")
  return { b with lifecycleEvents }

/-- The part of `create_promotion_invoice_lifecycle_event` after the replay check. -/
def Db.recordLifecycleEvent (db : Db) (r : LifecycleRequest) (eventType : LifecycleEventType) :
    Except SettlementError Db := do
  let b := db.billing
  let i ← ofOption (b.promotionInvoices.get? r.invoiceId) (notFound "推广费发票不存在")
  b.lockPromotionInvoicePhysical i.physicalInvoiceId
  ensure (i.isCurrent && i.versionNo = r.readVersion)
    (conflict "PROMOTION_INVOICE_VERSION_CONFLICT" "发票版本已变化，请刷新后重试")
  ensure (b.terminationOf i.physicalInvoiceId).isNone
    (conflict "PROMOTION_INVOICE_ALREADY_TERMINATED" "同一物理发票已经登记红冲或作废")
  let billing ← ((b.retirePromotionInvoice i.invoiceId).addLifecycleEvent
      (r.event i eventType)).mapError fun _ =>
    conflict "PROMOTION_INVOICE_LIFECYCLE_CONFLICT" "发票版本或生命周期事件已变化，请刷新后重试"
  let audits ← ofOption (db.audits.insert? {
      auditId := r.auditId
      operationType := "PROMOTION_INVOICE_LIFECYCLE"
      targetType := "PROMOTION_INVOICE"
      targetId := i.invoiceId
      resultStatus := 1 })
    (conflict "PROMOTION_INVOICE_LIFECYCLE_CONFLICT" "发票版本或生命周期事件已变化，请刷新后重试")
  return { db with billing, audits }

def Db.createPromotionInvoiceLifecycleEvent (db : Db) (r : LifecycleRequest) :
    Except SettlementError Db := do
  let eventType ← ofOption r.eventType
    (registerValidation "eventType" "eventType 只允许 RED_FLUSHED 或 VOIDED")
  ensure (strip r.reason ≠ "") (registerValidation "reason" "reason 必填")
  ensure ((strip r.reason).toList.length ≤ 1000)
    (registerValidation "reason" "reason 最多 1000 个字符")
  ensure (1 ≤ r.readVersion) (registerValidation "readVersion" "readVersion 必须为正整数")
  match db.billing.lifecycleEvents.rows.find? fun e => e.idempotencyKeyHash = r.key.keyHash with
  | some replay =>
    ensure (replay.requestPayloadSha256 = r.key.payloadSha256) keyReused
    return db
  | none => db.recordLifecycleEvent r eventType

/-! ### Factory results -/

/-- `reviewResult`, in the text of the import file. -/
inductive ReviewResult
  | approvedSettled | rejectedReupload | other (text : String)
deriving DecidableEq

def ReviewResult.text : ReviewResult → String
  | .approvedSettled => "APPROVED_SETTLED"
  | .rejectedReupload => "REJECTED_REUPLOAD"
  | .other text => text

def ReviewResult.isValid : ReviewResult → Bool
  | .other _ => false
  | _ => true

structure PromotionPayload where
  storeId : String
  invoiceNumber : String
  reviewResult : ReviewResult
  rejectionReason : String
  settlementDate : Option Day
  settlementAmountCent : Option Int

structure PromotionImportRow where
  rowNumber : Nat
  payload : PromotionPayload
  preview : Option (String × Nat) := none

def Billing.currentPromotionInvoice (b : Billing) (invoiceNumber : String) (month : Month) :
    Option PromotionInvoice :=
  b.promotionInvoices.rows.find? fun i => i.invoiceNumber = invoiceNumber && i.isCurrent &&
    (b.promotionInvoiceAllocations.rows.any fun a => a.invoiceId = i.invoiceId &&
      a.statementMonth = month && a.isCurrent)

def promotionTargetErrors (payload : PromotionPayload) (amount : Option Int)
    (error : String → String → String → String → ImportError) :
    Option PromotionInvoice → List ImportError
  | none => errorIf (payload.invoiceNumber ≠ "") (error "invoiceNumber" payload.invoiceNumber
      "未找到该账期精确匹配的当前推广费发票" "核对发票号码和导入账期，禁止模糊匹配")
  | some i =>
    errorIf (amount.any fun cents => cents ≠ i.invoiceAmountCent) (error "settlementAmountCent"
      ((amount.map toString).getD "") "结算金额必须等于当前推广费发票全额"
      "填写当前有效发票全额，不允许部分结算") ++
    errorIf (i.invoiceStatus = .approvedSettled && payload.reviewResult ≠ .approvedSettled)
      (error "reviewResult" payload.reviewResult.text "已结算厂家结果不能回退为审核不通过"
        "保留已结算事实，使用经授权的独立账务更正流程")

/-- `_validate_final_finance_import_row` for a promotion factory result. -/
def Billing.validatePromotionRow (b : Billing) (month : Month) (row : PromotionImportRow) :
    List ImportError :=
  let payload := row.payload
  let error := ImportError.mk row.rowNumber payload.invoiceNumber
  let approved := payload.reviewResult = .approvedSettled
  let amount := parsePositiveCent payload.settlementAmountCent
  errorIf (!isInvoiceNumber payload.invoiceNumber) (error "invoiceNumber" payload.invoiceNumber
    "发票号码必须为 20 位数字" "填写有效数电专票号码") ++
  errorIf (!payload.reviewResult.isValid) (error "reviewResult" payload.reviewResult.text
    "厂家结果枚举无效" "填写 APPROVED_SETTLED 或 REJECTED_REUPLOAD") ++
  errorIf (approved && payload.settlementDate.isNone) (error "settlementDate" ""
    "日期必须使用 YYYY-MM-DD" "填写有效日期") ++
  errorIf ((approved || payload.settlementAmountCent.isSome) && amount.isNone)
    (error "settlementAmountCent" ((payload.settlementAmountCent.map toString).getD "")
      "金额必须为数据库整数范围内的正整数分" "填写大于 0 且不超过 9223372036854775807 的整数") ++
  errorIf (payload.reviewResult = .rejectedReupload && payload.rejectionReason = "")
    (error "rejectionReason" payload.rejectionReason "审核不通过原因必填" "填写厂家退回原因") ++
  errorIf (1000 < payload.rejectionReason.toList.length) (error "rejectionReason"
    payload.rejectionReason "审核不通过原因不得超过 1000 字符" "缩短厂家退回原因") ++
  promotionTargetErrors payload amount error
    (b.currentPromotionInvoice payload.invoiceNumber month)

def PromotionInvoice.reviewed (i : PromotionInvoice) (invoiceId : String) (result : ReviewResult) :
    PromotionInvoice where
  invoiceId := invoiceId
  physicalInvoiceId := i.physicalInvoiceId
  storeId := i.storeId
  versionNo := i.versionNo + 1
  versionKind := .factoryResult
  isCurrent := true
  supersedesInvoiceId := some i.invoiceId
  replacesInvoiceId := i.replacesInvoiceId
  invoiceNumber := i.invoiceNumber
  invoiceDate := i.invoiceDate
  invoiceAmountCent := i.invoiceAmountCent
  netAmountCent := i.netAmountCent
  taxAmountCent := i.taxAmountCent
  invoiceStatus := if result = .approvedSettled then .approvedSettled else .rejectedReupload

def PromotionInvoiceAllocation.copy (a : PromotionInvoiceAllocation) (ids : PromotionIds) :
    PromotionInvoiceAllocation :=
  { a with
    allocationId := ids.allocation a.statementId
    invoiceId := ids.invoiceId
    isCurrent := true }

def Billing.commitPromotionFactoryResultRow (b : Billing) (month : Month)
    (row : PromotionImportRow) (ids : PromotionIds) : Except SettlementError Billing := do
  let current ← ofOption (b.currentPromotionInvoice row.payload.invoiceNumber month)
    (unprocessable "IMPORT_TARGET_NOT_FOUND" "推广费发票当前版本不存在" (some "invoiceNumber"))
  b.lockPromotionInvoicePhysical current.physicalInvoiceId
  ensure (row.preview.all fun target => target = (current.invoiceId, current.versionNo))
    (conflict "IMPORT_PREVIEW_STALE" "推广费发票已发生版本变化，请重新上传校验"
      (some "invoiceNumber"))
  ensure ((b.validatePromotionRow month row).isEmpty &&
      row.payload.storeId = current.storeId)
    (conflict "IMPORT_PREVIEW_STALE" "导入预览的业务目标或校验条件已变化，请重新上传校验")
  ensure (row.payload.settlementAmountCent.all fun cents =>
      cents = current.invoiceAmountCent)
    (unprocessable "IMPORT_AMOUNT_MISMATCH" "导入结算金额与当前推广费发票不一致"
      (some "settlementAmountCent"))
  (b.retirePromotionInvoice current.invoiceId).issuePromotionInvoice
    (current.reviewed ids.invoiceId row.payload.reviewResult)
    ((b.allocationsOf current.invoiceId).map fun a => a.copy ids)

/-! ### Runs -/

inductive PromotionAction
  | confirm (context : RequestContext) (request : ConfirmRequest)
  | register (env : InvoiceEnv) (request : RegisterRequest)
  | lifecycle (request : LifecycleRequest)
  | commitRow (month : Month) (row : PromotionImportRow) (ids : PromotionIds)

def Db.tryPromotionAct (db : Db) (digest : List MemberIdentity → String) :
    PromotionAction → Except SettlementError Db
  | .confirm context request => do
    let billing ← db.billing.confirmStoreSettlement context request
    return { db with billing }
  | .register env request => db.registerPromotionInvoice digest env request
  | .lifecycle request => db.createPromotionInvoiceLifecycleEvent request
  | .commitRow month row ids => do
    let billing ← db.billing.commitPromotionFactoryResultRow month row ids
    return { db with billing }

/-- A request that raises is rolled back. -/
def Db.promotionAct (digest : List MemberIdentity → String) (db : Db) (action : PromotionAction) :
    Db :=
  match db.tryPromotionAct digest action with
  | .ok db' => db'
  | .error _ => db

def Db.promotionRun (digest : List MemberIdentity → String) (db : Db)
    (actions : List PromotionAction) : Db :=
  actions.foldl (Db.promotionAct digest) db

end DyData.Settlement
