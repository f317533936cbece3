import DyData.ManagementAmounts
import DyData.MonthKeys

/-!
Management invoices.  A factory result or a page correction writes a new version of the invoice of
a month for the amount the projection asks for, and records which negative months went into it.
-/

namespace DyData.Settlement

open Relational FifoNetting List
open Except (of_bind ofOption of_ofOption_bind ensure)

variable {month : Month} {storeName : String → Option String}

/-! ### Recording applications -/

structure ApplicationIdentity where
  storeId : String
  sourceStatementId : String
  targetStatementId : String
  invoiceId : Option String
  appliedAmountCent : Int
deriving DecidableEq

structure InvoiceIds where
  invoiceId : String
  application : String × String → String

def ProjectedApplication.pair (a : ProjectedApplication) : String × String :=
  (a.sourceStatementId, a.targetStatementId)

def ProjectedApplication.identity (a : ProjectedApplication) : ApplicationIdentity where
  storeId := a.storeId
  sourceStatementId := a.sourceStatementId
  targetStatementId := a.targetStatementId
  invoiceId := a.invoiceId
  appliedAmountCent := a.appliedAmountCent

def ManagementApplication.pair (a : ManagementApplication) : String × String :=
  (a.sourceStatementId, a.targetStatementId)

def ManagementApplication.identity (a : ManagementApplication) : ApplicationIdentity where
  storeId := a.storeId
  sourceStatementId := a.sourceStatementId
  targetStatementId := a.targetStatementId
  invoiceId := a.invoiceId
  appliedAmountCent := a.appliedAmountCent

def ProjectedApplication.assign (statementId invoiceId : String) (a : ProjectedApplication) :
    ProjectedApplication :=
  if a.targetStatementId = statementId then { a with invoiceId := some invoiceId } else a

/-- `desired_by_pair[pair] = normalized`: a later application of a pair replaces an earlier one
in its place. -/
def desire (desired : List ProjectedApplication) (a : ProjectedApplication) :
    List ProjectedApplication :=
  if desired.any fun d => d.pair = a.pair then
    desired.map fun d => if d.pair = a.pair then a else d
  else desired ++ [a]

def desiredByPair (applications : List ProjectedApplication) : List ProjectedApplication :=
  applications.foldl desire []

def ManagementApplication.inScope (storeId : String) (throughMonth : Month)
    (a : ManagementApplication) : Bool :=
  a.isCurrent && a.storeId = storeId && a.sourceStatementMonth ≤ throughMonth &&
    a.targetStatementMonth ≤ throughMonth

def ManagementApplication.retired (a : ManagementApplication) : ManagementApplication :=
  { a with isCurrent := false }

abbrev ApplicationTable := Table ManagementApplication.applicationId

def retireApplication (t : ApplicationTable) (applicationId : String) : ApplicationTable :=
  t.update (fun a => a.applicationId = applicationId) ManagementApplication.retired fun _ => rfl

section Synchronize

variable (digest : ApplicationIdentity → String)

def ProjectedApplication.row (a : ProjectedApplication) (ids : InvoiceIds)
    (current : Option ManagementApplication) : ManagementApplication where
  applicationId := ids.application a.pair
  storeId := a.storeId
  sourceStatementId := a.sourceStatementId
  sourceStatementMonth := a.sourceStatementMonth
  targetStatementId := a.targetStatementId
  targetStatementMonth := a.targetStatementMonth
  invoiceId := a.invoiceId
  appliedAmountCent := a.appliedAmountCent
  versionNo := (current.map fun c => c.versionNo + 1).getD 1
  isCurrent := true
  supersedesApplicationId := current.map ManagementApplication.applicationId
  projectionSha256 := digest a.identity

/-- Adding an application: `uk_management_carryforward_application_version`,
`idx_management_carryforward_current` and `ck_management_carryforward_application_amount`. -/
def addManagementApplication (t : ApplicationTable) (a : ManagementApplication) :
    Except SettlementError ApplicationTable :=
  if t.rows.any fun r => r.pair = a.pair && (r.versionNo = a.versionNo || r.isCurrent) then
    .error (.integrityError "uk_management_carryforward_application_version")
  else if a.appliedAmountCent ≤ 0 then
    .error (.integrityError "ck_management_carryforward_application_amount")
  else ofOption (t.insert? a)
    (.integrityError "uk_management_carryforward_application_id")

def materializeApplication (ids : InvoiceIds) (current : List ManagementApplication)
    (t : ApplicationTable) (a : ProjectedApplication) : Except SettlementError ApplicationTable :=
  match current.reverse.find? fun c => c.pair = a.pair with
  | some c =>
    if c.projectionSha256 = digest a.identity then .ok t
    else addManagementApplication (retireApplication t c.applicationId) (a.row digest ids (some c))
  | none => addManagementApplication t (a.row digest ids none)

/-- `_synchronize_management_carryforward_applications` for one store. -/
def Billing.synchronizeApplications (b : Billing) (ids : InvoiceIds)
    (applications : List ProjectedApplication) (statementId storeId : String)
    (throughMonth : Month) : Except SettlementError Billing := do
  let desired := desiredByPair (applications.map (·.assign statementId ids.invoiceId))
  let current := b.managementApplications.rows.filter (·.inScope storeId throughMonth)
  let t ← desired.foldlM (materializeApplication digest ids current) b.managementApplications
  return { b with
    managementApplications := t.update
      (fun a => current.any (fun c => c.applicationId = a.applicationId) &&
        !desired.any fun d => d.pair = a.pair)
      ManagementApplication.retired fun _ => rfl }

end Synchronize

/-! ### Invoice versions -/

def Billing.managementInvoice (b : Billing) (storeId : String) (month : Month) :
    Option InvoiceRecord :=
  b.invoiceRecords.rows.find? fun r => r.storeId = storeId && r.statementMonth = month &&
    r.feeDirection = .management && r.isCurrent

def InvoiceRecord.retired (r : InvoiceRecord) : InvoiceRecord := { r with isCurrent := false }

/-- The current version gives way to a new one: `uk_invoice_record_version` and
`idx_invoice_record_current_slot`. -/
def Billing.supersedeInvoice (b : Billing) (current : Option InvoiceRecord) (next : InvoiceRecord) :
    Except SettlementError Billing :=
  let retired := b.invoiceRecords.update
    (fun r => current.any fun c => c.invoiceId = r.invoiceId)
    InvoiceRecord.retired fun _ => rfl
  if retired.rows.any fun r => r.storeId = next.storeId &&
      r.statementMonth = next.statementMonth && r.feeDirection = next.feeDirection &&
      (r.versionNo = next.versionNo || r.isCurrent) then
    .error (.integrityError "uk_invoice_record_version")
  else do
    let invoiceRecords ← ofOption (retired.insert? next)
      (.integrityError "uk_invoice_record_id")
    return { b with invoiceRecords }

/-! ### Factory results -/

/-- `_management_invoice_number_conflict`. -/
def Billing.invoiceNumberConflict (b : Billing) (invoiceNumber storeId : String) (month : Month) :
    Bool :=
  (b.invoiceRecords.rows.any fun r => r.invoiceNumber = invoiceNumber &&
    (r.storeId ≠ storeId || r.statementMonth ≠ month || r.feeDirection ≠ .management)) ||
  (b.invoiceNumberRegistry.get? invoiceNumber).isSome

/-- `_management_import_payload_is_current`. -/
def Billing.payloadIsCurrent (b : Billing) (payload : ManagementPayload) : Bool :=
  ((b.importRows.rows.find? fun row => b.committedBatches.contains row.batchId &&
    b.invoiceRecords.rows.any fun r => row.targetRecordId = some r.invoiceId &&
      r.storeId = payload.storeId && r.statementMonth = payload.statementMonth &&
      r.feeDirection = .management && r.isCurrent && r.importBatchId = some row.batchId).map
    ImportRow.payload) = some payload

def isInvoiceNumber (number : String) : Bool :=
  number.toList.length = 20 && number.toList.all fun c => '0' ≤ c && c ≤ '9'

def parsePositiveCent (amount : Option Int) : Option Int :=
  amount.filter fun cents => 0 < cents && cents ≤ 9223372036854775807

/-- `exact_store`, from the store names. -/
def exactStoreErrors (storeName : String → Option String) (payload : ManagementPayload)
    (error : String → String → String → String → ImportError) : List ImportError :=
  if payload.storeId = "" then [error "storeId" "" "门店 ID 必填" "填写系统门店 ID"]
  else match storeName payload.storeId with
    | none => [error "storeId" payload.storeId "门店 ID 不存在" "使用系统中存在的门店 ID"]
    | some name =>
      if payload.storeName = "" then
        [error "storeName" "" "门店名称必填" "填写门店当前名称"]
      else if name ≠ payload.storeName then
        [error "storeName" payload.storeName "门店名称与门店 ID 不一致"
          "以门店 ID 对应的系统门店名称为准"]
      else []

def errorIf (condition : Bool) (error : ImportError) : List ImportError :=
  if condition then [error] else []

/-- `_validate_final_finance_import_row` for a management factory result. -/
def Billing.validateManagementRow (b : Billing) (storeName : String → Option String)
    (month : Month) (row : ImportRow) : List ImportError :=
  let payload := row.payload
  let businessKey := payload.storeId ++ "|" ++ monthText month
  let error := ImportError.mk row.rowNumber businessKey
  let amount := parsePositiveCent payload.deductionAmountCent
  exactStoreErrors storeName payload error ++
  errorIf (payload.statementMonth ≠ month) (error "statementMonth"
    (monthText payload.statementMonth) "行账期必须与批次账期一致" ("填写 " ++ monthText month)) ++
  errorIf (!isInvoiceNumber payload.invoiceNumber) (error "invoiceNumber" payload.invoiceNumber
    "发票号码必须为 20 位数字" "填写有效数电专票号码") ++
  errorIf payload.invoiceDate.isNone (error "invoiceDate" "" "日期必须使用 YYYY-MM-DD"
    "填写有效日期") ++
  errorIf payload.deductionDate.isNone (error "deductionDate" "" "日期必须使用 YYYY-MM-DD"
    "填写有效日期") ++
  errorIf amount.isNone (error "deductionAmountCent"
    ((payload.deductionAmountCent.map toString).getD "") "金额必须为数据库整数范围内的正整数分"
    "填写大于 0 且不超过 9223372036854775807 的整数") ++
  errorIf (b.invoiceNumberConflict payload.invoiceNumber payload.storeId month)
    (error "invoiceNumber" payload.invoiceNumber "发票号码已用于其他门店、账期或费用方向"
      "核对票据归属，禁止重复登记") ++
  if b.payloadIsCurrent payload then []
  else b.managementAmountErrors row.rowNumber businessKey payload.storeId month amount

def ImportRow.invoice (row : ImportRow) (month : Month) (ids : InvoiceIds) (s : Statement)
    (current : Option InvoiceRecord) : InvoiceRecord where
  invoiceId := ids.invoiceId
  storeId := row.payload.storeId
  statementMonth := month
  statementId := s.statementId
  feeDirection := .management
  versionNo := (current.map fun c => c.versionNo + 1).getD 1
  isCurrent := true
  invoiceNumber := row.payload.invoiceNumber
  invoiceDate := row.payload.invoiceDate.getD 0
  invoiceAmountCent := row.payload.deductionAmountCent.getD 0
  invoiceStatus := .approvedSettled
  importBatchId := some row.batchId

def Billing.commitManagementFactoryResultRow (b : Billing)
    (digest : ApplicationIdentity → String) (storeName : String → Option String) (month : Month)
    (row : ImportRow) (ids : InvoiceIds) : Except SettlementError Billing := do
  let s ← ofOption (b.currentStatement row.payload.storeId month)
    (unprocessable "IMPORT_TARGET_NOT_FOUND" "管理服务费账期不存在当前账单" (some "businessKey"))
  ensure (b.validateManagementRow storeName month row).isEmpty
    (conflict "IMPORT_PREVIEW_STALE" "导入预览的业务目标或校验条件已变化，请重新上传校验")
  let projection := b.managementInvoiceableProjection (horizon row.payload.storeId month)
  let current := b.managementInvoice row.payload.storeId month
  let b ← b.supersedeInvoice current (row.invoice month ids s current)
  let b ← b.synchronizeApplications digest ids projection.applications s.statementId
    row.payload.storeId month
  return { b with importRows := b.importRows.put { row with targetRecordId := some ids.invoiceId } }

/-! ### Page corrections -/

structure CorrectionRequest where
  key : RequestKey
  auditId : String
  ids : InvoiceIds
  storeId : String
  statementMonth : Month
  invoiceNumber : String
  changeReason : String
  readVersion : Nat
  invoiceAmountCent : Int
  deductionAmountCent : Int
  invoiceDate : Day

/-- The amount the projection gives the bill of an invoice when that invoice is left out. -/
def Billing.projectedAmount (b : Billing) (current : InvoiceRecord) (scope : ProjectionScope) :
    Int :=
  (((b.managementInvoiceableProjection scope).periods.find? fun p =>
    p.statementId = current.statementId).map Period.invoiceableAmountCent).getD 0

def CorrectionRequest.invoice (r : CorrectionRequest) (current : InvoiceRecord) :
    InvoiceRecord where
  invoiceId := r.ids.invoiceId
  storeId := current.storeId
  statementMonth := current.statementMonth
  statementId := current.statementId
  feeDirection := .management
  versionNo := current.versionNo + 1
  isCurrent := true
  invoiceNumber := r.invoiceNumber
  invoiceDate := r.invoiceDate
  invoiceAmountCent := r.invoiceAmountCent
  invoiceStatus := .approvedSettled
  importBatchId := none

/-- The part of `correct_management_invoice` after the replay check. -/
def Billing.correctManagementInvoice (b : Billing) (digest : ApplicationIdentity → String)
    (r : CorrectionRequest) : Except SettlementError Billing := do
  ensure (isInvoiceNumber r.invoiceNumber)
    (unprocessable "VALIDATION_FAILED" "发票号码必须为 20 位 ASCII 数字" (some "invoiceNumber"))
  let reason := PythonText.strip r.changeReason
  ensure (reason ≠ "" && reason.toList.length ≤ 1000)
    (unprocessable "VALIDATION_FAILED" "更正原因必填且不得超过 1000 字" (some "changeReason"))
  ensure (0 < r.readVersion) versionRequired
  ensure (0 < r.invoiceAmountCent) (unprocessable "VALIDATION_FAILED"
    "invoiceAmountCent 必须为正整数分" (some "invoiceAmountCent"))
  ensure (0 < r.deductionAmountCent) (unprocessable "VALIDATION_FAILED"
    "deductionAmountCent 必须为正整数分" (some "deductionAmountCent"))
  ensure (r.invoiceAmountCent = r.deductionAmountCent)
    (unprocessable "MANAGEMENT_AMOUNT_MISMATCH" "发票金额与厂家扣款金额必须全额一致"
      (some "deductionAmountCent"))
  ensure (!b.invoiceNumberConflict r.invoiceNumber r.storeId r.statementMonth)
    (conflict "INVOICE_NUMBER_ALREADY_USED" "发票号码已用于其他门店、账期或费用方向"
      (some "invoiceNumber"))
  let current ← ofOption ((b.managementInvoice r.storeId r.statementMonth).filter
    fun c => !c.isTombstone) (notFound "当前管理服务费发票记录不存在")
  ensure (current.versionNo = r.readVersion)
    (conflict "VERSION_CONFLICT" "管理服务费发票版本已变化，请刷新后重试" (some "readVersion"))
  let scope := { horizon r.storeId r.statementMonth with
    excludedInvoiceIds := [current.invoiceId] }
  ensure (r.invoiceAmountCent = b.projectedAmount current scope)
    (unprocessable "MANAGEMENT_AMOUNT_MISMATCH" "页面更正不得改变当前有效管理服务费结转后全额"
      (some "invoiceAmountCent"))
  let b' ← b.supersedeInvoice (some current) (r.invoice current)
  b'.synchronizeApplications digest r.ids (b.managementInvoiceableProjection scope).applications
    current.statementId r.storeId r.statementMonth

def Db.correctManagementInvoice (db : Db) (digest : ApplicationIdentity → String)
    (r : CorrectionRequest) : Except SettlementError Db :=
  match db.auditOf r.key.keyHash with
  | some replay => do
    ensure (replay.operationType = "MANAGEMENT_INVOICE_CORRECTION" &&
      replay.requestPayloadSha256 = some r.key.payloadSha256) keyReused
    ensure (db.billing.invoiceRecords.get? replay.targetId).isSome
      (conflict "IDEMPOTENCY_REPLAY_TARGET_MISSING" "幂等重放目标不存在，请联系管理员核对审计记录")
    return db
  | none => do
    let billing ← db.billing.correctManagementInvoice digest r
    { db with billing }.addAudit r.auditId "MANAGEMENT_INVOICE_CORRECTION" "INVOICE_RECORD"
      r.ids.invoiceId r.key

/-! ### What a new invoice version does -/

/-- The current version is retired and `next` stands in its place. -/
structure Superseded (b : Billing) (current : Option InvoiceRecord) (next : InvoiceRecord)
    (b' : Billing) : Prop where
  frame : b' = { b with invoiceRecords := b'.invoiceRecords }
  rows : b'.invoiceRecords.rows = (b.invoiceRecords.rows.map fun r =>
    if current.any fun c => c.invoiceId = r.invoiceId then r.retired else r) ++ [next]
  fresh : ∀ r ∈ b.invoiceRecords.rows, r.invoiceId ≠ next.invoiceId
  slot : ∀ r ∈ b.invoiceRecords.rows, r.isCurrent = true → r.storeId = next.storeId →
    r.statementMonth = next.statementMonth → r.feeDirection = next.feeDirection →
    ∃ c, current = some c ∧ c.invoiceId = r.invoiceId

theorem supersedeInvoice_ok {b b' : Billing} {current : Option InvoiceRecord} {next : InvoiceRecord}
    (h : b.supersedeInvoice current next = .ok b') : Superseded b current next b' := by
  unfold Billing.supersedeInvoice at h
  dsimp only at h
  split at h
  · cases h
  · rename_i hgrd
    obtain ⟨invoiceRecords, hins, h⟩ := of_ofOption_bind h
    cases h
    have hrows := Table.rows_insert? hins
    refine ⟨rfl, hrows, ?_, ?_⟩
    · intro r hr hid
      have hnd := invoiceRecords.nodup
      rw [hrows, map_append, nodup_append] at hnd
      refine hnd.2.2 r.invoiceId ?_ next.invoiceId mem_cons_self hid
      refine mem_map.mpr ⟨_, (Table.mem_update _ _ _ _).mpr ⟨r, hr, rfl⟩, ?_⟩
      split <;> rfl
    · intro r hr hcur hst hmo hdir
      by_contra hoth
      refine hgrd (any_eq_true.mpr ⟨r, ?_, ?_⟩)
      · refine (Table.mem_update _ _ _ _).mpr ⟨r, hr, if_neg fun hany => hoth ?_⟩
        cases current with
        | none => cases hany
        | some c => exact ⟨c, rfl, of_decide_eq_true hany⟩
      · simp [hst, hmo, hdir, hcur]

namespace Superseded

variable {b b' : Billing} {current : Option InvoiceRecord} {next : InvoiceRecord}

variable (h : Superseded b current next b')
include h

theorem mem_next : next ∈ b'.invoiceRecords.rows := by
  rw [h.rows]
  exact mem_append_right _ mem_cons_self

/-- The records that were there are still there, current or retired. -/
theorem mem_of_mem {r : InvoiceRecord} (hr : r ∈ b.invoiceRecords.rows) :
    r ∈ b'.invoiceRecords.rows ∨ r.retired ∈ b'.invoiceRecords.rows := by
  rw [h.rows]
  by_cases hret : (current.any fun c => decide (c.invoiceId = r.invoiceId)) = true
  · exact .inr (mem_append_left _ (mem_map.mpr ⟨r, hr, if_pos hret⟩))
  · exact .inl (mem_append_left _ (mem_map.mpr ⟨r, hr, if_neg hret⟩))

/-- A current record is the new one, or stood before in another slot. -/
theorem of_current {r : InvoiceRecord} (hr : r ∈ b'.invoiceRecords.rows)
    (hcur : r.isCurrent = true) :
    r = next ∨ r ∈ b.invoiceRecords.rows ∧ r.invoiceId ≠ next.invoiceId ∧
      ¬ (r.storeId = next.storeId ∧ r.statementMonth = next.statementMonth ∧
        r.feeDirection = next.feeDirection) ∧ ∀ c, current = some c → c.invoiceId ≠ r.invoiceId := by
  rw [h.rows] at hr
  rcases mem_append.mp hr with hr | hr
  · obtain ⟨old, hold, heq⟩ := mem_map.mp hr
    split at heq
    · rw [← heq] at hcur
      cases hcur
    · rename_i hkept
      subst heq
      have hoth : ∀ c, current = some c → c.invoiceId ≠ old.invoiceId := by
        rintro c rfl hid
        exact hkept (decide_eq_true hid)
      refine .inr ⟨hold, h.fresh old hold, ?_, hoth⟩
      rintro ⟨hst, hmo, hdir⟩
      obtain ⟨c, hc, hid⟩ := h.slot old hold hcur hst hmo hdir
      exact hoth c hc hid
  · exact .inl (mem_singleton.mp hr)

end Superseded

theorem synchronizeApplications_frame {b b' : Billing} {digest : ApplicationIdentity → String}
    {ids : InvoiceIds} {applications : List ProjectedApplication} {statementId storeId : String}
    (h : b.synchronizeApplications digest ids applications statementId storeId month = .ok b') :
    b' = { b with managementApplications := b'.managementApplications } := by
  obtain ⟨_, _, h⟩ := of_bind h
  cases h
  rfl

/-- A row whose payload is still current has an imported invoice in its slot. -/
theorem exists_invoice_of_payloadIsCurrent {b : Billing} {payload : ManagementPayload}
    (h : b.payloadIsCurrent payload = true) :
    ∃ old ∈ b.importRows.rows, ∃ r ∈ b.invoiceRecords.rows, old.payload = payload ∧
      old.targetRecordId = some r.invoiceId ∧ r.storeId = payload.storeId ∧
      r.statementMonth = payload.statementMonth ∧ r.feeDirection = .management ∧
      r.isCurrent = true := by
  unfold Billing.payloadIsCurrent at h
  rw [decide_eq_true_eq, Option.map_eq_some_iff] at h
  obtain ⟨old, hfind, hpay⟩ := h
  have hold := find?_some hfind
  rw [Bool.and_eq_true, any_eq_true] at hold
  obtain ⟨-, r, hr, htgt⟩ := hold
  simp only [bool_to_prop] at htgt
  exact ⟨old, mem_of_find?_eq_some hfind, r, hr, hpay, htgt.1.1.1.1.1,
    htgt.1.1.1.1.2, htgt.1.1.1.2, htgt.1.1.2, htgt.1.2⟩

theorem errorIf_eq_nil_iff {condition : Bool} {error : ImportError} :
    errorIf condition error = [] ↔ condition = false := by
  cases condition <;> simp [errorIf]

theorem storeId_ne_of_exactStoreErrors {payload : ManagementPayload}
    {error : String → String → String → String → ImportError}
    (h : exactStoreErrors storeName payload error = []) : payload.storeId ≠ "" := by
  intro hnil
  rw [exactStoreErrors, if_pos hnil] at h
  cases h

theorem exists_period_of_amountErrors {b : Billing} {rowNumber : Nat} {businessKey storeId : String}
    {cents : Int} (hst : storeId ≠ "")
    (h : b.managementAmountErrors rowNumber businessKey storeId month (some cents) = []) :
    ∃ p, (b.managementInvoiceableProjection (horizon storeId month)).periods.find?
        (fun p => decide (p.statementMonth = month)) = some p ∧
      p.invoiceId = none ∧ 0 < p.invoiceableAmountCent ∧ cents = p.invoiceableAmountCent := by
  cases hfind : (b.managementInvoiceableProjection (horizon storeId month)).periods.find?
      (fun p => decide (p.statementMonth = month)) with
  | none =>
    unfold Billing.managementAmountErrors at h
    rw [hfind] at h
    dsimp only at h
    rw [if_pos hst] at h
    cases h
  | some p =>
    have hinv : p.invoiceId = none := by
      unfold Billing.managementAmountErrors at h
      rw [hfind] at h
      dsimp only at h
      split at h
      · cases h
      · rename_i hnone
        exact Option.not_isSome_iff_eq_none.mp hnone
    exact ⟨p, rfl, hinv, (managementAmountErrors_eq_nil_iff hfind hinv).mp h⟩

/-- A row without errors gives a positive amount, and either repeats its current invoice or gives
what is invoiceable up to its month. -/
theorem validateManagementRow_nil {b : Billing} {row : ImportRow}
    (h : b.validateManagementRow storeName month row = []) :
    ∃ cents, row.payload.deductionAmountCent = some cents ∧ 0 < cents ∧
      row.payload.statementMonth = month ∧
      (b.payloadIsCurrent row.payload = true ∨
        ∃ p, (b.managementInvoiceableProjection (horizon row.payload.storeId month)).periods.find?
            (fun p => decide (p.statementMonth = month)) = some p ∧
          p.invoiceId = none ∧ 0 < p.invoiceableAmountCent ∧ cents = p.invoiceableAmountCent) := by
  unfold Billing.validateManagementRow at h
  simp only [append_eq_nil_iff, errorIf_eq_nil_iff] at h
  obtain ⟨⟨⟨⟨⟨⟨⟨hst, hmo⟩, _⟩, _⟩, _⟩, hamt⟩, _⟩, hcur⟩ := h
  obtain ⟨cents, hcents⟩ := Option.isSome_iff_exists.mp (Option.isNone_eq_false_iff.mp hamt)
  have hpars := hcents
  rw [parsePositiveCent, Option.filter_eq_some_iff] at hpars
  have hpos := of_decide_eq_true (Bool.and_eq_true_iff.mp hpars.2).1
  refine ⟨cents, hpars.1, hpos, by simpa using hmo, ?_⟩
  split at hcur
  · exact .inl (by assumption)
  · rw [hcents] at hcur
    exact .inr (exists_period_of_amountErrors (storeId_ne_of_exactStoreErrors hst) hcur)

theorem commitManagementFactoryResultRow_ok {b b' : Billing} {digest : ApplicationIdentity → String}
    {row : ImportRow} {ids : InvoiceIds}
    (h : b.commitManagementFactoryResultRow digest storeName month row ids = .ok b') :
    ∃ s b₁ b₂, b.currentStatement row.payload.storeId month = some s ∧
      b.validateManagementRow storeName month row = [] ∧
      Superseded b (b.managementInvoice row.payload.storeId month)
        (row.invoice month ids s (b.managementInvoice row.payload.storeId month)) b₁ ∧
      b₁.synchronizeApplications digest ids
        (b.managementInvoiceableProjection (horizon row.payload.storeId month)).applications
        s.statementId row.payload.storeId month = .ok b₂ ∧
      b' = { b₂ with
        importRows := b₂.importRows.put { row with targetRecordId := some ids.invoiceId } } := by
  obtain ⟨s, hs, h⟩ := of_ofOption_bind h
  obtain ⟨_, hval, h⟩ := of_bind h
  obtain ⟨b₁, hsup, h⟩ := of_bind h
  obtain ⟨b₂, hsync, h⟩ := of_bind h
  rw [Except.ensure_eq_ok_iff, List.isEmpty_iff] at hval
  cases h
  exact ⟨s, b₁, b₂, hs, hval, supersedeInvoice_ok hsup, hsync, rfl⟩

theorem correctManagementInvoice_ok {b b' : Billing} {digest : ApplicationIdentity → String}
    {r : CorrectionRequest} (h : b.correctManagementInvoice digest r = .ok b') :
    ∃ current b₁, b.managementInvoice r.storeId r.statementMonth = some current ∧
      0 < r.invoiceAmountCent ∧
      r.invoiceAmountCent = b.projectedAmount current
        { horizon r.storeId r.statementMonth with excludedInvoiceIds := [current.invoiceId] } ∧
      Superseded b (some current) (r.invoice current) b₁ ∧
      b₁.synchronizeApplications digest r.ids (b.managementInvoiceableProjection
        { horizon r.storeId r.statementMonth with
          excludedInvoiceIds := [current.invoiceId] }).applications
        current.statementId r.storeId r.statementMonth = .ok b' := by
  iterate 3 obtain ⟨_, -, h⟩ := of_bind h
  obtain ⟨_, hpos, h⟩ := of_bind h
  iterate 3 obtain ⟨_, -, h⟩ := of_bind h
  obtain ⟨current, hcur, h⟩ := of_ofOption_bind h
  obtain ⟨_, _, h⟩ := of_bind h
  obtain ⟨_, hamt, h⟩ := of_bind h
  obtain ⟨b₁, hsup, h⟩ := of_bind h
  rw [Except.ensure_eq_ok_iff, decide_eq_true_eq] at hpos hamt
  rw [Option.filter_eq_some_iff] at hcur
  exact ⟨current, b₁, hcur.1, hpos, hamt, supersedeInvoice_ok hsup, h⟩

/-! ### Runs -/

inductive FinanceAction
  | bill (action : BillAction)
  | commitRow (storeName : String → Option String) (month : Month) (row : ImportRow)
      (ids : InvoiceIds)
  | closeBatch (batchId : String)
  | correct (request : CorrectionRequest)

def Db.tryFinanceAct (db : Db) (digest : ApplicationIdentity → String) :
    FinanceAction → Except SettlementError Db
  | .bill action => db.tryBillAct action
  | .commitRow storeName month row ids => do
    let billing ← db.billing.commitManagementFactoryResultRow digest storeName month row ids
    return { db with billing }
  | .closeBatch batchId => .ok { db with billing := { db.billing with
      committedBatches := db.billing.committedBatches ++ [batchId] } }
  | .correct request => db.correctManagementInvoice digest request

/-- A request that raises is rolled back. -/
def Db.financeAct (digest : ApplicationIdentity → String) (db : Db) (action : FinanceAction) : Db :=
  match db.tryFinanceAct digest action with
  | .ok db' => db'
  | .error _ => db

def Db.financeRun (digest : ApplicationIdentity → String) (db : Db)
    (actions : List FinanceAction) : Db :=
  actions.foldl (Db.financeAct digest) db

end DyData.Settlement
