import DyData.BillingDispute
import DyData.PythonText

/-!
What a store and an administrator can do with a bill before it is invoiced: confirm a direction,
dispute orders of it, withdraw a dispute, and move a dispute on.
-/

namespace DyData.Settlement

open Relational
open PythonText (strip)
open Except (of_bind ofOption of_ofOption_bind of_ensure_bind ensure)

variable {b b' : Billing} {context : RequestContext} {db db' : Db}

def DisputeStatus.isOpen : DisputeStatus → Bool
  | .pending | .inReview | .pendingAdminApproval => true
  | .acceptedWithAdjustment | .rejected | .withdrawn => false

def Dispute.freezes (d : Dispute) (statementId : String) (direction : Direction) : Bool :=
  d.statementId = statementId && d.status.isOpen && d.feeDirection = direction

def Billing.frozenAmount (b : Billing) (statementId : String) (direction : Direction) : Int :=
  ((b.disputes.rows.filter fun d => d.freezes statementId direction).map
    Dispute.disputedAmountCent).sum

/-- `_statement_confirmable_amounts`. -/
def Billing.confirmableAmount (b : Billing) (s : Statement) : Direction → Int
  | .promotion => s.promotionNetFeeCent - b.frozenAmount s.statementId .promotion
  | .management => max (s.managementNetFeeCent - b.frozenAmount s.statementId .management) 0

def Billing.confirmationOf (b : Billing) (statementId : String) (direction : Direction) :
    Option StatementConfirmation :=
  b.confirmations.rows.find? fun c => c.statementId = statementId && c.feeDirection = direction

def Billing.currentStatement (b : Billing) (storeId : String) (month : Month) :
    Option Statement :=
  b.statements.rows.find? fun s => s.storeId = storeId && s.statementMonth = month && s.isCurrent

def versionRequired : SettlementError :=
  unprocessable "VALIDATION_FAILED" "readVersion 必须为正整数" (some "readVersion")

def keyReused : SettlementError :=
  conflict "IDEMPOTENCY_KEY_REUSED" "Idempotency-Key 已用于不同请求"

structure RequestKey where
  keyHash : String
  payloadSha256 : String

/-! ### Confirming -/

structure ConfirmRequest where
  key : RequestKey
  confirmationId : String
  statementId : String
  feeDirection : Direction
  confirmedAmountCent : Int
  readVersion : Nat

def ConfirmRequest.confirmation (r : ConfirmRequest) (now : Time) (amount : Int) :
    StatementConfirmation where
  confirmationId := r.confirmationId
  statementId := r.statementId
  feeDirection := r.feeDirection
  confirmedAmountCent := amount
  confirmedAt := now
  idempotencyKeyHash := some r.key.keyHash
  requestPayloadSha256 := some r.key.payloadSha256

/-- The part of `confirm_store_settlement` after the replay check. -/
def Billing.recordConfirmation (b : Billing) (context : RequestContext) (r : ConfirmRequest)
    (s : Statement) : Except SettlementError Billing := do
  ensure (s.isCurrent && s.versionNo = r.readVersion) statementVersionConflict
  let expected := b.confirmableAmount s r.feeDirection
  ensure (r.confirmedAmountCent = expected)
    (unprocessable "VALIDATION_FAILED" "确认金额必须等于当前账单净额" (some "confirmedAmountCent"))
  ensure (b.confirmationOf r.statementId r.feeDirection).isNone
    (conflict "CONFIRMATION_ALREADY_RECORDED" "该费用方向已确认")
  (b.addConfirmation (r.confirmation context.now expected)).mapError fun _ =>
    conflict "CONFIRMATION_ALREADY_RECORDED" "该费用方向已确认或幂等键已被使用"

def Billing.confirmStoreSettlement (b : Billing) (context : RequestContext)
    (r : ConfirmRequest) : Except SettlementError Billing := do
  let s ← ofOption (b.statements.get? r.statementId)
    (notFound "账单不存在" (some "statementId"))
  ensure (1 ≤ r.readVersion) versionRequired
  match b.confirmations.rows.find? fun c => c.idempotencyKeyHash = some r.key.keyHash with
  | some replay =>
    ensure (replay.statementId = s.statementId &&
      replay.requestPayloadSha256 = some r.key.payloadSha256) keyReused
    return b
  | none => b.recordConfirmation context r s

theorem recordConfirmation_ok {r : ConfirmRequest} {s : Statement}
    (h : b.recordConfirmation context r s = .ok b') :
    s.isCurrent = true ∧ r.confirmedAmountCent = b.confirmableAmount s r.feeDirection ∧
    b.confirmationOf r.statementId r.feeDirection = none ∧
    b'.confirmations.rows = b.confirmations.rows ++
      [r.confirmation context.now (b.confirmableAmount s r.feeDirection)] ∧
    b' = { b with confirmations := b'.confirmations } := by
  obtain ⟨hcur, h⟩ := of_ensure_bind h
  obtain ⟨hamt, h⟩ := of_ensure_bind h
  obtain ⟨hnone, h⟩ := of_ensure_bind h
  rw [Except.mapError_eq_ok_iff] at h
  obtain ⟨_, hrows, hfrm⟩ := addConfirmation_ok h
  simp only [bool_to_prop] at hcur hamt
  exact ⟨hcur.1, hamt, Option.isNone_iff_eq_none.mp hnone, hrows, hfrm⟩

/-- A confirmation request that returned replayed an old one or recorded a new one. -/
theorem confirmStoreSettlement_ok {r : ConfirmRequest}
    (h : b.confirmStoreSettlement context r = .ok b') :
    b' = b ∨ ∃ s, b.statements.get? r.statementId = some s ∧
      b.recordConfirmation context r s = .ok b' := by
  obtain ⟨s, hs, h⟩ := of_ofOption_bind h
  obtain ⟨_, _, h⟩ := of_bind h
  split at h
  · obtain ⟨_, _, h⟩ := of_bind h
    cases h
    exact .inl rfl
  · exact .inr ⟨s, hs, h⟩

/-! ### Disputing -/

structure DisputeOrderRequest where
  orderId : String
  couponId : Option String
  disputedAmountCent : Int
deriving DecidableEq

structure DisputeRequest where
  key : RequestKey
  disputeId : String
  statementId : String
  feeDirection : Direction
  disputedAmountCent : Int
  orders : List DisputeOrderRequest
  readVersion : Nat

def disputeValidation (field message : String) : SettlementError :=
  unprocessable "VALIDATION_FAILED" message (some field)

/-- One order of `_parse_dispute_payload`, with the pairs seen before it. -/
def parseDisputeOrder (disputeId : String) (parsed : List DisputeOrder)
    (o : DisputeOrderRequest) : Except SettlementError (List DisputeOrder) := do
  let orderId := strip o.orderId
  let couponId := o.couponId.map strip
  ensure (orderId ≠ "") (disputeValidation "orders" "orderId 为必填项")
  ensure (couponId ≠ some "") (disputeValidation "orders" "couponId 必须为非空字符串")
  ensure (0 < o.disputedAmountCent)
    (disputeValidation "orders" "订单 disputedAmountCent 必须为正整数")
  ensure (!parsed.any fun p => p.orderId = orderId && p.couponId = couponId)
    (disputeValidation "orders" "争议订单和券不得重复")
  return parsed ++ [{ disputeId, orderId, couponId, disputedAmountCent := o.disputedAmountCent }]

/-- `_parse_dispute_payload`, the amounts and the orders. -/
def DisputeRequest.parse (r : DisputeRequest) : Except SettlementError (List DisputeOrder) := do
  ensure (0 < r.disputedAmountCent)
    (disputeValidation "disputedAmountCent" "disputedAmountCent 必须为正整数")
  ensure (1 ≤ r.readVersion) versionRequired
  ensure (!r.orders.isEmpty) (disputeValidation "orders" "orders 至少包含一条争议订单")
  let orders ← r.orders.foldlM (parseDisputeOrder r.disputeId) []
  ensure ((orders.map DisputeOrder.disputedAmountCent).sum = r.disputedAmountCent)
    (disputeValidation "orders" "订单争议金额合计必须等于异议总金额")
  return orders

def Billing.holdsOrder (b : Billing) (s : Statement) (direction : Direction) (o : DisputeOrder) :
    Bool :=
  b.entries.rows.any fun e => e.statementId = s.statementId && e.feeDirection = direction &&
    e.orderId = o.orderId && (o.couponId.isNone || o.couponId = some e.couponId)

def DisputeRequest.dispute (r : DisputeRequest) (s : Statement) : Dispute where
  disputeId := r.disputeId
  statementId := s.statementId
  storeId := s.storeId
  statementMonth := s.statementMonth
  feeDirection := r.feeDirection
  status := .pending
  disputedAmountCent := r.disputedAmountCent
  idempotencyKeyHash := some r.key.keyHash
  requestPayloadSha256 := some r.key.payloadSha256

def Billing.createStoreSettlementDispute (b : Billing) (r : DisputeRequest) :
    Except SettlementError Billing := do
  let s ← ofOption (b.statements.get? r.statementId)
    (notFound "账单不存在" (some "statementId"))
  let orders ← r.parse
  match b.disputes.rows.find? fun d => d.idempotencyKeyHash = some r.key.keyHash with
  | some replay =>
    ensure (replay.statementId = s.statementId &&
      replay.requestPayloadSha256 = some r.key.payloadSha256) keyReused
    return b
  | none =>
    ensure (s.isCurrent && s.versionNo = r.readVersion) statementVersionConflict
    ensure (orders.all (b.holdsOrder s r.feeDirection))
      (unprocessable "DISPUTE_ORDER_NOT_IN_STATEMENT" "争议订单或券不属于当前账单版本和费用方向"
        (some "orders"))
    let disputes ← ofOption (b.disputes.insert? (r.dispute s))
      (conflict "DISPUTE_SUBMIT_CONFLICT" "异议提交冲突，请刷新后重试")
    return { b with disputes, disputeOrders := b.disputeOrders ++ orders }

theorem createStoreSettlementDispute_ok {r : DisputeRequest}
    (h : b.createStoreSettlementDispute r = .ok b') :
    b' = b ∨ ∃ s, 0 < r.disputedAmountCent ∧ b'.disputes.rows = b.disputes.rows ++ [r.dispute s] ∧
      b' = { b with disputes := b'.disputes, disputeOrders := b'.disputeOrders } := by
  obtain ⟨s, _, h⟩ := of_bind h
  obtain ⟨_, hparse, h⟩ := of_bind h
  obtain ⟨hpos, _⟩ := of_ensure_bind hparse
  rw [decide_eq_true_eq] at hpos
  split at h
  · obtain ⟨_, _, h⟩ := of_bind h
    cases h
    exact .inl rfl
  · obtain ⟨_, _, h⟩ := of_bind h
    obtain ⟨_, _, h⟩ := of_bind h
    obtain ⟨_, hins, h⟩ := of_ofOption_bind h
    cases h
    exact .inr ⟨s, hpos, Table.rows_insert? hins, rfl⟩

/-! ### Deciding a dispute -/

def Db.auditOf (db : Db) (keyHash : String) : Option OperationAudit :=
  db.audits.rows.find? fun a => a.idempotencyKeyHash = some keyHash

def OperationAudit.replays (a : OperationAudit) (key : RequestKey) (targetId operation : String) :
    Bool :=
  a.requestPayloadSha256 = some key.payloadSha256 && a.targetId = targetId &&
    a.operationType = operation

def Db.addAudit (db : Db) (auditId operationType targetType targetId : String)
    (key : RequestKey) : Except SettlementError Db := do
  let audits ← ofOption (db.audits.insert? {
    auditId
    operationType
    targetType
    targetId
    resultStatus := 1
    idempotencyKeyHash := some key.keyHash
    requestPayloadSha256 := some key.payloadSha256 })
    (.integrityError "uk_finance_operation_audit_id")
  return { db with audits }

def Db.updateDispute (db : Db) (disputeId : String) (f : Dispute → Dispute)
    (hf : ∀ d, (f d).disputeId = d.disputeId) : Db :=
  { db with billing := { db.billing with
      disputes := db.billing.disputes.update (fun d => d.disputeId = disputeId) f hf } }

/-- `_lock_dispute_mutation`: the current bill of the disputed month. -/
def Db.lockDisputeMutation (db : Db) (d : Dispute) : Except SettlementError Statement :=
  ofOption (db.billing.currentStatement d.storeId d.statementMonth)
    (conflict "STATEMENT_VERSION_CONFLICT" "当前账单版本已变化，请刷新后重试")

structure WithdrawRequest where
  key : RequestKey
  auditId : String
  disputeId : String
  reason : String
  readVersion : Nat

def Dispute.withdraw (reason : String) (d : Dispute) : Dispute :=
  { d with
    status := .withdrawn
    resolutionNote := if d.resultStatementId.isNone then some (strip reason)
      else d.resolutionNote }

def Db.withdrawStoreSettlementDispute (db : Db) (r : WithdrawRequest) :
    Except SettlementError Db := do
  let d ← ofOption (db.billing.disputes.get? r.disputeId)
    (notFound "异议不存在" (some "disputeId"))
  let current ← db.lockDisputeMutation d
  match db.auditOf r.key.keyHash with
  | some replay =>
    ensure (replay.replays r.key d.disputeId "DISPUTE_WITHDRAW") keyReused
    return db
  | none =>
    ensure (strip r.reason ≠ "") (disputeValidation "reason" "reason 为必填项")
    ensure (1 ≤ r.readVersion) versionRequired
    ensure (current.versionNo = r.readVersion) statementVersionConflict
    ensure (d.status ≠ .withdrawn) (conflict "DISPUTE_ALREADY_WITHDRAWN" "异议已撤回")
    (db.updateDispute d.disputeId (Dispute.withdraw r.reason) fun _ => rfl).addAudit r.auditId
      "DISPUTE_WITHDRAW" "SETTLEMENT_DISPUTE" d.disputeId r.key

inductive DisputeTarget
  | inReview | pendingAdminApproval | acceptedWithAdjustment | rejected
deriving DecidableEq

def DisputeTarget.status : DisputeTarget → DisputeStatus
  | .inReview => .inReview
  | .pendingAdminApproval => .pendingAdminApproval
  | .acceptedWithAdjustment => .acceptedWithAdjustment
  | .rejected => .rejected

/-- `DISPUTE_TRANSITIONS`. -/
def DisputeStatus.transitions : DisputeStatus → List DisputeTarget
  | .pending => [.inReview, .acceptedWithAdjustment, .rejected]
  | .inReview => [.pendingAdminApproval, .rejected]
  | .pendingAdminApproval => [.acceptedWithAdjustment, .rejected]
  | _ => []

structure TransitionRequest where
  key : RequestKey
  auditId : String
  ids : VersionIds
  disputeId : String
  target : DisputeTarget
  resolutionNote : String
  readVersion : Nat
  adjustmentAmountCent : Option Int

def Dispute.decide (target : DisputeTarget) (note : String) (result : Option String)
    (d : Dispute) : Dispute :=
  { d with
    status := target.status
    resolutionNote := some (strip note)
    resultStatementId := result.or d.resultStatementId }

def Db.acceptedVersion (db : Db) (context : RequestContext) (r : TransitionRequest) (d : Dispute)
    (current : Statement) : Except SettlementError (Db × Option String) :=
  match r.target with
  | .acceptedWithAdjustment => do
    let (db, version) ← db.createDisputeStatementVersion r.ids context d current
      (r.adjustmentAmountCent.getD 0)
    return (db, some version.statementId)
  | _ => .ok (db, none)

def Db.transitionAdminDispute (db : Db) (context : RequestContext) (r : TransitionRequest) :
    Except SettlementError Db := do
  let d ← ofOption (db.billing.disputes.get? r.disputeId)
    (notFound "异议不存在" (some "disputeId"))
  let current ← db.lockDisputeMutation d
  match db.auditOf r.key.keyHash with
  | some replay =>
    ensure (replay.replays r.key d.disputeId "DISPUTE_TRANSITION") keyReused
    return db
  | none =>
    ensure (d.status.transitions.contains r.target)
      (conflict "DISPUTE_STATUS_CONFLICT" "异议状态已变化或不允许执行该流转" (some "targetStatus"))
    ensure (strip r.resolutionNote ≠ "")
      (disputeValidation "resolutionNote" "resolutionNote 为必填项")
    ensure (1 ≤ r.readVersion) versionRequired
    ensure (r.target ≠ .acceptedWithAdjustment || r.adjustmentAmountCent.any (· ≠ 0))
      (disputeValidation "adjustmentAmountCent" "成立并调整时必须提交非零整数调整金额")
    ensure (current.versionNo = r.readVersion) statementVersionConflict
    let (db, result) ← db.acceptedVersion context r d current
    (db.updateDispute d.disputeId (Dispute.decide r.target r.resolutionNote result)
      fun _ => rfl).addAudit r.auditId "DISPUTE_TRANSITION" "SETTLEMENT_DISPUTE" d.disputeId r.key

theorem addAudit_ok {auditId operationType targetType targetId : String} {key : RequestKey}
    (h : db.addAudit auditId operationType targetType targetId key = .ok db') :
    db' = { db with audits := db'.audits } := by
  obtain ⟨_, _, h⟩ := of_bind h
  cases h
  rfl

structure MovesDispute (f : Dispute → Dispute) : Prop where
  statement : ∀ d, (f d).statementId = d.statementId
  direction : ∀ d, (f d).feeDirection = d.feeDirection
  amount : ∀ d, (f d).disputedAmountCent = d.disputedAmountCent

theorem withdrawStoreSettlementDispute_ok {r : WithdrawRequest}
    (h : db.withdrawStoreSettlementDispute r = .ok db') : db' = db ∨ ∃ f hf, MovesDispute f ∧
      db' = { db.updateDispute r.disputeId f hf with audits := db'.audits } := by
  obtain ⟨_, hd, h⟩ := of_ofOption_bind h
  obtain ⟨_, _, h⟩ := of_bind h
  split at h
  · obtain ⟨_, _, h⟩ := of_bind h
    cases h
    exact .inl rfl
  · obtain ⟨_, _, h⟩ := of_bind h
    iterate 3 obtain ⟨_, -, h⟩ := of_bind h
    have haudit := addAudit_ok h
    rw [Table.key_of_get? _ hd] at haudit
    exact .inr ⟨Dispute.withdraw r.reason, fun _ => rfl,
      ⟨fun _ => rfl, fun _ => rfl, fun _ => rfl⟩, haudit⟩

/-- A transition that returned replayed an old one, or made the version of an acceptance and
moved the dispute on. -/
theorem transitionAdminDispute_ok {r : TransitionRequest}
    (h : db.transitionAdminDispute context r = .ok db') :
    db' = db ∨ ∃ d current db₁ result, db.billing.disputes.get? r.disputeId = some d ∧
      db.billing.currentStatement d.storeId d.statementMonth = some current ∧
      r.target ∈ d.status.transitions ∧
      db.acceptedVersion context r d current = .ok (db₁, result) ∧
      db' = { db₁.updateDispute r.disputeId (Dispute.decide r.target r.resolutionNote result)
        (fun _ => rfl) with audits := db'.audits } := by
  obtain ⟨d, hd, h⟩ := of_ofOption_bind h
  obtain ⟨current, hcur, h⟩ := of_bind h
  rw [Db.lockDisputeMutation, Except.ofOption_eq_ok_iff] at hcur
  split at h
  · obtain ⟨_, _, h⟩ := of_bind h
    cases h
    exact .inl rfl
  · obtain ⟨htgt, h⟩ := of_ensure_bind h
    iterate 4 obtain ⟨_, -, h⟩ := of_bind h
    obtain ⟨⟨db₁, result⟩, hver, h⟩ := of_bind h
    rw [List.contains_iff_mem] at htgt
    have haudit := addAudit_ok h
    rw [Table.key_of_get? _ hd] at haudit
    exact .inr ⟨d, current, db₁, result, hd, hcur, htgt, hver, haudit⟩

/-! ### Runs without acceptances -/

inductive BillAction
  | submit (request : DisputeRequest)
  | confirm (context : RequestContext) (request : ConfirmRequest)
  | withdraw (request : WithdrawRequest)
  | transition (context : RequestContext) (request : TransitionRequest)

def BillAction.accepts : BillAction → Bool
  | .transition _ request => request.target = .acceptedWithAdjustment
  | _ => false

def Db.tryBillAct (db : Db) : BillAction → Except SettlementError Db
  | .submit request => do
    let billing ← db.billing.createStoreSettlementDispute request
    return { db with billing }
  | .confirm context request => do
    let billing ← db.billing.confirmStoreSettlement context request
    return { db with billing }
  | .withdraw request => db.withdrawStoreSettlementDispute request
  | .transition context request => db.transitionAdminDispute context request

/-- A request that raises is rolled back. -/
def Db.billAct (db : Db) (action : BillAction) : Db :=
  match db.tryBillAct action with
  | .ok db' => db'
  | .error _ => db

def Db.billRun (db : Db) (actions : List BillAction) : Db :=
  actions.foldl Db.billAct db

inductive BillEffect (b b' : Billing) : Prop
  | same (h : b' = b)
  | confirmed (context : RequestContext) (r : ConfirmRequest) (s : Statement)
      (hs : b.statements.get? r.statementId = some s)
      (h : b.recordConfirmation context r s = .ok b')
  | submitted (d : Dispute) (hamount : 0 < d.disputedAmountCent)
      (hdisputes : b'.disputes.rows = b.disputes.rows ++ [d])
      (h : b' = { b with disputes := b'.disputes, disputeOrders := b'.disputeOrders })
  | moved (disputeId : String) (f : Dispute → Dispute)
      (hf : ∀ d, (f d).disputeId = d.disputeId) (hmoves : MovesDispute f)
      (h : b' = { b with
        disputes := b.disputes.update (fun d => d.disputeId = disputeId) f hf })

theorem billAct_effect (db : Db) {action : BillAction} (hnone : action.accepts = false) :
    BillEffect db.billing (db.billAct action).billing := by
  unfold Db.billAct
  split
  · rename_i h
    cases action with
    | submit request =>
      obtain ⟨billing, hsubm, h⟩ := of_bind h
      cases h
      rcases createStoreSettlementDispute_ok hsubm with hsame | ⟨s, hpos, hrows, hfrm⟩
      · exact .same hsame
      · exact .submitted _ hpos hrows hfrm
    | confirm context request =>
      obtain ⟨_, hconf, h⟩ := of_bind h
      cases h
      rcases confirmStoreSettlement_ok hconf with hsame | ⟨s, hs, hrec⟩
      · exact .same hsame
      · exact .confirmed context request s hs hrec
    | withdraw request =>
      rcases withdrawStoreSettlementDispute_ok h with hsame | ⟨f, hf, hmoves, hdb⟩
      · exact .same (by rw [hsame])
      · exact .moved request.disputeId f hf hmoves (by rw [hdb]; rfl)
    | transition context request =>
      rcases transitionAdminDispute_ok h with hsame |
        ⟨d, current, db₁, result, _, _, _, hver, hdb⟩
      · exact .same (by rw [hsame])
      · have htgt : request.target ≠ .acceptedWithAdjustment := by
          simpa [BillAction.accepts] using hnone
        have hsame : db₁ = db := by
          unfold Db.acceptedVersion at hver
          split at hver
          · rename_i hacc
            exact absurd hacc htgt
          · cases hver
            rfl
        refine .moved request.disputeId
          (Dispute.decide request.target request.resolutionNote result) (fun _ => rfl)
          ⟨fun _ => rfl, fun _ => rfl, fun _ => rfl⟩ ?_
        rw [hdb, hsame]
        rfl
  · exact .same rfl

end DyData.Settlement
