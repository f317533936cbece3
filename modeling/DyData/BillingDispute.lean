import DyData.BillingAuthority
import DyData.ExceptBind

/-!
Accepted disputes.  A disputed bill is never changed: a new version is made from a copy of its
lines and entries, one adjustment entry for each disputed order is added to it, and from the
seventh day of a month on it is confirmed for the disputed direction at once.
-/

namespace DyData.Settlement

open Relational
open Except (of_bind)

/-- What a request brings along: who sent it, the clock with its day of the month, and SHA-256. -/
structure RequestContext where
  operator : String
  now : Time
  dayOfMonth : Nat
  sha256 : String → String

def unprocessable (code message : String) (field : Option String := none) : SettlementError :=
  .reportingError 422 code message field

def conflict (code message : String) (field : Option String := none) : SettlementError :=
  .reportingError 409 code message field

def notFound (message : String) (field : Option String := none) : SettlementError :=
  .reportingError 404 "RESOURCE_NOT_FOUND" message field

/-- `_raise_statement_version_conflict`. -/
def statementVersionConflict : SettlementError :=
  conflict "STATEMENT_VERSION_CONFLICT" "账单版本已变化或不是当前版本" (some "readVersion")

structure VersionIds where
  statementId : String
  adjustment : String → String
  application : String → String
  line : String → String
  entry : String → String
  disputeEntry : Nat → String
  confirmationId : String

/-! ### Splitting the adjustment over the disputed orders -/

/-- The loop of `_allocate_dispute_adjustment`: the last weight takes what is left. -/
def allocateShares (absoluteTotal weightTotal sign : Int) :
    Int → List Int → Except SettlementError (List Int)
  | _, [] => .ok []
  | remaining, [_] => .ok [sign * remaining]
  | remaining, weight :: next :: weights =>
    if weightTotal = 0 then .error .zeroDivisionError
    else do
      let amount := (absoluteTotal * weight).fdiv weightTotal
      let rest ← allocateShares absoluteTotal weightTotal sign (remaining - amount)
        (next :: weights)
      return sign * amount :: rest

def allocateDisputeAdjustment (total : Int) (weights : List Int) :
    Except SettlementError (List Int) :=
  allocateShares |total| weights.sum (if total > 0 then 1 else -1) |total| weights

/-! ### The pieces of a new version -/

def lineOfEntries (statementId lineId : String) (first : StatementEntry)
    (entries : List StatementEntry) : StatementLine :=
  let original := entries.filter fun e => e.sourceType = .original
  let adjustment := entries.filter fun e => e.sourceType = .adjustment
  { statementLineId := lineId
    statementId
    feeDirection := first.feeDirection
    productScope := first.productScope
    productType := first.productType
    originalEntryCount := original.length
    adjustmentEntryCount := adjustment.length
    originalBaseCent := (original.map StatementEntry.baseAmountCent).sum
    adjustmentBaseCent := (adjustment.map StatementEntry.baseAmountCent).sum
    netBaseCent := (entries.map StatementEntry.baseAmountCent).sum
    originalFeeCent := (original.map StatementEntry.feeAmountCent).sum
    adjustmentFeeCent := (adjustment.map StatementEntry.feeAmountCent).sum
    netFeeCent := (entries.map StatementEntry.feeAmountCent).sum }

def Billing.snapshotLines (b : Billing) (statementId : String) : List StatementLine :=
  let lines := b.linesOf statementId
  let entries := b.entriesOf statementId
  let missing := ((entries.map StatementEntry.statementLineId).filter fun id =>
    !(lines.map StatementLine.statementLineId).contains id).dedup
  lines ++ missing.filterMap fun id =>
    let grouped := entries.filter fun e => e.statementLineId = id
    grouped.head?.map fun first => lineOfEntries statementId id first grouped

/-- `ORDER BY order_id, coupon_id`. -/
def DisputeOrder.le (a b : DisputeOrder) : Bool :=
  a.orderId < b.orderId || (a.orderId = b.orderId &&
    match a.couponId, b.couponId with
    | _, none => true
    | none, some _ => false
    | some c, some d => c ≤ d)

def Billing.ordersOf (b : Billing) (disputeId : String) : List DisputeOrder :=
  (b.disputeOrders.filter fun o => o.disputeId = disputeId).insertionSort fun a b => a.le b

def selectEntry (entries : List StatementEntry) (direction : Direction) (order : DisputeOrder) :
    Except SettlementError (DisputeOrder × StatementEntry) :=
  match entries.reverse.find? fun e => e.orderId = order.orderId &&
      some e.couponId = order.couponId with
  | some e =>
    if e.feeDirection = direction then .ok (order, e)
    else .error (unprocessable "DISPUTE_ORDER_SCOPE_INVALID"
      "异议订单无法精确映射到当前账单费用方向" (some "orders"))
  | none => .error (unprocessable "DISPUTE_ORDER_SCOPE_INVALID"
      "异议订单无法精确映射到当前账单费用方向" (some "orders"))

/-- The amount a dispute of `disputed` adds to a direction. -/
def adjustmentOf (disputed direction : Direction) (amount : Int) : Int :=
  if disputed = direction then amount else 0

def Statement.disputeVersion (s : Statement) (ids : VersionIds) (context : RequestContext)
    (direction : Direction) (amount : Int) : Statement :=
  let autoConfirm := 6 < context.dayOfMonth
  { statementId := ids.statementId
    storeId := s.storeId
    statementMonth := s.statementMonth
    versionNo := s.versionNo + 1
    isCurrent := true
    supersedesStatementId := some s.statementId
    statementStatus := if autoConfirm then .confirmed else .pendingConfirmation
    promotionOriginalFeeCent := s.promotionOriginalFeeCent
    promotionAdjustmentFeeCent :=
      s.promotionAdjustmentFeeCent + adjustmentOf direction .promotion amount
    promotionNetFeeCent := s.promotionNetFeeCent + adjustmentOf direction .promotion amount
    managementOriginalFeeCent := s.managementOriginalFeeCent
    managementAdjustmentFeeCent :=
      s.managementAdjustmentFeeCent + adjustmentOf direction .management amount
    managementNetFeeCent := s.managementNetFeeCent + adjustmentOf direction .management amount
    confirmedAt := if autoConfirm then some context.now else none
    lockedAt := none }

def Statement.netFeeCent (s : Statement) : Direction → Int
  | .promotion => s.promotionNetFeeCent
  | .management => s.managementNetFeeCent

def StatementLine.clone (l : StatementLine) (ids : VersionIds)
    (shares : List (StatementEntry × Int)) : StatementLine :=
  let own := shares.filter fun (e, _) => e.statementLineId = l.statementLineId
  { l with
    statementLineId := ids.line l.statementLineId
    statementId := ids.statementId
    adjustmentEntryCount := l.adjustmentEntryCount + own.length
    adjustmentFeeCent := l.adjustmentFeeCent + (own.map Prod.snd).sum
    netFeeCent := l.netFeeCent + (own.map Prod.snd).sum }

/-- An entry of the new version; a posted carryforward points to the copy of its adjustment. -/
def StatementEntry.clone (e : StatementEntry) (ids : VersionIds)
    (copies : List (String × String)) : StatementEntry :=
  { e with
    statementEntryId := ids.entry e.statementEntryId
    statementId := ids.statementId
    statementLineId := ids.line e.statementLineId
    sourceRecordId := (copies.lookup e.sourceRecordId).getD e.sourceRecordId }

def StatementEntry.disputed (e : StatementEntry) (ids : VersionIds) (context : RequestContext)
    (dispute : Dispute) (month : Month) (index : Nat) (share : Int) : StatementEntry :=
  { e with
    statementEntryId := ids.disputeEntry index
    statementId := ids.statementId
    statementLineId := ids.line e.statementLineId
    sourceType := .adjustment
    sourceRecordId := "dispute:" ++ dispute.disputeId ++ ":" ++ toString index
    feeDirection := dispute.feeDirection
    statementPostingMonth := month
    baseAmountCent := 0
    feeAmountCent := share
    ruleVersion := "dispute-adjustment-v1"
    snapshot := { e.snapshot with
      refundAt := some context.now
      adjustmentType := some .verifyCancellation } }

def FeeAdjustment.copy (a : FeeAdjustment) (adjustmentId operator : String) : FeeAdjustment :=
  { a with
    adjustmentId
    refundEventId := none
    createdBy := "dispute-version:" ++ operator }

def CarryforwardApplication.copy (p : CarryforwardApplication) (ids : VersionIds)
    (version : Statement) (operator : String) : CarryforwardApplication :=
  { carryforwardApplicationId := ids.application p.carryforwardApplicationId
    carryforwardSourceId := p.carryforwardSourceId
    targetStatementId := version.statementId
    targetStatementVersion := version.versionNo
    targetAdjustmentId := ids.adjustment p.carryforwardApplicationId
    targetPostingMonth := p.targetPostingMonth
    applicationVersion := p.applicationVersion + 1
    isCurrent := true
    appliedBy := "dispute-version:" ++ operator }

/-! ### Making the version -/

def Db.postedTo (db : Db) (statementId : String) :
    Except SettlementError (List (CarryforwardApplication × FeeAdjustment)) :=
  (db.carryforwardApplications.rows.filter fun p =>
      p.targetStatementId = statementId && p.isCurrent).mapM fun p =>
    match db.adjustments.get? p.targetAdjustmentId with
    | some a => .ok (p, a)
    | none => .error (unprocessable "CARRYFORWARD_LINEAGE_INCOMPLETE"
        "当前账单的顺延应用缺少对应调整记录，不能生成新版本")

/-- Adding a bill: `uk_settlement_statement_store_month_version` and
`idx_settlement_statement_current_slot`. -/
def Billing.addStatement (b : Billing) (s : Statement) : Except SettlementError Billing :=
  if b.statements.rows.any fun r => r.slot = s.slot &&
      (r.versionNo = s.versionNo || (r.isCurrent && s.isCurrent)) then
    .error (.integrityError "uk_settlement_statement_store_month_version")
  else match b.statements.insert? s with
    | none => .error (.integrityError "uk_settlement_statement_id")
    | some statements => .ok { b with statements }

/-- Adding a confirmation: `uk_statement_confirmation_direction` and
`uk_statement_confirmation_idempotency_key`. -/
def Billing.addConfirmation (b : Billing) (c : StatementConfirmation) :
    Except SettlementError Billing :=
  if b.confirmations.rows.any fun r =>
      (r.statementId = c.statementId && r.feeDirection = c.feeDirection) ||
      (c.idempotencyKeyHash.isSome && r.idempotencyKeyHash = c.idempotencyKeyHash) then
    .error (.integrityError "uk_statement_confirmation_direction")
  else match b.confirmations.insert? c with
    | none => .error (.integrityError "uk_statement_confirmation_id")
    | some confirmations => .ok { b with confirmations }

def Billing.retire (b : Billing) (s : Statement) : Billing :=
  { b with
    statements := b.statements.update (fun r => r.statementId = s.statementId)
      (fun r => { r with isCurrent := false }) fun _ => rfl }

def Db.copyPostings (db : Db) (ids : VersionIds) (context : RequestContext) (version : Statement)
    (posted : List (CarryforwardApplication × FeeAdjustment)) : Except SettlementError Db :=
  let retired := db.carryforwardApplications.update
    (fun p => (posted.map fun q => q.1.carryforwardApplicationId).contains
      p.carryforwardApplicationId)
    (fun p => { p with isCurrent := false }) fun _ => rfl
  match db.adjustments.append? (posted.map fun (p, a) =>
      a.copy (ids.adjustment p.carryforwardApplicationId) context.operator),
    retired.append? (posted.map fun (p, _) => p.copy ids version context.operator) with
  | some adjustments, some carryforwardApplications =>
    .ok { db with adjustments, carryforwardApplications }
  | _, _ => .error (.integrityError "uk_settlement_fee_adjustment_id")

def Billing.addSnapshot (b : Billing) (lines : List StatementLine)
    (entries : List StatementEntry) : Except SettlementError Billing :=
  match b.lines.append? lines, b.entries.append? entries with
  | some lines, some entries => .ok { b with lines, entries }
  | _, _ => .error (.integrityError "uk_settlement_statement_line_id")

/-- `confirmation-dispute-…`, from the seventh day of the month on. -/
def Billing.autoConfirm (b : Billing) (ids : VersionIds) (context : RequestContext)
    (dispute : Dispute) (version : Statement) : Except SettlementError Billing :=
  if 6 < context.dayOfMonth then b.addConfirmation {
    confirmationId := ids.confirmationId
    statementId := version.statementId
    feeDirection := dispute.feeDirection
    confirmedAmountCent := version.netFeeCent dispute.feeDirection
    confirmedAt := context.now
    idempotencyKeyHash :=
      some (context.sha256 ("dispute-auto-confirmation-" ++ dispute.disputeId)) }
  else .ok b

def Db.createDisputeStatementVersion (db : Db) (ids : VersionIds) (context : RequestContext)
    (dispute : Dispute) (current : Statement) (adjustmentAmountCent : Int) :
    Except SettlementError (Db × Statement) := do
  let entries := db.billing.entriesOf current.statementId
  let lines := db.billing.snapshotLines current.statementId
  Except.ensure (!entries.isEmpty) (unprocessable "STATEMENT_SNAPSHOT_INCOMPLETE"
    "当前账单缺少完整来源项，不能生成调整版本")
  let selected ← (db.billing.ordersOf dispute.disputeId).mapM
    (selectEntry entries dispute.feeDirection)
  let version := current.disputeVersion ids context dispute.feeDirection adjustmentAmountCent
  let billing ← (db.billing.retire current).addStatement version
  let posted ← db.postedTo current.statementId
  let db ← { db with billing }.copyPostings ids context version posted
  let copies := posted.reverse.map fun (p, a) =>
    (a.adjustmentId, ids.adjustment p.carryforwardApplicationId)
  let amounts ← allocateDisputeAdjustment adjustmentAmountCent
    (selected.map fun (o, _) => o.disputedAmountCent)
  let shares := (selected.map Prod.snd).zip amounts
  let cloned := lines.map fun l => l.clone ids shares
  let billing ← db.billing.addSnapshot cloned (entries.map (fun e => e.clone ids copies) ++
    shares.zipIdx.map fun (share, index) => share.1.disputed ids context dispute
      current.statementMonth (index + 1) share.2)
  let adjustedLineTotal := ((cloned.filter fun l => l.feeDirection = dispute.feeDirection).map
    StatementLine.netFeeCent).sum
  Except.ensure (adjustedLineTotal = version.netFeeCent dispute.feeDirection)
    (unprocessable "STATEMENT_SNAPSHOT_INCONSISTENT" "调整后的账单头与汇总行金额不一致")
  let billing ← billing.autoConfirm ids context dispute version
  return ({ db with billing }, version)

/-! ### What a new version leaves -/

theorem addStatement_ok {b b' : Billing} {s : Statement} (h : b.addStatement s = .ok b') :
    (∀ r ∈ b.statements.rows, r.slot = s.slot → r.isCurrent = true → s.isCurrent = false) ∧
    b'.statements.rows = b.statements.rows ++ [s] ∧
    b' = { b with statements := b'.statements } := by
  unfold Billing.addStatement at h
  split at h
  · cases h
  · rename_i hgrd
    split at h
    · cases h
    · rename_i hins
      cases h
      refine ⟨?_, Table.rows_insert? hins, rfl⟩
      intro r hr hslot hcur
      by_contra hnew
      refine hgrd (List.any_eq_true.mpr ⟨r, hr, ?_⟩)
      rw [Bool.not_eq_false] at hnew
      simp [hslot, hcur, hnew]

theorem addConfirmation_ok {b b' : Billing} {c : StatementConfirmation}
    (h : b.addConfirmation c = .ok b') :
    (∀ r ∈ b.confirmations.rows, ¬ (r.statementId = c.statementId ∧
      r.feeDirection = c.feeDirection)) ∧
    b'.confirmations.rows = b.confirmations.rows ++ [c] ∧
    b' = { b with confirmations := b'.confirmations } := by
  unfold Billing.addConfirmation at h
  split at h
  · cases h
  · rename_i hgrd
    split at h
    · cases h
    · rename_i hins
      cases h
      refine ⟨?_, Table.rows_insert? hins, rfl⟩
      rintro r hr ⟨hid, hdir⟩
      refine hgrd (List.any_eq_true.mpr ⟨r, hr, ?_⟩)
      simp [hid, hdir]

theorem mem_retire {b : Billing} {current s : Statement} :
    s ∈ (b.retire current).statements.rows ↔ ∃ s₀ ∈ b.statements.rows,
      (if s₀.statementId = current.statementId then { s₀ with isCurrent := false } else s₀) = s := by
  simp [Billing.retire, Table.update]

/-- The bill `current` has given way to `version`. -/
structure Reversioned (b : Billing) (current version : Statement) (b' : Billing) : Prop where
  slot : version.slot = current.slot
  isCurrent : version.isCurrent = true
  statements : b'.statements.rows = (b.retire current).statements.rows ++ [version]
  free : ∀ s ∈ (b.retire current).statements.rows, s.slot = version.slot → s.isCurrent = false
  confirmations : b'.confirmations.rows = b.confirmations.rows ∨
    ∃ c, b'.confirmations.rows = b.confirmations.rows ++ [c] ∧
      c.statementId = version.statementId ∧ ∀ r ∈ b.confirmations.rows,
        ¬ (r.statementId = c.statementId ∧ r.feeDirection = c.feeDirection)
  invoiceRecords : b'.invoiceRecords = b.invoiceRecords
  managementApplications : b'.managementApplications = b.managementApplications

theorem addSnapshot_frame {b b' : Billing} {lines : List StatementLine}
    {entries : List StatementEntry} (h : b.addSnapshot lines entries = .ok b') :
    b' = { b with lines := b'.lines, entries := b'.entries } := by
  unfold Billing.addSnapshot at h
  split at h
  · cases h
    rfl
  · cases h

theorem createDisputeStatementVersion_ok {db db' : Db} {ids : VersionIds} {context : RequestContext}
    {dispute : Dispute} {current version : Statement} {amount : Int}
    (h : db.createDisputeStatementVersion ids context dispute current amount = .ok (db', version)) :
    Reversioned db.billing current version db'.billing := by
  obtain ⟨_, _, h⟩ := of_bind h
  obtain ⟨_, _, h⟩ := of_bind h
  obtain ⟨b₁, hstm, h⟩ := of_bind h
  obtain ⟨_, _, h⟩ := of_bind h
  obtain ⟨db₂, hpost, h⟩ := of_bind h
  obtain ⟨_, _, h⟩ := of_bind h
  obtain ⟨b₃, hsnap, h⟩ := of_bind h
  obtain ⟨_, _, h⟩ := of_bind h
  obtain ⟨b₄, hconf, h⟩ := of_bind h
  cases h
  obtain ⟨hfree, hrows, hb₁⟩ := addStatement_ok hstm
  have hb₂ : db₂.billing = b₁ := by
    unfold Db.copyPostings at hpost
    dsimp only at hpost
    split at hpost
    · cases hpost
      rfl
    · cases hpost
  rw [hb₂] at hsnap
  have hb₃ := addSnapshot_frame hsnap
  have hb₄ : b₄ = { b₃ with confirmations := b₄.confirmations } ∧
      (b₄.confirmations.rows = b₃.confirmations.rows ∨
        ∃ c, b₄.confirmations.rows = b₃.confirmations.rows ++ [c] ∧
          c.statementId = ids.statementId ∧ ∀ r ∈ b₃.confirmations.rows,
            ¬ (r.statementId = c.statementId ∧ r.feeDirection = c.feeDirection)) := by
    unfold Billing.autoConfirm at hconf
    split at hconf
    · obtain ⟨hnew, hconfi, hfrm⟩ := addConfirmation_ok hconf
      exact ⟨hfrm, .inr ⟨_, hconfi, rfl, hnew⟩⟩
    · cases hconf
      exact ⟨rfl, .inl rfl⟩
  -- each step keeps what it does not name
  rw [hb₁] at hb₃
  rw [hb₃] at hb₄
  have hfrm := hb₄.1
  refine ⟨rfl, rfl, (congrArg (fun b => b.statements.rows) hfrm).trans hrows, ?_, hb₄.2,
    (congrArg Billing.invoiceRecords hfrm :), (congrArg Billing.managementApplications hfrm :)⟩
  intro s hs hslot
  by_contra hcur
  rw [Bool.not_eq_false] at hcur
  cases hfree s hs hslot hcur

end DyData.Settlement
