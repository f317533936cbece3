import DyData.SettlementRows
import DyData.ExceptBind

/-!
The lookups and the writes that every settlement run shares: stable identifiers, the commission
of an amount, the current result of a coupon, which bills are closed, the effective adjustments
of a result and the deltas deferred to a later bill.
-/

namespace DyData.Settlement

open Relational

/-- What the settlement takes from outside: the 40 digits it keeps of a SHA-256, and the month an
instant has in Asia/Shanghai. -/
structure Env where
  digest40 : String → String
  businessMonth : Time → Month

inductive SettlementError
  | valueError (message : String)
  | integrityError (constraint : String)
  | reportingError (status : Nat) (code message : String) (field : Option String := none)
  | zeroDivisionError
deriving DecidableEq

/-- `"\x1f".join((kind, *parts))`. -/
def joinParts (kind : String) (parts : List String) : String :=
  parts.foldl (fun joined part => joined ++ "\x1f" ++ part) kind

def stableBusinessId (env : Env) (kind : String) (parts : List String) : String :=
  kind ++ "-" ++ env.digest40 (joinParts kind parts)

/-- Digests that do not collide make identifiers of one kind as distinct as what they join. -/
theorem joinParts_of_stableBusinessId_eq {env : Env} (hdig : Function.Injective env.digest40)
    {kind : String} {parts parts' : List String}
    (h : stableBusinessId env kind parts = stableBusinessId env kind parts') :
    joinParts kind parts = joinParts kind parts' :=
  hdig ((String.append_right_inj _).mp h)

theorem stableBusinessId_ne_of_kind (env : Env) {kind kind' : String} {parts parts' : List String}
    {n : Nat} (hn : n ≤ kind.toList.length) (hn' : n ≤ kind'.toList.length)
    (hkind : kind.toList.take n ≠ kind'.toList.take n) :
    stableBusinessId env kind parts ≠ stableBusinessId env kind' parts' := by
  intro h
  have htake := congrArg (fun s => s.toList.take n) h
  simp only [stableBusinessId, String.append_assoc, String.toList_append] at htake
  rw [List.take_append_of_le_length hn, List.take_append_of_le_length hn'] at htake
  exact hkind htake

/-- `quantize(Decimal("1"), rounding=ROUND_HALF_UP)`: halves go away from zero. -/
def roundHalfUp (x : ℚ) : Int :=
  if 0 ≤ x then ⌊x + 1 / 2⌋ else -⌊-x + 1 / 2⌋

def commissionCent (paidAmountCent : Int) (commissionRate : ℚ) : Int :=
  roundHalfUp (paidAmountCent * commissionRate)

theorem commissionCent_nonneg {paid : Int} {rate : ℚ} (hpaid : 0 ≤ paid) (hrate : 0 ≤ rate) :
    0 ≤ commissionCent paid rate := by
  have hprod : (0 : ℚ) ≤ paid * rate := mul_nonneg (by exact_mod_cast hpaid) hrate
  rw [commissionCent, roundHalfUp, if_pos hprod]
  exact Int.floor_nonneg.mpr (by linarith)

/-! ### Closed bills -/

def StatementStatus.isFinal : StatementStatus → Bool
  | .generating | .pendingConfirmation => false
  | .confirmed | .locked => true

def DisputeStatus.isOpenOrAccepted : DisputeStatus → Bool
  | .pending | .inReview | .pendingAdminApproval | .acceptedWithAdjustment => true
  | .rejected | .withdrawn => false

/-- `protected_statement_condition`. -/
def Billing.protectedStatement (b : Billing) (s : Statement) : Bool :=
  s.statementStatus.isFinal || s.confirmedAt.isSome || s.lockedAt.isSome ||
  (b.confirmations.rows.any fun c => c.statementId = s.statementId) ||
  (b.disputes.rows.any fun d => d.storeId = s.storeId && d.statementMonth = s.statementMonth &&
    (d.status.isOpenOrAccepted || d.resultStatementId.isSome)) ||
  (b.promotionInvoiceAllocations.rows.any fun a =>
    a.storeId = s.storeId && a.statementMonth = s.statementMonth) ||
  (b.invoiceRecords.rows.any fun r =>
    r.storeId = s.storeId && r.statementMonth = s.statementMonth)

def Billing.lockedStatement (b : Billing) (storeId : String) (month : Month) : Option Statement :=
  b.statements.rows.find? fun s => s.storeId = storeId && s.statementMonth = month &&
    s.statementStatus = .locked && s.isCurrent

def Billing.isSettlementPeriodImmutable (b : Billing) (storeId : String) (month : Month) : Bool :=
  (b.lockedStatement storeId month).isSome ||
  (b.promotionInvoiceAllocations.rows.any fun a =>
    a.storeId = storeId && a.statementMonth = month && a.isCurrent) ||
  (b.invoiceRecords.rows.any fun r =>
    r.storeId = storeId && r.statementMonth = month && r.isCurrent)

def Db.historicalCorrections (db : Db) (feeResultId : String) : List OperationAudit :=
  db.audits.rows.filter fun a => a.operationType = "HISTORICAL_ATTACHMENT_CORRECTION" &&
    a.targetType = "SETTLEMENT_FEE_RESULT" && a.targetId = feeResultId && a.resultStatus = 1

def Db.hasHistoricalFeeCorrection (db : Db) (feeResultId : String) : Bool :=
  !(db.historicalCorrections feeResultId).isEmpty

def OperationAudit.zeroDelta (a : OperationAudit) : Bool :=
  match (a.afterSnapshot.get? "old_fee_cent").bind JsonValue.asInt?,
    (a.afterSnapshot.get? "target_fee_cent").bind JsonValue.asInt?,
    a.afterSnapshot.get? "delta_cent" with
  | some old, some target, some (.num 0) => old = target
  | some old, some target, some (.bool false) => old = target
  | _, _, _ => false

def Db.hasHistoricalFeeAmountOverride (db : Db) (feeResultId : String) : Bool :=
  (db.historicalCorrections feeResultId).any (fun a => !a.zeroDelta) ||
  (db.adjustments.rows.any fun a => a.originalFeeResultId = feeResultId &&
    a.adjustmentType = .correction && (a.adjustmentFeeCent ≠ 0 || a.adjustmentBaseCent ≠ 0)) ||
  (db.carryforwardSources.rows.any fun s => s.originalFeeResultId = feeResultId &&
    s.adjustmentType = .correction && (s.adjustmentFeeCent ≠ 0 || s.adjustmentBaseCent ≠ 0))

def Db.isFeeResultLocked (db : Db) (storeId : String) (month : Month)
    (currentFeeResultId : Option String := none) : Bool :=
  currentFeeResultId.any db.hasHistoricalFeeCorrection ||
  db.billing.isSettlementPeriodImmutable storeId month ||
  db.billing.statements.rows.any fun s =>
    ((s.storeId = storeId && s.statementMonth = month && s.isCurrent) ||
      currentFeeResultId.any fun id => db.billing.entries.rows.any fun e =>
        e.statementId = s.statementId && e.sourceType = .original && e.sourceRecordId = id) &&
    db.billing.protectedStatement s

/-! ### Results and their adjustments -/

/-- `_current_fee_result`: the newest result of the pointer, or of the redemption restored on
top of it. -/
def Db.currentFeeResult (db : Db) (couponId : String) (direction : Direction) :
    Option FeeResult := do
  let pointer ← db.currents.get? (couponId, direction)
  (db.feeResults.rows.filter fun r => r.feeResultId = pointer.feeResultId ||
    r.reverificationAnchorId = some pointer.feeResultId).argmax FeeResult.resultVersion

def Db.hasVerifyCancellation (db : Db) (original : FeeResult) : Bool :=
  (db.adjustments.rows.any fun a => a.originalFeeResultId = original.feeResultId &&
    a.adjustmentType = .verifyCancellation) ||
  (db.carryforwardSources.rows.any fun s => s.originalFeeResultId = original.feeResultId &&
    s.sourceEventType = .verification && s.adjustmentType = .verifyCancellation)

def Db.carryforwardSource (db : Db) (sourceEventKey originalFeeResultId : String)
    (feeDirection : Direction) : Option CarryforwardSource :=
  db.carryforwardSources.rows.find? fun s => s.sourceEventKey = sourceEventKey &&
    s.originalFeeResultId = originalFeeResultId && s.feeDirection = feeDirection

abbrev Delta := Int × Int

def FeeAdjustment.delta (a : FeeAdjustment) : Delta := (a.adjustmentBaseCent, a.adjustmentFeeCent)

def CarryforwardSource.delta (s : CarryforwardSource) : Delta :=
  (s.adjustmentBaseCent, s.adjustmentFeeCent)

def Db.materialized (db : Db) (originalFeeResultId adjustmentId : String) : Bool :=
  db.carryforwardApplications.rows.any fun p => p.targetAdjustmentId = adjustmentId &&
    db.carryforwardSources.rows.any fun s => s.originalFeeResultId = originalFeeResultId &&
      s.carryforwardSourceId = p.carryforwardSourceId

def Db.deferred (db : Db) (originalFeeResultId : String) : List CarryforwardSource :=
  db.carryforwardSources.rows.filter fun s => s.originalFeeResultId = originalFeeResultId &&
    s.sourceEventKey ≠ "reverification:" ++ originalFeeResultId

def Db.ordinary (env : Env) (db : Db) (originalFeeResultId : String) : List FeeAdjustment :=
  db.adjustments.rows.filter fun a => a.originalFeeResultId = originalFeeResultId &&
    !db.materialized originalFeeResultId a.adjustmentId &&
    a.adjustmentId ≠ stableBusinessId env "reverification" [originalFeeResultId]

def Db.effectiveAdjustmentTotals (env : Env) (db : Db) (originalFeeResultId : String) : Delta :=
  ((db.deferred originalFeeResultId).map CarryforwardSource.delta).sum +
    ((db.ordinary env originalFeeResultId).map FeeAdjustment.delta).sum

/-! ### Writes -/

/-- Adding an adjustment: `uk_settlement_fee_adjustment_id` and
`uk_settlement_fee_adjustment_refund_result_direction`. -/
def Db.addAdjustment (db : Db) (a : FeeAdjustment) : Except SettlementError Db :=
  if a.refundEventId.isSome && db.adjustments.rows.any fun r =>
      r.refundEventId = a.refundEventId && r.originalFeeResultId = a.originalFeeResultId &&
      r.feeDirection = a.feeDirection then
    .error (.integrityError "uk_settlement_fee_adjustment_refund_result_direction")
  else match db.adjustments.insert? a with
    | none => .error (.integrityError "uk_settlement_fee_adjustment_id")
    | some adjustments => .ok { db with adjustments }

theorem addAdjustment_ok {db db' : Db} {a : FeeAdjustment} (h : db.addAdjustment a = .ok db') :
    db'.adjustments.rows = db.adjustments.rows ++ [a] ∧
      db' = { db with adjustments := db'.adjustments } := by
  unfold Db.addAdjustment at h
  split at h
  · cases h
  · split at h
    · cases h
    · rename_i hins
      cases h
      exact ⟨Table.rows_insert? hins, rfl⟩

theorem addAdjustment_exists {db : Db} {a : FeeAdjustment}
    (hid : db.adjustments.get? a.adjustmentId = none)
    (href : ∀ r ∈ db.adjustments.rows, a.refundEventId.isSome = true →
      r.refundEventId = a.refundEventId → r.originalFeeResultId = a.originalFeeResultId →
      r.feeDirection ≠ a.feeDirection) :
    ∃ db', db.addAdjustment a = .ok db' := by
  have hgrd : (a.refundEventId.isSome && db.adjustments.rows.any fun r =>
      r.refundEventId = a.refundEventId && r.originalFeeResultId = a.originalFeeResultId &&
      r.feeDirection = a.feeDirection) = false := by
    rw [Bool.and_eq_false_iff]
    by_cases hsome : a.refundEventId.isSome = true
    · refine .inr (List.any_eq_false.mpr fun r hr hcond => ?_)
      simp only [bool_to_prop] at hcond
      exact href r hr hsome hcond.1.1 hcond.1.2 hcond.2
    · exact .inl (Bool.eq_false_iff.mpr hsome)
  obtain ⟨adjustments, hins⟩ := Table.exists_insert? hid
  refine ⟨{ db with adjustments }, ?_⟩
  rw [Db.addAdjustment, hgrd]
  simp only [hins, Bool.false_eq_true, if_false]

/-- `_create_carryforward_source`, with the source that is there when there is one. -/
def Db.createCarryforwardSource (db : Db) (source : CarryforwardSource) :
    Except SettlementError (Db × CarryforwardSource) :=
  match db.carryforwardSource source.sourceEventKey source.originalFeeResultId
      source.feeDirection with
  | some existing => .ok (db, existing)
  | none => match db.carryforwardSources.insert? source with
    | none => .error (.integrityError "uk_settlement_carryforward_source_id")
    | some carryforwardSources => .ok ({ db with carryforwardSources }, source)

end DyData.Settlement
