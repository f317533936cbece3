import DyData.ExceptBind
import DyData.SettlementLedger

/-!
Protected bills.  A bill that somebody confirmed, disputed or invoiced is never rebuilt: its
entries are read back as the sources of a publication, after a check that they still agree with
the header, with the lines, and with the results and adjustments they were made from.
-/

namespace DyData.Settlement

open Relational

/-- `StatementSource`: a fee or an adjustment to be billed. -/
structure StatementSource where
  sourceType : SourceType
  sourceRecordId : String
  originalFeeResultId : String
  couponId : String
  orderId : String
  feeDirection : Direction
  originalBusinessMonth : Month
  postingMonth : Month
  storeId : String
  productScope : String
  productType : String
  baseAmountCent : Int
  feeAmountCent : Int
  sourceAmountCent : Int
  ruleVersion : String
  snapshot : Snapshot
deriving DecidableEq

/-! ### Reading protected bills -/

def Billing.entriesOf (b : Billing) (statementId : String) : List StatementEntry :=
  b.entries.rows.filter fun e => e.statementId = statementId

def Billing.linesOf (b : Billing) (statementId : String) : List StatementLine :=
  b.lines.rows.filter fun l => l.statementId = statementId

def Billing.protectedBills (b : Billing) : List Statement :=
  b.statements.rows.filter fun s => s.isCurrent && b.protectedStatement s

/-- `protected_entries_relation`: every entry of every protected current bill, with its bill. -/
def Billing.protectedEntries (b : Billing) : List (StatementEntry × Statement) :=
  b.protectedBills.flatMap fun s => (b.entriesOf s.statementId).map fun e => (e, s)

/-- `protected_slot_condition`. -/
def Billing.protectedSlot (b : Billing) (storeId : Option String) (month : Month) : Bool :=
  b.protectedBills.any fun s => storeId = some s.storeId && s.statementMonth = month

/-- `frozen_primary_chain_condition`: the fee is billed, wherever it has moved to since. -/
def Billing.frozenPrimaryChain (b : Billing) (couponId : String) (direction : Direction) : Bool :=
  b.protectedEntries.any fun (e, _) =>
    e.sourceType = .original && e.couponId = couponId && e.feeDirection = direction

/-- `_active_adjustment_condition`: an adjustment of its own, or the current posting of a
deferred delta. -/
def Db.activeAdjustment (db : Db) (a : FeeAdjustment) : Bool :=
  let applications := db.carryforwardApplications.rows.filter fun p =>
    p.targetAdjustmentId = a.adjustmentId
  applications.isEmpty || applications.any CarryforwardApplication.isCurrent

def sameFrozenPrimary (e : StatementEntry) (original : FeeResult) : Bool :=
  e.sourceType = .original && e.sourceRecordId = original.feeResultId &&
  e.originalFeeResultId = original.feeResultId &&
  e.couponId = original.couponId && e.orderId = original.orderId &&
  e.feeDirection = original.feeDirection &&
  e.originalBusinessMonth = original.originalBusinessMonth &&
  e.baseAmountCent = original.feeBaseCent && e.feeAmountCent = original.feeAmountCent &&
  e.ruleVersion = original.ruleVersion

def sameFrozenAdjustment (e : StatementEntry) (event : FeeAdjustment) (basis : FeeResult) : Bool :=
  event.originalFeeResultId = e.originalFeeResultId && event.couponId = e.couponId &&
  event.orderId = e.orderId && event.feeDirection = e.feeDirection &&
  event.originalBusinessMonth = e.originalBusinessMonth &&
  event.adjustmentPostingMonth = e.statementPostingMonth &&
  event.adjustmentBaseCent = e.baseAmountCent && event.adjustmentFeeCent = e.feeAmountCent &&
  event.ruleVersion = e.ruleVersion &&
  basis.couponId = e.couponId && basis.orderId = e.orderId &&
  basis.feeDirection = e.feeDirection && basis.originalBusinessMonth = e.originalBusinessMonth

def StatementEntry.source (e : StatementEntry) (storeId : String) (sourceAmountCent : Int) :
    StatementSource where
  sourceType := e.sourceType
  sourceRecordId := e.sourceRecordId
  originalFeeResultId := e.originalFeeResultId
  couponId := e.couponId
  orderId := e.orderId
  feeDirection := e.feeDirection
  originalBusinessMonth := e.originalBusinessMonth
  postingMonth := e.statementPostingMonth
  storeId := storeId
  productScope := e.productScope
  productType := e.productType
  baseAmountCent := e.baseAmountCent
  feeAmountCent := e.feeAmountCent
  sourceAmountCent := sourceAmountCent
  ruleVersion := e.ruleVersion
  snapshot := e.snapshot

def Db.statementSourceFromEntry (db : Db) (e : StatementEntry) (storeId : String) :
    Except SettlementError StatementSource :=
  match e.sourceType with
  | .original =>
    match (db.feeResults.get? e.originalFeeResultId).filter (sameFrozenPrimary e) with
    | some original => .ok (e.source storeId original.sourceAmountCent)
    | none => .error (.valueError "frozen primary receipt has no exact immutable basis")
  | .adjustment =>
    match db.adjustments.get? e.sourceRecordId, db.feeResults.get? e.originalFeeResultId with
    | some event, some basis =>
      if sameFrozenAdjustment e event basis then .ok (e.source storeId 0)
      else .error (.valueError "frozen adjustment has no exact immutable event and anchor")
    | _, _ => .error (.valueError "frozen adjustment has no exact immutable event and anchor")

/-- `adjustment_source_from_entry`: a later event on a frozen basis. -/
def Db.adjustmentSourceFromEntry (db : Db) (a : FeeAdjustment) (e : StatementEntry)
    (storeId : String) : Except SettlementError StatementSource := do
  let source ← db.statementSourceFromEntry e storeId
  return { source with
    sourceType := .adjustment
    sourceRecordId := a.adjustmentId
    originalFeeResultId := a.originalFeeResultId
    originalBusinessMonth := a.originalBusinessMonth
    postingMonth := a.adjustmentPostingMonth
    baseAmountCent := a.adjustmentBaseCent
    feeAmountCent := a.adjustmentFeeCent
    sourceAmountCent := 0
    ruleVersion := a.ruleVersion
    snapshot := { source.snapshot with
      refundAt := if a.adjustmentType = .correction then none else some a.occurredAt
      adjustmentType := some a.adjustmentType } }

end DyData.Settlement
