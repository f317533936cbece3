import DyData.SettlementAuthority

/-!
The capture of billing sources: protected bills are checked, the sources of the months are read
from the authority relation one by one, and a generated bill is compared with the published
figures of its store.
-/

namespace DyData.Settlement

open Relational
open Except (ofOption)

/-! ### Protected bills are checked -/

def StatementEntry.identity (e : StatementEntry) : SourceType × String :=
  (e.sourceType, e.sourceRecordId)

def StatementEntry.lineKey (e : StatementEntry) : Direction × String × String :=
  (e.feeDirection, e.productScope, e.productType)

def StatementLine.key (l : StatementLine) : Direction × String × String :=
  (l.feeDirection, l.productScope, l.productType)

def ensureAuthority (condition : Bool) (message : String) : Except SettlementError Unit :=
  .ensure condition (.valueError message)

def Db.validateProtectedEntry (db : Db) (bill : Statement) (seen : List (SourceType × String))
    (e : StatementEntry) : Except SettlementError (List (SourceType × String)) := do
  ensureAuthority (!seen.contains e.identity)
    "protected source identity is invalid or duplicated"
  ensureAuthority (e.statementPostingMonth = bill.statementMonth)
    "protected entry posting month differs from its bill"
  let _ ← db.statementSourceFromEntry e bill.storeId
  return e.identity :: seen

def feeTotal (entries : List StatementEntry) (sourceType : SourceType) (direction : Direction) :
    Int :=
  ((entries.filter fun e => e.sourceType = sourceType && e.feeDirection = direction).map
    StatementEntry.feeAmountCent).sum

def headerMatches (bill : Statement) (entries : List StatementEntry) : Bool :=
  feeTotal entries .original .promotion = bill.promotionOriginalFeeCent &&
  feeTotal entries .adjustment .promotion = bill.promotionAdjustmentFeeCent &&
  bill.promotionOriginalFeeCent + bill.promotionAdjustmentFeeCent = bill.promotionNetFeeCent &&
  feeTotal entries .original .management = bill.managementOriginalFeeCent &&
  feeTotal entries .adjustment .management = bill.managementAdjustmentFeeCent &&
  bill.managementOriginalFeeCent + bill.managementAdjustmentFeeCent = bill.managementNetFeeCent

structure LineAmounts where
  originalEntryCount : Nat := 0
  adjustmentEntryCount : Nat := 0
  originalBaseCent : Int := 0
  adjustmentBaseCent : Int := 0
  originalFeeCent : Int := 0
  adjustmentFeeCent : Int := 0
deriving DecidableEq

def LineAmounts.add (amounts : LineAmounts) (e : StatementEntry) : LineAmounts :=
  match e.sourceType with
  | .original =>
    { amounts with
      originalEntryCount := amounts.originalEntryCount + 1
      originalBaseCent := amounts.originalBaseCent + e.baseAmountCent
      originalFeeCent := amounts.originalFeeCent + e.feeAmountCent }
  | .adjustment =>
    { amounts with
      adjustmentEntryCount := amounts.adjustmentEntryCount + 1
      adjustmentBaseCent := amounts.adjustmentBaseCent + e.baseAmountCent
      adjustmentFeeCent := amounts.adjustmentFeeCent + e.feeAmountCent }

def StatementLine.amounts (l : StatementLine) : LineAmounts where
  originalEntryCount := l.originalEntryCount
  adjustmentEntryCount := l.adjustmentEntryCount
  originalBaseCent := l.originalBaseCent
  adjustmentBaseCent := l.adjustmentBaseCent
  originalFeeCent := l.originalFeeCent
  adjustmentFeeCent := l.adjustmentFeeCent

def lineTotals (entries : List StatementEntry) : Dict (Direction × String × String) LineAmounts :=
  Dict.tally {} LineAmounts.add .empty (entries.map fun e => (e.lineKey, e))

def validateLine (actual : Dict (Direction × String × String) LineAmounts) (l : StatementLine) :
    Except SettlementError (Dict (Direction × String × String) LineAmounts) := do
  ensureAuthority (actual.value? l.key).isNone "protected immutable line group is duplicated"
  ensureAuthority (l.netBaseCent = l.originalBaseCent + l.adjustmentBaseCent &&
    l.netFeeCent = l.originalFeeCent + l.adjustmentFeeCent) "protected line net amounts conflict"
  return actual.put (l.key, l.amounts)

/-- `==` of two dictionaries. -/
def sameDict {κ β : Type} [DecidableEq κ] [DecidableEq β] (d d' : Dict κ β) : Bool :=
  (d.rows.all fun entry => d'.value? entry.1 = some entry.2) &&
    d'.rows.all fun entry => d.value? entry.1 = some entry.2

def Db.validateProtectedBill (db : Db) (seen : List (SourceType × String)) (bill : Statement) :
    Except SettlementError (List (SourceType × String)) := do
  let entries := db.billing.entriesOf bill.statementId
  let lines := db.billing.linesOf bill.statementId
  let seen ← entries.foldlM (db.validateProtectedEntry bill) seen
  ensureAuthority (headerMatches bill entries)
    "protected bill entries do not match immutable header"
  let actual ← lines.foldlM validateLine .empty
  ensureAuthority (sameDict (lineTotals entries) actual)
    "protected bill entries do not match immutable lines"
  ensureAuthority (entries.all fun e =>
      (lines.find? fun l => l.statementLineId = e.statementLineId).map StatementLine.key =
        some e.lineKey)
    "protected entry is not linked to its immutable line"
  return seen

/-- The events of the months with their results and the frozen entries of the same fee. -/
def Db.frozenPairs (db : Db) (months : List Month) :
    List (FeeAdjustment × FeeResult × StatementEntry) :=
  (db.adjustments.rows.filter fun a => months.contains a.adjustmentPostingMonth &&
      db.activeAdjustment a).flatMap fun a =>
    match db.feeResults.get? a.originalFeeResultId with
    | none => []
    | some r =>
      if db.billing.protectedSlot (r.responsibleStore a.feeDirection) a.adjustmentPostingMonth then []
      else (db.billing.protectedEntries.filter fun (e, _) => e.sourceType = .original &&
        e.couponId = r.couponId && e.feeDirection = r.feeDirection).map fun (e, _) => (a, r, e)

def Db.restored (db : Db) (basis : FeeResult) : Bool :=
  (db.adjustments.rows.any fun a => a.originalFeeResultId = basis.feeResultId &&
    a.adjustmentType = .correction && a.adjustmentBaseCent = basis.feeBaseCent &&
    a.adjustmentFeeCent = basis.feeAmountCent) ||
  (db.carryforwardSources.rows.any fun s => s.originalFeeResultId = basis.feeResultId &&
    s.sourceEventKey = "reverification:" ++ basis.feeResultId && s.adjustmentType = .correction &&
    s.verifyId = basis.qualifyingVerifyId && s.adjustmentBaseCent = basis.feeBaseCent &&
    s.adjustmentFeeCent = basis.feeAmountCent)

def Db.approvedReplacement (db : Db) (env : Env) (basis : FeeResult) (e : StatementEntry) : Bool :=
  basis.reverificationAnchorId = some e.originalFeeResultId &&
  basis.resultStatus = .superseded &&
  basis.qualifyingVerifyId.any (fun id => id ≠ "") && basis.qualifyingVerifyTime.isSome &&
  (db.feeResults.get? e.originalFeeResultId).any fun anchor =>
    anchor.qualifyingVerifyId.any (fun id => id ≠ "") && anchor.qualifyingVerifyTime.isSome &&
    (basis.qualifyingVerifyId ≠ anchor.qualifyingVerifyId ||
      basis.qualifyingVerifyTime ≠ anchor.qualifyingVerifyTime) &&
    db.restored basis && db.hasVerifyCancellation anchor &&
    anchor.feeAmountCent + (db.effectiveAdjustmentTotals env anchor.feeResultId).2 = 0

def Db.validateFrozenPair (db : Db) (env : Env)
    (pair : FeeAdjustment × FeeResult × StatementEntry) : Except SettlementError Unit := do
  let (event, basis, e) := pair
  ensureAuthority (event.couponId = e.couponId && event.orderId = e.orderId &&
      event.feeDirection = e.feeDirection &&
      event.originalBusinessMonth = basis.originalBusinessMonth)
    "adjustment identity conflicts with frozen basis"
  if basis.feeResultId = e.originalFeeResultId then
    ensureAuthority (sameFrozenPrimary e basis)
      "adjustment exact immutable basis conflicts with frozen entry"
  else
    ensureAuthority (db.approvedReplacement env basis e)
      "adjustment uses an unapproved replacement of a frozen fee basis"

def Db.validateProtectedAuthority (db : Db) (env : Env) (months : List Month) :
    Except SettlementError Unit := do
  let bills := db.billing.protectedBills.filter fun s => months.contains s.statementMonth
  let _ ← bills.foldlM db.validateProtectedBill []
  (db.frozenPairs months).forM (db.validateFrozenPair env)

/-! ### The capture -/

structure SourceReference where
  sourceKind : SourceType
  sourceId : String
  storeId : Option String
  month : Month
  frozenEntryId : Option String
  basisEntryId : Option String
deriving DecidableEq

def AuthorityRow.reference (r : AuthorityRow) : SourceReference :=
  ⟨r.sourceKind, r.sourceId, r.storeId, r.month, r.frozenEntryId, r.basisEntryId⟩

/-- `SELECT DISTINCT` of the references of the months. -/
def Db.sourceReferences (db : Db) (months : List Month) : List SourceReference :=
  ((db.sparseAuthorityRelation months).map fun row => row.1.reference).dedup

def missing (message : String) : SettlementError := .valueError message

/-- The source of a reference: the frozen entry, the live result, or the event on its result or
on the frozen basis. -/
def Db.captureSource (db : Db) (snapshots : SourceSnapshots) (reference : SourceReference) :
    Except SettlementError StatementSource := do
  let storeId ← ofOption (reference.storeId.filter fun id => id ≠ "")
    (missing "billing source has no responsible store")
  match reference.frozenEntryId with
  | some entryId =>
    let e ← ofOption (db.billing.entries.get? entryId)
      (missing "protected billing entry disappeared during capture")
    db.statementSourceFromEntry e storeId
  | none =>
    match reference.sourceKind with
    | .original =>
      let result ← ofOption (db.feeResults.get? reference.sourceId)
        (missing "billing result disappeared during capture")
      resultStatementSource snapshots result
    | .adjustment =>
      let a ← ofOption (db.adjustments.get? reference.sourceId)
        (missing "billing adjustment disappeared during capture")
      let result ← ofOption (db.feeResults.get? a.originalFeeResultId)
        (missing "billing adjustment original is missing")
      match reference.basisEntryId with
      | some entryId =>
        let e ← ofOption (db.billing.entries.get? entryId)
          (missing "'NoneType' object has no attribute 'source_type'")
        db.adjustmentSourceFromEntry a e storeId
      | none => adjustmentStatementSource snapshots a result

/-- `collect_billing_sources` under the locks of all its slots. -/
def Db.collectBillingSources (db : Db) (env : Env) (snapshots : SourceSnapshots)
    (months : List Month) (slots : List (String × Month)) :
    Except SettlementError (List StatementSource) := do
  if months.isEmpty then return []
  let references := db.sourceReferences months
  Except.ensure (slots.all (fun slot => slot.1 ≠ "") &&
      references.all fun reference => reference.storeId.any fun id => id ≠ "")
    (missing "billing source has no responsible store")
  db.validateProtectedAuthority env months
  references.mapM (db.captureSource snapshots)

/-! ### The comparison with the published figures -/

def MonthlyFigures.amounts (m : MonthlyFigures) : Direction → Int × Int × Int
  | .promotion => (m.promotionBaseCent, m.promotionOriginalFeeCent, m.promotionAdjustmentFeeCent)
  | .management =>
    (m.managementBaseCent, m.managementOriginalFeeCent, m.managementAdjustmentFeeCent)

def postedAmounts (sourceType : SourceType) (base fee : Int) : Int × Int × Int :=
  match sourceType with
  | .original => (base, fee, 0)
  | .adjustment => (base, 0, fee)

def expectedAmounts (projected : List ((String × String) × MonthlyFigures)) :
    Dict (Direction × String × String) (Int × Int × Int) :=
  Dict.tally 0 (fun _ amounts => amounts) .empty
    (projected.flatMap fun row => [((.promotion, row.1), row.2.amounts .promotion),
      ((.management, row.1), row.2.amounts .management)])

def actualAmounts (rows : List StatementSource) :
    Dict (Direction × String × String) (Int × Int × Int) :=
  Dict.tally 0 (· + ·) .empty (rows.flatMap fun s =>
    (projectionDimensions s.productScope s.productType).map fun dimension =>
      ((s.feeDirection, dimension), postedAmounts s.sourceType s.baseAmountCent s.feeAmountCent))

def validateProjection (rows : List StatementSource)
    (projected : List ((String × String) × MonthlyFigures)) : Except SettlementError Unit :=
  let expected := expectedAmounts projected
  let actual := actualAmounts rows
  let keys := expected.rows.map Prod.fst ++ actual.rows.map Prod.fst
  .ensure (keys.all fun key => (actual.value? key).getD 0 = (expected.value? key).getD 0)
    (.valueError "billing sources do not match published projection")

def Db.projectedRows (db : Db) (storeId : String) (month : Month) :
    List ((String × String) × MonthlyFigures) :=
  ((db.sparseMonthlyQuery month).rows.filter fun row => row.1.1 = some storeId).map
    fun row => (row.1.2, row.2.figures)

end DyData.Settlement
