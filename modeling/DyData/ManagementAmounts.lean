import DyData.ManagementProjection

/-!
The amount an import must give for a month, and the amount that is shown for it.  Both come from
the projection; the import evaluates it up to the month itself, the pages over all months.
-/

namespace DyData.Settlement

open Relational FifoNetting List

variable {row : ConfirmedBill} {p : Period}

/-! ### Amounts in closed form -/

def Billing.signedAmount (b : Billing) (scope : ProjectionScope) (row : ConfirmedBill) : Int :=
  Settlement.signedAmount (b.scopedInvoices scope) (b.lockedApplications scope) row

def Billing.balanceBefore (b : Billing) (scope : ProjectionScope) (month : Month) : Int :=
  (((b.managementBills scope).filter fun row => row.1.statementMonth < month).map
    (b.signedAmount scope)).sum

def Billing.debitAfter (b : Billing) (scope : ProjectionScope) (month : Month) : Int :=
  (((b.managementBills scope).filter fun row => month < row.1.statementMonth).map fun row =>
    max 0 (-b.signedAmount scope row)).sum

theorem mem_managementBills_store {b : Billing} {storeId : String} :
    row ∈ b.managementBills (storeScope storeId) ↔
      (row.1 ∈ b.statements.rows ∧ row.1.isCurrent = true ∧
        formalSettlementStart ≤ row.1.statementMonth ∧ row.1.storeId = storeId) ∧
      row.2 ∈ b.confirmations.rows ∧ row.2.statementId = row.1.statementId ∧
        row.2.feeDirection = .management := by
  rw [Billing.managementBills, mem_confirmedBills]
  simp [storeScope, ProjectionScope.covers]

/-- A bill and its confirmation are found from the identifier of the bill. -/
theorem managementBill_eq {b : Billing} (hb : b.Indexed) {scope scope' : ProjectionScope}
    {x y : ConfirmedBill} (hx : x ∈ b.managementBills scope) (hy : y ∈ b.managementBills scope')
    (hid : x.1.statementId = y.1.statementId) : x = y := by
  obtain ⟨⟨hxs, _, _, _⟩, hxr, hxid, hxd⟩ := mem_confirmedBills.mp hx
  obtain ⟨⟨hys, _, _, _⟩, hyr, hyid, hyd⟩ := mem_confirmedBills.mp hy
  have hstm : x.1 = y.1 := b.statements.eq_of_key_eq hxs hys hid
  have hconf : x.2 = y.2 :=
    hb.confirmationSlot _ hxr _ hyr (by rw [hxid, hyid, hid]) (by rw [hxd, hyd])
  exact Prod.ext hstm hconf

section Store

variable {b : Billing} {scope : ProjectionScope} {storeId : String}

section

variable (hb : b.Indexed) (hsc : scope.storeId = some storeId)
include hsc

theorem covers_store {s : Statement} (h : scope.covers s = true) : s.storeId = storeId := by
  simp only [ProjectionScope.covers, hsc, Option.all_some, bool_to_prop] at h
  exact h.1.1.1

theorem managementBills_store : ∀ row ∈ b.managementBills scope, row.1.storeId = storeId :=
  fun _ hrow => covers_store hsc (mem_confirmedBills.mp hrow).1.2.2.2

theorem pending_projection :
    (b.managementInvoiceableProjection scope).pending = (⟨[], []⟩ : Tally (String × Month)).run
        ((b.managementBills scope).map fun row => (billKey row, b.signedAmount scope row)) :=
  pending_foldl (managementBills_store hsc) (.inr rfl)

include hb

theorem managementBills_months :
    (b.managementBills scope).Pairwise fun x y => x.1.statementMonth < y.1.statementMonth :=
  months_increase hb fun _ => covers_store hsc

theorem nodup_billKeys : ((b.managementBills scope).map billKey).Nodup := by
  refine pairwise_map.mpr ((managementBills_months hb hsc).imp ?_)
  intro x y hlt heq
  have hmo : x.1.statementMonth = y.1.statementMonth := congrArg Prod.snd heq
  exact absurd hmo hlt.ne

theorem walked_projection :
    Walked (b.scopedInvoices scope) storeId (b.managementBills scope)
      (b.managementInvoiceableProjection scope) := by
  have hst0 : Walked (b.scopedInvoices scope) storeId []
      { applications := (b.lockedApplications scope).map ManagementApplication.projected } :=
    ⟨.inr rfl, Tally.sound_empty, nofun, .nil⟩
  exact hst0.foldl (managementBills_store hsc) (nodup_billKeys hb hsc)

theorem exists_bill_of_period (hp : p ∈ (b.managementInvoiceableProjection scope).periods) :
    ∃ row ∈ b.managementBills scope, PeriodOf (b.scopedInvoices scope)
      (b.managementInvoiceableProjection scope).pending.positives row p :=
  (exists_of_forall₂ (walked_projection hb hsc).periods).2 p hp

theorem exists_period_of_bill (hrow : row ∈ b.managementBills scope) :
    ∃ p ∈ (b.managementInvoiceableProjection scope).periods, PeriodOf (b.scopedInvoices scope)
        (b.managementInvoiceableProjection scope).pending.positives row p :=
  (exists_of_forall₂ (walked_projection hb hsc).periods).1 row hrow

/-- The period found for the month of a bill is the period of that bill. -/
theorem exists_period_of_month (hrow : row ∈ b.managementBills scope) :
    ∃ p, (b.managementInvoiceableProjection scope).periods.find?
        (fun p => decide (p.statementMonth = row.1.statementMonth)) = some p ∧
      PeriodOf (b.scopedInvoices scope)
        (b.managementInvoiceableProjection scope).pending.positives row p := by
  cases hfind : (b.managementInvoiceableProjection scope).periods.find?
      (fun p => decide (p.statementMonth = row.1.statementMonth)) with
  | none =>
    obtain ⟨q, hq, hqper⟩ := exists_period_of_bill hb hsc hrow
    have hoth := find?_eq_none.mp hfind q hq
    rw [hqper.statementMonth] at hoth
    simp at hoth
  | some p =>
    obtain ⟨other, hoth, hper⟩ :=
      exists_bill_of_period hb hsc (mem_of_find?_eq_some hfind)
    have hmo : p.statementMonth = row.1.statementMonth := by simpa using find?_some hfind
    have hsame : other = row := by
      refine confirmedBill_eq hb hoth hrow ?_
      rw [Statement.slot, Statement.slot, managementBills_store hsc _ hoth,
        managementBills_store hsc _ hrow, ← hper.statementMonth, hmo]
    exact ⟨p, rfl, hsame ▸ hper⟩

end

/-- Around one bill, the months before and after it are the rest of the walk. -/
theorem filter_around {before after : List ConfirmedBill}
    (hsort : (before ++ row :: after).Pairwise fun x y => x.1.statementMonth < y.1.statementMonth) :
    (before ++ row :: after).filter
        (fun r => decide (r.1.statementMonth < row.1.statementMonth)) = before ∧
    (before ++ row :: after).filter
        (fun r => decide (row.1.statementMonth < r.1.statementMonth)) = after := by
  obtain ⟨_, hrest, hacr⟩ := pairwise_append.mp hsort
  have haft := (pairwise_cons.mp hrest).1
  have hbef : ∀ x ∈ before, x.1.statementMonth < row.1.statementMonth :=
    fun x hx => hacr x hx row mem_cons_self
  rw [filter_append, filter_append, filter_cons, filter_cons]
  simp only [lt_irrefl, decide_false, Bool.false_eq_true, if_false]
  constructor
  · rw [filter_eq_self.mpr fun x hx => decide_eq_true (hbef x hx),
      filter_eq_nil_iff.mpr fun x hx => by simpa using (haft x hx).le, append_nil]
  · rw [filter_eq_nil_iff.mpr fun x hx => by simpa using (hbef x hx).le,
      filter_eq_self.mpr fun x hx => decide_eq_true (haft x hx), nil_append]

/-- What is invoiceable for a positive month without invoice: of the interval from the balance
before it to the balance after it, what later debits do not reach. -/
theorem invoiceable_eq (hb : b.Indexed) (hsc : scope.storeId = some storeId)
    (hrow : row ∈ b.managementBills scope) (hpos : 0 < row.2.confirmedAmountCent)
    (huninv : invoiceOf (b.scopedInvoices scope) row.1.statementId = none)
    (hp : PeriodOf (b.scopedInvoices scope)
      (b.managementInvoiceableProjection scope).pending.positives row p) :
    p.invoiceableAmountCent =
      max 0 (b.balanceBefore scope row.1.statementMonth + row.2.confirmedAmountCent -
        b.debitAfter scope row.1.statementMonth) -
      max 0 (b.balanceBefore scope row.1.statementMonth -
        b.debitAfter scope row.1.statementMonth) := by
  obtain ⟨before, after, hspl⟩ := append_of_mem hrow
  have hsort := managementBills_months hb hsc
  have hnd := nodup_billKeys hb hsc
  have hsign : b.signedAmount scope row = row.2.confirmedAmountCent := by
    rw [Billing.signedAmount, Settlement.signedAmount, if_pos hpos, huninv]
    rfl
  rw [hspl] at hsort hnd
  obtain ⟨hbef, haft⟩ := filter_around hsort
  have hbal : b.balanceBefore scope row.1.statementMonth =
      total (before.map fun r => (billKey r, b.signedAmount scope r)) := by
    rw [Billing.balanceBefore, hspl, hbef, total, map_map]
    rfl
  have hdebit : b.debitAfter scope row.1.statementMonth =
      Tally.debit (after.map fun r => (billKey r, b.signedAmount scope r)) := by
    rw [Billing.debitAfter, hspl, haft, Tally.debit, map_map]
    rfl
  have hkeys (rows : List ConfirmedBill) :
      (rows.map fun r => (billKey r, b.signedAmount scope r)).map Prod.fst = rows.map billKey := by
    rw [map_map]
    rfl
  rw [map_append, map_cons, nodup_append, nodup_cons] at hnd
  rw [hp.invoiceable, pending_projection hsc, hspl, map_append, map_cons, hsign, hbal, hdebit]
  refine Tally.pendingOf_run hpos ?_ ?_
  · rw [hkeys]
    exact fun hmem => hnd.2.2 _ hmem _ mem_cons_self rfl
  · rw [hkeys]
    exact hnd.2.1.1

end Store

/-! ### Looking only up to the month itself -/

section Horizon

variable {b : Billing} {storeId : String} {month : Month}

theorem covers_horizon {s : Statement} : (horizon storeId month).covers s = true ↔
      (storeScope storeId).covers s = true ∧ s.statementMonth ≤ month := by
  simp [horizon, storeScope, ProjectionScope.covers]

theorem mem_managementBills_horizon : row ∈ b.managementBills (horizon storeId month) ↔
      row ∈ b.managementBills (storeScope storeId) ∧ row.1.statementMonth ≤ month := by
  rw [Billing.managementBills, Billing.managementBills, mem_confirmedBills, mem_confirmedBills,
    covers_horizon]
  tauto

/-- The invoice of a bill does not depend on the horizon. -/
theorem invoiceOf_horizon (hrow : row ∈ b.managementBills (horizon storeId month)) :
    invoiceOf (b.scopedInvoices (horizon storeId month)) row.1.statementId =
      invoiceOf (b.scopedInvoices (storeScope storeId)) row.1.statementId := by
  have hfull := (mem_managementBills_horizon.mp hrow).1
  have hids (scope : ProjectionScope) (hmem : row ∈ b.managementBills scope) :
      ((b.managementBills scope).map fun r => r.1.statementId).contains row.1.statementId =
        true := contains_iff_mem.mpr (mem_map_of_mem hmem)
  unfold invoiceOf Billing.scopedInvoices
  rw [← filter_reverse, ← filter_reverse, find?_filter, find?_filter]
  refine find?_congr fun r _ => ?_
  by_cases hid : r.statementId = row.1.statementId
  · rw [hid, hids _ hrow, hids _ hfull]
    rfl
  · simp [hid]

theorem debitAfter_horizon : b.debitAfter (horizon storeId month) month = 0 := by
  have hnone : (b.managementBills (horizon storeId month)).filter
      (fun row => decide (month < row.1.statementMonth)) = [] := by
    refine filter_eq_nil_iff.mpr fun row hrow => ?_
    simpa using (mem_managementBills_horizon.mp hrow).2
  rw [Billing.debitAfter, hnone]
  rfl

end Horizon

/-! ### What an import accepts -/

/-- `_finance_import_error`. -/
structure ImportError where
  rowNumber : Nat
  businessKey : String
  field : String
  originalValue : String
  reason : String
  suggestion : String
deriving DecidableEq

/-- `_append_management_amount_errors`; an amount that is no positive number of cents is absent. -/
def Billing.managementAmountErrors (b : Billing) (rowNumber : Nat) (businessKey storeId : String)
    (month : Month) (amount : Option Int) : List ImportError :=
  let error := ImportError.mk rowNumber businessKey
  let amountText := (amount.map toString).getD ""
  match (b.managementInvoiceableProjection (horizon storeId month)).periods.find? fun p =>
      p.statementMonth = month with
  | none =>
    if storeId ≠ "" then
      [error "businessKey" businessKey "未找到当前账期有效的管理服务费确认" "先完成对应账期管理服务费确认"]
    else []
  | some p =>
    if p.invoiceId.isSome then
      [error "businessKey" businessKey "当前账期已存在有效管理服务费发票"
        "更正当前版本或选择仍有可开票金额的账期"]
    else if p.invoiceableAmountCent ≤ 0 then
      [error "deductionAmountCent" amountText "当前账期经负数结转后无可开票金额"
        "等待后续正数账期或核对当前有效账单"]
    else if amount.any fun cents => p.invoiceableAmountCent ≠ cents then
      [error "deductionAmountCent" amountText "金额必须等于当前管理服务费可开票金额"
        "填写负数结转后的可开票全额，不允许部分扣款"]
    else []

/-- The import takes exactly what is invoiceable up to the month. -/
theorem managementAmountErrors_eq_nil_iff {b : Billing} {rowNumber : Nat}
    {businessKey storeId : String} {month : Month} {cents : Int}
    (hp : (b.managementInvoiceableProjection (horizon storeId month)).periods.find?
      (fun p => decide (p.statementMonth = month)) = some p) (hinv : p.invoiceId = none) :
    b.managementAmountErrors rowNumber businessKey storeId month (some cents) = [] ↔
      0 < p.invoiceableAmountCent ∧ cents = p.invoiceableAmountCent := by
  unfold Billing.managementAmountErrors
  rw [hp]
  dsimp only
  rw [hinv, if_neg (by decide)]
  by_cases hnone : p.invoiceableAmountCent ≤ 0
  · rw [if_pos hnone]
    simp only [reduceCtorEq, false_iff, not_and]
    omega
  · rw [if_neg hnone]
    by_cases hsame : p.invoiceableAmountCent = cents
    · simp [hsame]
      omega
    · rw [if_pos (by simpa using hsame)]
      simp only [reduceCtorEq, false_iff, not_and]
      intro _ h
      exact hsame h.symm

namespace LaterCredit

/-- August with 100 cents and September with `september`, both confirmed for management. -/
def bill (id : String) (month : Month) (net : Int) : Statement where
  statementId := id
  storeId := "store-1"
  statementMonth := month
  statementStatus := .confirmed
  managementOriginalFeeCent := net
  managementNetFeeCent := net

def confirmation (id : String) (net : Int) : StatementConfirmation where
  confirmationId := id
  statementId := id
  feeDirection := .management
  confirmedAmountCent := net

def august : Month := formalSettlementStart

def bills (september : Int) : Billing where
  statements := ⟨[bill "a" august 100, bill "s" (august + 1) september], by
    change ["a", "s"].Nodup
    decide⟩
  confirmations := ⟨[confirmation "a" 100, confirmation "s" september], by
    change ["a", "s"].Nodup
    decide⟩

theorem bills_indexed (september : Int) : (bills september).Indexed where
  currentSlot := by
    intro s hs t ht _ _ hslot
    simp only [bills, mem_cons, not_mem_nil, or_false] at hs ht
    rcases hs with rfl | rfl <;> rcases ht with rfl | rfl <;>
      first | rfl | simp [Statement.slot, bill] at hslot
  confirmationSlot := by
    intro c hc d hd hid _
    simp only [bills, mem_cons, not_mem_nil, or_false] at hc hd
    rcases hc with rfl | rfl <;> rcases hd with rfl | rfl <;>
      first | rfl | simp [confirmation] at hid

def shown (invoiceable : Int) : Period where
  storeId := "store-1"
  statementId := "a"
  statementMonth := august
  confirmedAmountCent := 100
  invoiceId := none
  invoiceVersion := none
  invoiceableAmountCent := invoiceable

end LaterCredit

end DyData.Settlement
