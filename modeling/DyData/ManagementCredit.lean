import DyData.ManagementApplications

/-!
Conservation of the management fees: what is invoiced, what can be invoiced and what negative
months have left over, against the bills that the stores confirmed.
-/

namespace DyData.Settlement

open Option
open Relational FifoNetting List

variable {row : ConfirmedBill} {month : Month}

def Billing.confirmedStatements (b : Billing) (storeId : String) : List Statement :=
  b.statements.rows.filter fun s => s.storeId = storeId && s.isCurrent &&
    (b.confirmationOf s.statementId .management).isSome

def Billing.completedInvoices (b : Billing) (storeId : String) : List InvoiceRecord :=
  b.invoiceRecords.rows.filter fun r => r.storeId = storeId && r.isCompleted

def Projection.appliedFrom (p : Projection) (statementId : String) : Int :=
  ((p.applications.filter fun a => a.sourceStatementId = statementId).map
    ProjectedApplication.appliedAmountCent).sum

def Projection.unapplied (p : Projection) : Int :=
  ((p.periods.filter fun q => q.confirmedAmountCent < 0).map fun q =>
    -q.confirmedAmountCent - p.appliedFrom q.statementId).sum

def Projection.invoiceable (p : Projection) : Int :=
  (p.periods.map Period.invoiceableAmountCent).sum

def Billing.ConservesCredit (b : Billing) (storeId : String) : Prop :=
  ((b.completedInvoices storeId).map InvoiceRecord.invoiceAmountCent).sum +
      (b.managementInvoiceableProjection (storeScope storeId)).invoiceable -
      (b.managementInvoiceableProjection (storeScope storeId)).unapplied =
    ((b.confirmedStatements storeId).map Statement.managementNetFeeCent).sum

instance (b : Billing) (storeId : String) : Decidable (b.ConservesCredit storeId) :=
  inferInstanceAs (Decidable (_ = _))

def FinanceAction.confirmsOrCommits : FinanceAction → Bool
  | .bill (.confirm _ _) | .commitRow .. | .closeBatch _ => true
  | _ => false

structure Billing.Unconfirmed (b : Billing) : Prop where
  currentSlot : ∀ s ∈ b.statements.rows, ∀ t ∈ b.statements.rows, s.isCurrent = true →
    t.isCurrent = true → s.slot = t.slot → s = t
  formal : ∀ s ∈ b.statements.rows, formalSettlementStart ≤ s.statementMonth
  confirmations : b.confirmations.rows = []
  disputes : b.disputes.rows = []
  invoiceRecords : b.invoiceRecords.rows = []
  managementApplications : b.managementApplications.rows = []
  importRows : b.importRows.rows = []

/-! ### What confirmations and commits keep -/

structure CreditLedger (b : Billing) : Prop where
  indexed : b.Indexed
  formal : ∀ s ∈ b.statements.rows, formalSettlementStart ≤ s.statementMonth
  undisputed : b.disputes.rows = []
  /-- A negative bill is confirmed with zero. -/
  confirmed : ∀ c ∈ b.confirmations.rows, c.feeDirection = .management →
    ∃ s ∈ b.statements.rows, s.statementId = c.statementId ∧
      c.confirmedAmountCent = max s.managementNetFeeCent 0
  unapplied : b.managementApplications.rows = []
  /-- A current invoice is for the full amount of the confirmed bill of its month. -/
  invoiced : ∀ r ∈ b.invoiceRecords.rows, r.isCurrent = true → r.isCompleted = true ∧
    ∃ row ∈ b.managementBills (storeScope r.storeId), row.1.statementId = r.statementId ∧
      row.1.statementMonth = r.statementMonth ∧ row.2.confirmedAmountCent = r.invoiceAmountCent
  slot : ∀ r ∈ b.invoiceRecords.rows, ∀ r' ∈ b.invoiceRecords.rows, r.isCurrent = true →
    r'.isCurrent = true → r.storeId = r'.storeId → r.statementMonth = r'.statementMonth → r = r'
  imported : ∀ row ∈ b.importRows.rows, ∃ r ∈ b.invoiceRecords.rows,
    row.targetRecordId = some r.invoiceId ∧
      row.payload.deductionAmountCent = some r.invoiceAmountCent

namespace CreditLedger

variable {b : Billing} {scope : ProjectionScope} {storeId : String}

section

variable (h : CreditLedger b)
include h

theorem confirmed_eq (hrow : row ∈ b.managementBills scope) :
    row.2.confirmedAmountCent = max row.1.managementNetFeeCent 0 := by
  obtain ⟨⟨hs, _, _, _⟩, hc, hid, hdir⟩ := mem_confirmedBills.mp hrow
  obtain ⟨s, hsmem, hsid, hamt⟩ := h.confirmed _ hc hdir
  have hsame : s = row.1 := b.statements.eq_of_key_eq hsmem hs (hsid.trans hid)
  rw [hamt, hsame]

theorem confirmed_nonneg (hrow : row ∈ b.managementBills scope) :
    0 ≤ row.2.confirmedAmountCent := by
  rw [h.confirmed_eq hrow]
  exact le_max_right _ _

theorem signedAmount_nonneg (hrow : row ∈ b.managementBills scope) :
    0 ≤ b.signedAmount scope row := by
  have hnn := h.confirmed_nonneg hrow
  unfold Billing.signedAmount Settlement.signedAmount
  dsimp only
  split
  · split <;> omega
  · rw [if_neg (by omega)]

theorem balanceBefore_nonneg (month : Month) : 0 ≤ b.balanceBefore scope month := by
  refine sum_nonneg fun x hx => ?_
  obtain ⟨_, hrow, rfl⟩ := List.mem_map.mp hx
  exact h.signedAmount_nonneg (mem_filter.mp hrow).1

theorem debitAfter_eq_zero (month : Month) : b.debitAfter scope month = 0 := by
  refine sum_eq_zero fun x hx => ?_
  obtain ⟨_, hrow, rfl⟩ := List.mem_map.mp hx
  have hnn := h.signedAmount_nonneg (mem_filter.mp hrow).1
  omega

theorem invoiceable_period (hsc : scope.storeId = some storeId)
    (hrow : row ∈ b.managementBills scope) {p : Period}
    (hp : PeriodOf (b.scopedInvoices scope)
      (b.managementInvoiceableProjection scope).pending.positives row p) :
    p.invoiceableAmountCent =
      if (invoiceOf (b.scopedInvoices scope) row.1.statementId).isSome then 0
      else row.2.confirmedAmountCent := by
  have hnn := h.confirmed_nonneg hrow
  by_cases hopen : 0 < row.2.confirmedAmountCent ∧
      invoiceOf (b.scopedInvoices scope) row.1.statementId = none
  · have heq := invoiceable_eq h.indexed hsc hrow hopen.1 hopen.2 hp
    have hbal : 0 ≤ b.balanceBefore scope row.1.statementMonth := h.balanceBefore_nonneg _
    have hdebit : b.debitAfter scope row.1.statementMonth = 0 := h.debitAfter_eq_zero _
    rw [hopen.2, heq]
    simp only [isSome_none, Bool.false_eq_true, if_false]
    omega
  · -- no credit of the bill is pending
    have hnone : billKey row ∉
        (b.managementInvoiceableProjection scope).pending.positives.map Prod.fst := by
      intro hpend
      obtain ⟨owner, hown, hkey, hrest⟩ := (offered_projection b scope).owners _ hpend
      have hsame : owner = row :=
        managementBill_eq h.indexed hown hrow (congrArg Prod.fst hkey)
      rw [hsame] at hrest
      exact hopen hrest
    rw [hp.invoiceable, Tally.pendingOf_eq_zero hnone]
    split
    · rfl
    · rename_i hinv
      have huninv := not_isSome_iff_eq_none.mp hinv
      have hzero : ¬ 0 < row.2.confirmedAmountCent := fun hpos => hopen ⟨hpos, huninv⟩
      omega

theorem applications_eq_nil (hsc : scope.storeId = some storeId) :
    (b.managementInvoiceableProjection scope).applications = [] := by
  have hmoves : b.managementMoves scope = [] := by
    refine Tally.log_eq_nil rfl fun e he => ?_
    obtain ⟨_, hrow, rfl⟩ := List.mem_map.mp he
    exact h.signedAmount_nonneg hrow
  rw [applications_projection hsc, hmoves, Billing.lockedApplications, h.unapplied]
  rfl

/-! ### The sums -/

theorem nodup_statementIds (scope : ProjectionScope) :
    ((b.managementBills scope).map fun row => row.1.statementId).Nodup :=
  Nodup.map_on (fun _ hx _ hy hid => managementBill_eq h.indexed hx hy hid)
    nodup_confirmedBills

theorem bill_of_invoice {r : InvoiceRecord} (hr : r ∈ b.invoiceRecords.rows)
    (hdone : r.isCompleted = true) :
    ∃ row ∈ b.managementBills (storeScope r.storeId), row.1.statementId = r.statementId ∧
      row.1.statementMonth = r.statementMonth ∧
      row.2.confirmedAmountCent = r.invoiceAmountCent := by
  have hcur : r.isCurrent = true := by
    simp only [InvoiceRecord.isCompleted, Bool.and_eq_true] at hdone
    exact hdone.1.1.1.2
  exact (h.invoiced r hr hcur).2

end

theorem invoiceOf_isSome_iff (b : Billing) (storeId statementId : String)
    (hid : ((b.managementBills (storeScope storeId)).map fun row => row.1.statementId).contains
      statementId = true) :
    (invoiceOf (b.scopedInvoices (storeScope storeId)) statementId).isSome = true ↔
      ∃ r ∈ b.invoiceRecords.rows, r.isCompleted = true ∧ r.statementId = statementId := by
  unfold invoiceOf
  rw [find?_isSome]
  constructor
  · rintro ⟨r, hr, hrid⟩
    rw [mem_reverse] at hr
    obtain ⟨hmem, hscop⟩ := mem_filter.mp hr
    simp only [Bool.and_eq_true] at hscop
    exact ⟨r, hmem, hscop.1.2, of_decide_eq_true hrid⟩
  · rintro ⟨r, hr, hdone, rfl⟩
    refine ⟨r, mem_reverse.mpr (mem_filter.mpr ⟨hr, ?_⟩), decide_eq_true rfl⟩
    rw [hid, hdone]
    rfl

theorem sum_completedInvoices (h : CreditLedger b) (storeId : String) :
    ((b.completedInvoices storeId).map InvoiceRecord.invoiceAmountCent).sum =
      (((b.managementBills (storeScope storeId)).filter fun row =>
        (invoiceOf (b.scopedInvoices (storeScope storeId)) row.1.statementId).isSome).map
          fun row => row.2.confirmedAmountCent).sum := by
  have hmem {row : ConfirmedBill} (hrow : row ∈ b.managementBills (storeScope storeId)) :
      ((b.managementBills (storeScope storeId)).map fun row => row.1.statementId).contains
        row.1.statementId = true := contains_iff_mem.mpr (List.mem_map_of_mem hrow)
  have hinv {r : InvoiceRecord} (hr : r ∈ b.completedInvoices storeId) :
      r ∈ b.invoiceRecords.rows ∧ r.storeId = storeId ∧ r.isCompleted = true ∧
        r.isCurrent = true := by
    obtain ⟨hr, hkeep⟩ := mem_filter.mp hr
    simp only [bool_to_prop] at hkeep
    refine ⟨hr, hkeep.1, hkeep.2, ?_⟩
    have hdone := hkeep.2
    simp only [InvoiceRecord.isCompleted, Bool.and_eq_true] at hdone
    exact hdone.1.1.1.2
  refine sum_eq_of_keys (k := InvoiceRecord.statementId) (j := fun row => row.1.statementId)
    ?_ ?_ ?_ ?_
  · refine Nodup.map_on ?_ ((Nodup.of_map _ b.invoiceRecords.nodup).filter _)
    intro r hr r' hr' hid
    obtain ⟨hr, hst, hdone, hcur⟩ := hinv hr
    obtain ⟨hr', hst', hdone', hcur'⟩ := hinv hr'
    obtain ⟨row, hrow, hrid, hmo, _⟩ := h.bill_of_invoice hr hdone
    obtain ⟨row', hrow', hrid', hmo', _⟩ := h.bill_of_invoice hr' hdone'
    have hsame : row = row' :=
      managementBill_eq h.indexed hrow hrow' (by rw [hrid, hrid', hid])
    refine h.slot r hr r' hr' hcur hcur' (hst.trans hst'.symm) ?_
    rw [← hmo, ← hmo', hsame]
  · exact (h.nodup_statementIds _).sublist (filter_sublist.map _)
  · intro r hr
    obtain ⟨hr, hst, hdone, _⟩ := hinv hr
    obtain ⟨row, hrow, hid, _, hamt⟩ := h.bill_of_invoice hr hdone
    rw [hst] at hrow
    refine ⟨row, mem_filter.mpr ⟨hrow, ?_⟩, hid.symm, hamt.symm⟩
    exact (invoiceOf_isSome_iff b storeId _ (hmem hrow)).mpr ⟨r, hr, hdone, hid.symm⟩
  · intro row hrow
    obtain ⟨hrow, hsome⟩ := mem_filter.mp hrow
    obtain ⟨r, hr, hdone, hid⟩ := (invoiceOf_isSome_iff b storeId _ (hmem hrow)).mp hsome
    obtain ⟨row', hrow', hid', _, hamt⟩ := h.bill_of_invoice hr hdone
    have hsame : row' = row := managementBill_eq h.indexed hrow' hrow (hid'.trans hid)
    have hst : r.storeId = storeId := by
      have hleft := (mem_managementBills_store.mp hrow').1.2.2.2
      have hright := (mem_managementBills_store.mp hrow).1.2.2.2
      rw [← hleft, hsame, hright]
    refine ⟨r, mem_filter.mpr ⟨hr, ?_⟩, hid, ?_⟩
    · rw [hdone, decide_eq_true hst]
      rfl
    · rw [← hamt, hsame]

theorem mem_confirmedStatements (h : CreditLedger b) {s : Statement} :
    s ∈ b.confirmedStatements storeId ↔
      ∃ row ∈ b.managementBills (storeScope storeId), row.1 = s := by
  constructor
  · intro hs
    obtain ⟨hs, hkeep⟩ := mem_filter.mp hs
    simp only [bool_to_prop] at hkeep
    obtain ⟨c, hc⟩ := isSome_iff_exists.mp hkeep.2
    have hcmem := mem_of_find?_eq_some hc
    have hckey := find?_some hc
    simp only [bool_to_prop] at hckey
    exact ⟨(s, c), mem_managementBills_store.mpr
      ⟨⟨hs, hkeep.1.2, h.formal s hs, hkeep.1.1⟩, hcmem, hckey⟩, rfl⟩
  · rintro ⟨row, hrow, rfl⟩
    obtain ⟨⟨hs, hcur, _, hst⟩, hc, hid, hdir⟩ := mem_managementBills_store.mp hrow
    have hfd : (b.confirmationOf row.1.statementId .management).isSome = true :=
      find?_isSome.mpr ⟨row.2, hc, by simp [hid, hdir]⟩
    refine mem_filter.mpr ⟨hs, ?_⟩
    rw [hfd, hcur, decide_eq_true hst]
    rfl

theorem sum_confirmedStatements (h : CreditLedger b) (storeId : String) :
    ((b.confirmedStatements storeId).map Statement.managementNetFeeCent).sum =
      ((b.managementBills (storeScope storeId)).map fun row => row.1.managementNetFeeCent).sum := by
  refine sum_eq_of_keys (k := Statement.statementId) (j := fun row => row.1.statementId)
    (b.statements.nodup.sublist (filter_sublist.map _)) (h.nodup_statementIds _) ?_ ?_
  · intro s hs
    obtain ⟨row, hrow, rfl⟩ := h.mem_confirmedStatements.mp hs
    exact ⟨row, hrow, rfl, rfl⟩
  · intro row hrow
    exact ⟨row.1, h.mem_confirmedStatements.mpr ⟨row, hrow, rfl⟩, rfl, rfl⟩

/-- A total, split into what is set aside and the rest. -/
theorem sum_set_aside {α : Type*} (aside : α → Bool) (f : α → Int) (l : List α) :
    ((l.filter aside).map f).sum + (l.map fun a => if aside a then 0 else f a).sum =
      (l.map f).sum := by
  induction l with
  | nil => rfl
  | cons a l ih =>
    by_cases ha : aside a = true
    · simp only [filter_cons, ha, if_true, map_cons, sum_cons]
      omega
    · simp only [filter_cons, ha, map_cons, sum_cons, Bool.false_eq_true, if_false]
      omega

/-- Cutting off the negative terms keeps a total only when there are none. -/
theorem sum_max_eq_iff {α : Type*} (f : α → Int) (l : List α) :
    (l.map fun a => max (f a) 0).sum = (l.map f).sum ↔ ∀ a ∈ l, 0 ≤ f a := by
  have hle (m : List α) : (m.map f).sum ≤ (m.map fun a => max (f a) 0).sum :=
    sum_le_sum fun a _ => le_max_left _ _
  induction l with
  | nil => simp
  | cons a l ih =>
    have hrest := hle l
    rw [forall_mem_cons, map_cons, map_cons, sum_cons, sum_cons]
    constructor
    · intro hsum
      exact ⟨by omega, ih.mp (by omega)⟩
    · rintro ⟨ha, hl⟩
      have htail := ih.mpr hl
      omega

theorem sum_invoiceable (h : CreditLedger b) (storeId : String) :
    (b.managementInvoiceableProjection (storeScope storeId)).invoiceable =
      ((b.managementBills (storeScope storeId)).map fun row =>
        if (invoiceOf (b.scopedInvoices (storeScope storeId)) row.1.statementId).isSome then 0
        else row.2.confirmedAmountCent).sum := by
  have hwalk : Walked (b.scopedInvoices (storeScope storeId)) storeId
      (b.managementBills (storeScope storeId))
      (b.managementInvoiceableProjection (storeScope storeId)) := walked_projection h.indexed rfl
  exact congrArg sum (map_eq_of_forall₂ hwalk.periods fun row hrow p hp =>
    h.invoiceable_period rfl hrow hp)

theorem conservesCredit_iff (h : CreditLedger b) (storeId : String) : b.ConservesCredit storeId ↔
      ∀ s ∈ b.confirmedStatements storeId, 0 ≤ s.managementNetFeeCent := by
  have hunap : (b.managementInvoiceableProjection (storeScope storeId)).unapplied = 0 := by
    refine sum_eq_zero fun x hx => ?_
    obtain ⟨_, hq, rfl⟩ := List.mem_map.mp hx
    obtain ⟨hq, hneg⟩ := mem_filter.mp hq
    obtain ⟨row, hrow, hper⟩ := exists_bill_of_period h.indexed rfl hq
    have hnn := h.confirmed_nonneg hrow
    rw [decide_eq_true_eq, hper.confirmed] at hneg
    omega
  have hspl := sum_set_aside (fun row : ConfirmedBill =>
      (invoiceOf (b.scopedInvoices (storeScope storeId)) row.1.statementId).isSome)
    (fun row => row.2.confirmedAmountCent) (b.managementBills (storeScope storeId))
  have hconf : ((b.managementBills (storeScope storeId)).map fun row =>
        row.2.confirmedAmountCent).sum =
      ((b.managementBills (storeScope storeId)).map fun row =>
        max row.1.managementNetFeeCent 0).sum :=
    congrArg sum (map_congr_left fun row hrow => h.confirmed_eq hrow)
  rw [Billing.ConservesCredit, hunap, h.sum_completedInvoices, h.sum_invoiceable, hspl,
    hconf, h.sum_confirmedStatements, sub_zero,
    sum_max_eq_iff fun row : ConfirmedBill => row.1.managementNetFeeCent]
  constructor
  · intro hall s hs
    obtain ⟨row, hrow, rfl⟩ := h.mem_confirmedStatements.mp hs
    exact hall row hrow
  · intro hall row hrow
    exact hall row.1 (h.mem_confirmedStatements.mpr ⟨row, hrow, rfl⟩)

/-! ### One step -/

theorem of_unconfirmed (h : b.Unconfirmed) : CreditLedger b where
  indexed := ⟨h.currentSlot, by simp [h.confirmations]⟩
  formal := h.formal
  undisputed := h.disputes
  confirmed := by simp [h.confirmations]
  unapplied := h.managementApplications
  invoiced := by simp [h.invoiceRecords]
  slot := by simp [h.invoiceRecords]
  imported := by simp [h.importRows]

theorem confirm (h : CreditLedger b) {b' : Billing} {context : RequestContext} {r : ConfirmRequest}
    (hconf : b.confirmStoreSettlement context r = .ok b') : CreditLedger b' := by
  rcases confirmStoreSettlement_ok hconf with rfl | ⟨s, hs, hrec⟩
  · exact h
  · obtain ⟨_, _, hnone, hrows, hfrm⟩ := recordConfirmation_ok hrec
    rw [hfrm]
    have hsid := b.statements.key_of_get? hs
    have hfroz : b.frozenAmount s.statementId .management = 0 := by
      rw [Billing.frozenAmount, h.undisputed]
      rfl
    have hind : ({ b with confirmations := b'.confirmations } : Billing).Indexed :=
      h.indexed.confirm (not_confirmed_of_confirmationOf hnone) hrows rfl
    refine { h with indexed := hind, confirmed := ?_, invoiced := ?_ }
    · rw [hrows]
      intro c hc hdir
      rcases mem_append.mp hc with hc | hc
      · exact h.confirmed c hc hdir
      · rw [mem_singleton.mp hc] at hdir ⊢
        refine ⟨s, b.statements.mem_of_get? hs, hsid, ?_⟩
        change b.confirmableAmount s r.feeDirection = _
        rw [show r.feeDirection = .management from hdir, Billing.confirmableAmount, hfroz, sub_zero]
    · intro invoice hinv hcur
      obtain ⟨hdone, row, hrow, hrest⟩ := h.invoiced invoice hinv hcur
      refine ⟨hdone, row, ?_, hrest⟩
      obtain ⟨hstm, hc, hkey⟩ := mem_managementBills_store.mp hrow
      refine mem_managementBills_store.mpr ⟨hstm, ?_, hkey⟩
      rw [hrows]
      exact mem_append_left _ hc

theorem synchronize_nil {b b' : Billing} {digest : ApplicationIdentity → String} {ids : InvoiceIds}
    {statementId storeId : String} (hrows : b.managementApplications.rows = [])
    (h : b.synchronizeApplications digest ids [] statementId storeId month = .ok b') :
    b'.managementApplications.rows = [] := by
  obtain ⟨_, ht, h⟩ := Except.of_bind h
  cases ht
  cases h
  exact map_eq_nil_iff.mpr hrows

/-- The bill that a committed row invoices, with the amount it was confirmed for. -/
theorem exists_bill_of_valid (h : CreditLedger b) {storeName : String → Option String}
    {row : ImportRow} {s : Statement} (hs : b.currentStatement row.payload.storeId month = some s)
    (hval : b.validateManagementRow storeName month row = []) :
    ∃ bill ∈ b.managementBills (storeScope row.payload.storeId), bill.1 = s ∧
      s.statementMonth = month ∧ 0 < bill.2.confirmedAmountCent ∧
      row.payload.deductionAmountCent = some bill.2.confirmedAmountCent := by
  have hsmem := mem_of_find?_eq_some hs
  have hskey := find?_some hs
  simp only [bool_to_prop] at hskey
  have hstm {bill : ConfirmedBill}
      (hbill : bill ∈ b.managementBills (storeScope row.payload.storeId))
      (hmo : bill.1.statementMonth = month) : bill.1 = s := by
    obtain ⟨⟨hmem, hcur, _, hst⟩, _⟩ := mem_managementBills_store.mp hbill
    refine h.indexed.currentSlot _ hmem _ hsmem hcur hskey.2 ?_
    rw [Statement.slot, Statement.slot, hst, hmo, hskey.1.1, hskey.1.2]
  obtain ⟨cents, hcents, hpos, hmo, hcase⟩ := validateManagementRow_nil hval
  rcases hcase with hcur | ⟨p, hfind, hinv, _, hamt⟩
  · -- the row repeats the result that made the current invoice
    obtain ⟨old, hold, r, hr, hpay, htgt, hst, hrmon, _, hrcur⟩ :=
      exists_invoice_of_payloadIsCurrent hcur
    obtain ⟨r', hr', htgt', holdAmount⟩ := h.imported old hold
    have hsame : r' = r := b.invoiceRecords.eq_of_key_eq hr' hr
      (some.inj (htgt'.symm.trans htgt))
    obtain ⟨_, bill, hbill, _, hbillMonth, hbillAmount⟩ := h.invoiced r hr hrcur
    rw [hst] at hbill
    have heq : cents = bill.2.confirmedAmountCent := by
      rw [hpay, hcents, hsame, ← hbillAmount] at holdAmount
      exact some.inj holdAmount
    refine ⟨bill, hbill, hstm hbill (by rw [hbillMonth, hrmon, hmo]), hskey.1.2,
      heq ▸ hpos, by rw [hcents, heq]⟩
  · obtain ⟨bill, hbill, hper⟩ :=
      exists_bill_of_period h.indexed rfl (mem_of_find?_eq_some hfind)
    have hpmon : p.statementMonth = month := by simpa using find?_some hfind
    have hst := (mem_managementBills_horizon.mp hbill).1
    have huninv : invoiceOf (b.scopedInvoices (horizon row.payload.storeId month))
        bill.1.statementId = none :=
      map_eq_none_iff.mp (hper.invoice.symm.trans hinv)
    have hfull := h.invoiceable_period rfl hbill hper
    rw [huninv, isSome_none, if_neg (by decide)] at hfull
    have heq : cents = bill.2.confirmedAmountCent := hamt.trans hfull
    exact ⟨bill, hst, hstm hst (hper.statementMonth.symm.trans hpmon), hskey.1.2,
      heq ▸ hpos, by rw [hcents, heq]⟩

theorem commit (h : CreditLedger b) {b' : Billing} {digest : ApplicationIdentity → String}
    {storeName : String → Option String} {row : ImportRow} {ids : InvoiceIds}
    (hcomm : b.commitManagementFactoryResultRow digest storeName month row ids = .ok b') :
    CreditLedger b' := by
  obtain ⟨_, b₁, b₂, hs, hval, hsup, hsync, rfl⟩ :=
    commitManagementFactoryResultRow_ok hcomm
  obtain ⟨bill, hbill, rfl, hmo, hpos, hamt⟩ := h.exists_bill_of_valid hs hval
  have hst := (mem_managementBills_store.mp hbill).1.2.2.2
  rw [h.applications_eq_nil rfl] at hsync
  have hunap : b₂.managementApplications.rows = [] := by
    refine synchronize_nil ?_ hsync
    rw [hsup.frame]
    exact h.unapplied
  obtain ⟨applications, rfl⟩ : ∃ applications, b₂ = { b₁ with
    managementApplications := applications } := ⟨_, synchronizeApplications_frame hsync⟩
  obtain ⟨records, rfl⟩ : ∃ records, b₁ = { b with invoiceRecords := records } :=
    ⟨_, hsup.frame⟩
  generalize b.managementInvoice row.payload.storeId month = current at hsup
  have hnextAmount : (row.invoice month ids bill.1 current).invoiceAmountCent =
      bill.2.confirmedAmountCent := by
    change row.payload.deductionAmountCent.getD 0 = _
    rw [hamt]
    rfl
  have hnextCompleted : (row.invoice month ids bill.1 current).isCompleted = true := by
    rw [InvoiceRecord.isCompleted, hnextAmount, decide_eq_true hpos]
    rfl
  refine { h with
    indexed := ⟨h.indexed.currentSlot, h.indexed.confirmationSlot⟩, unapplied := hunap,
    invoiced := ?_, slot := ?_, imported := ?_ }
  · intro r hr hcur
    rcases hsup.of_current hr hcur with rfl | ⟨hold, _⟩
    · exact ⟨hnextCompleted, bill, hbill, rfl, hmo, hnextAmount.symm⟩
    · exact h.invoiced r hold hcur
  · intro r hr r' hr' hcur hcur' hstor hmos
    have hdir : ∀ x ∈ b.invoiceRecords.rows, x.isCurrent = true → x.feeDirection = .management := by
      intro x hx hxcur
      have hdone := (h.invoiced x hx hxcur).1
      simp only [InvoiceRecord.isCompleted, bool_to_prop] at hdone
      exact hdone.1.1.1.1
    rcases hsup.of_current hr hcur with rfl | ⟨hold, _, hoth, _⟩ <;>
      rcases hsup.of_current hr' hcur' with rfl | ⟨hold', _, hoth', _⟩
    · rfl
    · exact absurd ⟨hstor.symm, hmos.symm, hdir r' hold' hcur'⟩ hoth'
    · exact absurd ⟨hstor, hmos, hdir r hold hcur⟩ hoth
    · exact h.slot r hold r' hold' hcur hcur' hstor hmos
  · intro imported himp
    rcases mem_append.mp himp with himp | himp
    · obtain ⟨r, hr, htgt, hamt⟩ := h.imported imported (mem_filter.mp himp).1
      rcases hsup.mem_of_mem hr with hr | hr
      · exact ⟨r, hr, htgt, hamt⟩
      · exact ⟨r.retired, hr, htgt, hamt⟩
    · rw [mem_singleton.mp himp]
      exact ⟨_, hsup.mem_next, rfl, by rw [hnextAmount]; exact hamt⟩

theorem act {db : Db} (h : CreditLedger db.billing) (digest : ApplicationIdentity → String)
    {action : FinanceAction} (hacti : action.confirmsOrCommits = true) :
    CreditLedger (db.financeAct digest action).billing := by
  unfold Db.financeAct
  split
  · rename_i hact
    cases action with
    | bill bill =>
      cases bill with
      | confirm context request =>
        obtain ⟨billing, hconf, hact⟩ := Except.of_bind hact
        cases hact
        exact h.confirm hconf
      | submit _ | withdraw _ | transition _ _ => cases hacti
    | commitRow storeName month row ids =>
      obtain ⟨_, hcomm, hact⟩ := Except.of_bind hact
      cases hact
      exact h.commit hcomm
    | closeBatch batchId =>
      cases hact
      exact { h with indexed := ⟨h.indexed.currentSlot, h.indexed.confirmationSlot⟩ }
    | correct request => cases hacti
  · exact h

theorem run {db : Db} (h : CreditLedger db.billing) (digest : ApplicationIdentity → String)
    {actions : List FinanceAction} (hact : ∀ a ∈ actions, a.confirmsOrCommits = true) :
    CreditLedger (db.financeRun digest actions).billing := by
  induction actions generalizing db with
  | nil => exact h
  | cons action actions ih =>
    exact ih (h.act digest (hact action mem_cons_self))
      fun a ha => hact a (mem_cons_of_mem _ ha)

end CreditLedger

/-- Confirmations and commits conserve the management fees of a store exactly as long as no bill
with a negative management fee is confirmed. -/
theorem management_credit_conserved_iff {db : Db} (hstart : db.billing.Unconfirmed)
    (digest : ApplicationIdentity → String) {actions : List FinanceAction}
    (hactions : ∀ a ∈ actions, a.confirmsOrCommits = true) (storeId : String) :
    (db.financeRun digest actions).billing.ConservesCredit storeId ↔
      ∀ s ∈ (db.financeRun digest actions).billing.confirmedStatements storeId,
        0 ≤ s.managementNetFeeCent :=
  ((CreditLedger.of_unconfirmed hstart).run digest hactions).conservesCredit_iff storeId

namespace NegativeMonth

/-- August with 100 cents and September with `september`, not confirmed yet. -/
def start (september : Int) : Db where
  billing := { statements := (LaterCredit.bills september).statements }

theorem start_unconfirmed (september : Int) : (start september).billing.Unconfirmed where
  currentSlot := (LaterCredit.bills_indexed september).currentSlot
  formal := by
    intro s hs
    simp only [start, LaterCredit.bills, mem_cons, not_mem_nil, or_false] at hs
    rcases hs with rfl | rfl <;> simp [LaterCredit.bill, LaterCredit.august]
  confirmations := rfl
  disputes := rfl
  invoiceRecords := rfl
  managementApplications := rfl
  importRows := rfl

def confirm (id : String) (amount : Int) : FinanceAction :=
  .bill (.confirm ⟨"admin", 0, 3, fun text => text⟩ {
    key := ⟨id, id⟩
    confirmationId := id
    statementId := id
    feeDirection := .management
    confirmedAmountCent := amount
    readVersion := 1 })

def commitAugust : FinanceAction :=
  .commitRow (fun _ => some "store") LaterCredit.august {
    batchId := "batch-1"
    rowNumber := 1
    payload := {
      storeId := "store-1"
      storeName := "store"
      statementMonth := LaterCredit.august
      invoiceNumber := "00000000000000000001"
      invoiceDate := some 0
      deductionDate := some 0
      deductionAmountCent := some 100 } }
    { invoiceId := "invoice-1", application := Prod.fst }

def actions (september : Int) : List FinanceAction :=
  [confirm "a" 100, confirm "s" september, commitAugust, .closeBatch "batch-1"]

theorem actions_confirm (september : Int) :
    ∀ a ∈ actions september, a.confirmsOrCommits = true := by
  intro a ha
  simp only [actions, mem_cons, not_mem_nil, or_false] at ha
  rcases ha with rfl | rfl | rfl | rfl <;> rfl

end NegativeMonth

open NegativeMonth in
/-- With a positive September nothing is lost. -/
theorem positive_months_conserved :
    ((start 50).financeRun ApplicationIdentity.storeId (actions 50)).billing.ConservesCredit
        "store-1" ↔
      ∀ s ∈ ((start 50).financeRun ApplicationIdentity.storeId (actions 50)).billing
        |>.confirmedStatements "store-1", 0 ≤ s.managementNetFeeCent :=
  management_credit_conserved_iff (start_unconfirmed 50) _ (actions_confirm 50) "store-1"

open NegativeMonth in
/-- September with -30 cents is confirmed with zero: 100 cents are invoiced, and the bills say
70. -/
theorem negative_month_lost :
    (start (-30)).billing.Unconfirmed ∧ (∀ a ∈ actions 0, a.confirmsOrCommits = true) ∧
    (((start (-30)).financeRun ApplicationIdentity.storeId (actions 0)).billing
      |>.confirmedStatements "store-1").map Statement.managementNetFeeCent = [100, -30] ∧
    (((start (-30)).financeRun ApplicationIdentity.storeId (actions 0)).billing
      |>.completedInvoices "store-1").map InvoiceRecord.invoiceAmountCent = [100] ∧
    ¬ ((start (-30)).financeRun ApplicationIdentity.storeId (actions 0)).billing.ConservesCredit
      "store-1" :=
  ⟨start_unconfirmed (-30), actions_confirm 0, by decide +kernel, by decide +kernel,
    by decide +kernel⟩

end DyData.Settlement
