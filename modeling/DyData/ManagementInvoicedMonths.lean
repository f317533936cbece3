import DyData.ManagementApplications

/-!
A management month that is invoiced stays invoiced.  Invoices and applications name bills by their
identifier, so they hold as long as no dispute replaces the bill of an invoiced month or of a
month whose negative amount is part of an invoice, and no month is invoiced across an application
that was recorded for a later month.
-/

namespace DyData.Settlement

open Option
open Relational FifoNetting List

variable {a : ManagementApplication} {scope : ProjectionScope} {row : ConfirmedBill}

/-! ### What is recorded -/

def Billing.recordedApplications (b : Billing) : List ManagementApplication :=
  b.managementApplications.rows.filter fun a => a.isCurrent && a.invoiceId.any fun id =>
    b.invoiceRecords.rows.any fun r => r.invoiceId = id && r.isCompleted

def Billing.recordedFrom (b : Billing) (storeId : String) (month : Month) : Int :=
  ((b.recordedApplications.filter fun a => a.storeId = storeId &&
    a.sourceStatementMonth = month).map ManagementApplication.appliedAmountCent).sum

def Billing.hasInvoice (b : Billing) (storeId : String) (month : Month) : Bool :=
  b.invoiceRecords.rows.any fun r => r.storeId = storeId && r.statementMonth = month &&
    r.isCompleted

def Billing.isBound (b : Billing) (storeId : String) (month : Month) : Bool :=
  b.hasInvoice storeId month || b.recordedApplications.any fun a => a.storeId = storeId &&
    a.sourceStatementMonth = month

/-- A negative month up to `month` is part of the invoice of a later month. -/
def Billing.spans (b : Billing) (storeId : String) (month : Month) : Bool :=
  b.recordedApplications.any fun a => a.storeId = storeId && a.sourceStatementMonth ≤ month &&
    month < a.targetStatementMonth

def Projection.newlyApplied (p : Projection) (statementId : String) : Int :=
  ((p.applications.filter fun a => a.invoiceId.isNone && a.sourceStatementId = statementId).map
    ProjectedApplication.appliedAmountCent).sum

structure Billing.StaysInvoiced (b : Billing) : Prop where
  offered : ∀ scope : ProjectionScope, scope.excludedInvoiceIds = [] →
    ∀ p ∈ (b.managementInvoiceableProjection scope).periods, 0 < p.invoiceableAmountCent →
      b.hasInvoice p.storeId p.statementMonth = false
  appliedOnce : ∀ (storeId : String) (through : Option Month),
    (∀ month, through = some month → b.spans storeId month = false) →
    ∀ p ∈ (b.managementInvoiceableProjection
        { storeId := some storeId, throughMonth := through }).periods, p.confirmedAmountCent < 0 →
      b.recordedFrom storeId p.statementMonth + (b.managementInvoiceableProjection
        { storeId := some storeId, throughMonth := through }).newlyApplied p.statementId ≤
        -p.confirmedAmountCent

theorem mem_recordedApplications {b : Billing} :
    a ∈ b.recordedApplications ↔ a ∈ b.managementApplications.rows ∧ a.isCurrent = true ∧
      ∃ r ∈ b.invoiceRecords.rows, a.invoiceId = some r.invoiceId ∧ r.isCompleted = true := by
  rw [Billing.recordedApplications, mem_filter, Bool.and_eq_true]
  refine and_congr_right fun _ => and_congr_right fun _ => ?_
  cases a.invoiceId with
  | none => simp
  | some id =>
    simp only [any_some, List.any_eq_true, bool_to_prop, some.injEq]
    exact ⟨fun ⟨r, hr, hid, hdone⟩ => ⟨r, hr, hid.symm, hdone⟩,
      fun ⟨r, hr, hid, hdone⟩ => ⟨r, hr, hid.symm, hdone⟩⟩

theorem hasInvoice_eq_false_iff {b : Billing} {storeId : String} {month : Month} :
    b.hasInvoice storeId month = false ↔ ∀ r ∈ b.invoiceRecords.rows, r.storeId = storeId →
      r.statementMonth = month → r.isCompleted = false := by
  simp only [Billing.hasInvoice, List.any_eq_false, bool_to_prop, not_and, Bool.not_eq_true]
  exact ⟨fun h r hr hs hm => h r hr ⟨hs, hm⟩, fun h r hr hslot => h r hr hslot.1 hslot.2⟩

theorem InvoiceRecord.isCompleted_spec {r : InvoiceRecord} (h : r.isCompleted = true) :
    r.feeDirection = .management ∧ r.isCurrent = true := by
  simp only [InvoiceRecord.isCompleted, bool_to_prop] at h
  exact ⟨h.1.1.1.1, h.1.1.1.2⟩

theorem mem_lockedApplications {b : Billing} :
    a ∈ b.lockedApplications scope ↔ a ∈ b.managementApplications.rows ∧ a.isCurrent = true ∧
      ∃ r ∈ b.scopedInvoices scope, a.invoiceId = some r.invoiceId := by
  rw [Billing.lockedApplications, mem_filter, Bool.and_eq_true]
  refine and_congr_right fun _ => and_congr_right fun _ => ?_
  cases a.invoiceId with
  | none => simp
  | some id => simp [eq_comm]

theorem mem_scopedInvoices {b : Billing} {r : InvoiceRecord} :
    r ∈ b.scopedInvoices scope ↔ r ∈ b.invoiceRecords.rows ∧ r.isCompleted = true ∧
      r.invoiceId ∉ scope.excludedInvoiceIds ∧
      ∃ row ∈ b.managementBills scope, row.1.statementId = r.statementId := by
  simp only [Billing.scopedInvoices, mem_filter, bool_to_prop, Bool.not_eq_true',
    contains_eq_mem, decide_eq_false_iff_not, List.mem_map]
  tauto

theorem locked_recorded {b : Billing} (h : a ∈ b.lockedApplications scope) :
    a ∈ b.recordedApplications := by
  obtain ⟨ha, hcur, r, hr, hid⟩ := mem_lockedApplications.mp h
  obtain ⟨hr, hdone, _⟩ := mem_scopedInvoices.mp hr
  exact mem_recordedApplications.mpr ⟨ha, hcur, r, hr, hid, hdone⟩

/-! ### The ledger of invoices and applications -/

def Billing.HasStatement (b : Billing) (statementId storeId : String) (month : Month) : Prop :=
  ∃ s ∈ b.statements.rows, s.statementId = statementId ∧ s.slot = (storeId, month)

theorem Billing.HasStatement.eq {b : Billing} {statementId storeId : String} {month : Month}
    (h : b.HasStatement statementId storeId month) {s : Statement} (hs : s ∈ b.statements.rows)
    (hid : s.statementId = statementId) : s.storeId = storeId ∧ s.statementMonth = month := by
  obtain ⟨s', hs', hid', hslot⟩ := h
  have hsame : s = s' := b.statements.eq_of_key_eq hs hs' (hid.trans hid'.symm)
  rw [hsame]
  exact Prod.mk.inj hslot

structure InvoicedLedger (digest : ApplicationIdentity → String) (b : Billing) : Prop where
  indexed : b.Indexed
  pairs : CurrentPairs b.managementApplications
  digests : ∀ a ∈ b.managementApplications.rows, a.projectionSha256 = digest a.identity
  positive : ∀ a ∈ b.managementApplications.rows, 0 < a.appliedAmountCent
  sources : ∀ a ∈ b.managementApplications.rows,
    b.HasStatement a.sourceStatementId a.storeId a.sourceStatementMonth
  targets : ∀ a ∈ b.managementApplications.rows,
    b.HasStatement a.targetStatementId a.storeId a.targetStatementMonth
  invoiceIds : ∀ a ∈ b.managementApplications.rows, ∀ id, a.invoiceId = some id →
    ∃ r ∈ b.invoiceRecords.rows, r.invoiceId = id
  /-- A current invoice is completed and for the confirmed current bill of its month. -/
  invoiced : ∀ r ∈ b.invoiceRecords.rows, r.isCurrent = true → r.isCompleted = true ∧
    ∃ row ∈ b.managementBills (storeScope r.storeId), row.1.statementId = r.statementId ∧
      row.1.statementMonth = r.statementMonth
  /-- A recorded application goes from a confirmed current bill to the bill of its invoice. -/
  recorded : ∀ a ∈ b.recordedApplications, a.sourceStatementMonth ≤ a.targetStatementMonth ∧
    (∃ row ∈ b.managementBills (storeScope a.storeId), row.1.statementId = a.sourceStatementId) ∧
    ∃ r ∈ b.invoiceRecords.rows, a.invoiceId = some r.invoiceId ∧ r.isCompleted = true ∧
      r.statementId = a.targetStatementId
  /-- No more of a negative bill is recorded than it has. -/
  covered : ∀ storeId, ∀ row ∈ b.managementBills (storeScope storeId),
    row.2.confirmedAmountCent < 0 →
      b.recordedFrom storeId row.1.statementMonth ≤ -row.2.confirmedAmountCent

namespace InvoicedLedger

variable {digest : ApplicationIdentity → String} {b : Billing} {storeId : String}

theorem managementBills_sub (hsc : scope.storeId = some storeId)
    (hrow : row ∈ b.managementBills scope) : row ∈ b.managementBills (storeScope storeId) := by
  have hst := managementBills_store hsc row hrow
  obtain ⟨⟨hs, hcur, hform, _⟩, hconf⟩ := mem_confirmedBills.mp hrow
  exact mem_managementBills_store.mpr ⟨⟨hs, hcur, hform, hst⟩, hconf⟩

/-- The new applications from a bill are those that name it. -/
theorem filter_source (hb : b.Indexed) {invoices : List InvoiceRecord}
    {fresh : List ProjectedApplication}
    (hfr : ∀ a ∈ fresh, FreshApplication invoices storeId (b.managementBills scope) a)
    (hrow : row ∈ b.managementBills scope) :
    fresh.filter (fun a => decide (a.sourceStatementId = row.1.statementId)) =
      fresh.filter fun a => decide (a.source = billKey row) := by
  refine filter_congr fun a ha => ?_
  rw [decide_eq_decide]
  constructor
  · intro hid
    obtain ⟨source, hsrc, hkey⟩ := (hfr a ha).source
    have hsame : source = row := managementBill_eq hb hsrc hrow
      ((congrArg Prod.fst hkey).trans hid)
    rw [← hkey, hsame]
  · intro hkey
    exact congrArg Prod.fst hkey

section

variable (h : InvoicedLedger digest b)
include h

theorem source_bill (ha : a ∈ b.recordedApplications) :
    ∃ row ∈ b.managementBills (storeScope a.storeId),
      row.1.statementId = a.sourceStatementId ∧ row.1.statementMonth = a.sourceStatementMonth := by
  obtain ⟨_, ⟨row, hrow, hid⟩, _⟩ := h.recorded a ha
  have hsrc := h.sources a (mem_recordedApplications.mp ha).1
  exact ⟨row, hrow, hid, (hsrc.eq (mem_managementBills_store.mp hrow).1.1 hid).2⟩

/-- What is reserved of a bill in a scope is recorded for its month. -/
theorem reservedOf_le (hrow : row ∈ b.managementBills (storeScope storeId)) :
    reservedOf (b.lockedApplications scope) row.1.statementId ≤
      b.recordedFrom storeId row.1.statementMonth := by
  have hpos : ∀ a ∈ b.recordedApplications, 0 ≤ a.appliedAmountCent :=
    fun a ha => (h.positive a (mem_recordedApplications.mp ha).1).le
  have hnd := b.managementApplications.nodup.sublist
    ((filter_sublist (l := b.managementApplications.rows)
      (p := fun a => a.isCurrent && a.invoiceId.any
        ((b.scopedInvoices scope).map InvoiceRecord.invoiceId).contains)).map
          ManagementApplication.applicationId)
  refine sum_le_of_keys (k := ManagementApplication.applicationId)
    (j := ManagementApplication.applicationId) ?_ ?_ ?_
  · exact hnd.sublist (filter_sublist.map _)
  · intro a ha
    obtain ⟨ha, hid⟩ := mem_filter.mp ha
    obtain ⟨hs, _⟩ := mem_managementBills_store.mp hrow
    have hslot := (h.sources a (mem_lockedApplications.mp ha).1).eq hs.1
      (of_decide_eq_true hid).symm
    refine ⟨a, mem_filter.mpr ⟨locked_recorded ha, ?_⟩, rfl, rfl⟩
    rw [← hslot.1, hs.2.2.2, ← hslot.2]
    simp
  · exact fun a ha => hpos a (mem_filter.mp ha).1

/-! ### What the ledger says about projections -/

theorem offered (hsc : scope.excludedInvoiceIds = []) {p : Period}
    (hp : p ∈ (b.managementInvoiceableProjection scope).periods)
    (hpos : 0 < p.invoiceableAmountCent) : b.hasInvoice p.storeId p.statementMonth = false := by
  obtain ⟨⟨row, hrow, hof⟩, hnone⟩ := (offered_projection b scope).periods p hp
  rw [hasInvoice_eq_false_iff]
  intro r hr hst hmo
  by_contra hdone
  rw [Bool.not_eq_false] at hdone
  obtain ⟨_, bill, hbill, hid, hbillMonth⟩ :=
    h.invoiced r hr (InvoiceRecord.isCompleted_spec hdone).2
  -- the bill of the invoice is the bill of the period
  obtain ⟨⟨hs, hcur, _, hbillStore⟩, _⟩ := mem_managementBills_store.mp hbill
  obtain ⟨⟨hs', hcur', _, _⟩, _⟩ := mem_confirmedBills.mp hrow
  have hsame : bill.1 = row.1 := by
    refine h.indexed.currentSlot _ hs _ hs' hcur hcur' ?_
    rw [Statement.slot, Statement.slot, hbillStore, hbillMonth, hst, hmo, hof.storeId,
      hof.statementMonth]
  have hscop : r ∈ b.scopedInvoices scope :=
    mem_scopedInvoices.mpr ⟨hr, hdone, by rw [hsc]; exact not_mem_nil, row, hrow,
      by rw [← hsame, hid]⟩
  have huninv := hnone hpos.ne'
  rw [invoiceOf, find?_eq_none] at huninv
  refine huninv r (mem_reverse.mpr hscop) (decide_eq_true ?_)
  rw [hof.statementId, ← hsame, hid]

theorem newlyApplied_eq {fresh : List ProjectedApplication}
    (happs : (b.managementInvoiceableProjection scope).applications = (b.lockedApplications scope).map ManagementApplication.projected ++ fresh)
    (hfr : ∀ a ∈ fresh, FreshApplication (b.scopedInvoices scope) storeId (b.managementBills scope) a)
    (hrow : row ∈ b.managementBills scope) :
    (b.managementInvoiceableProjection scope).newlyApplied row.1.statementId =
      appliedFrom fresh (billKey row) := by
  have hlock : ((b.lockedApplications scope).map ManagementApplication.projected).filter
      (fun a => a.invoiceId.isNone && decide (a.sourceStatementId = row.1.statementId)) = [] := by
    refine filter_eq_nil_iff.mpr fun e he hkeep => ?_
    obtain ⟨a, ha, rfl⟩ := List.mem_map.mp he
    obtain ⟨_, _, _, _, hid⟩ := mem_lockedApplications.mp ha
    have hnone : a.invoiceId.isNone = true := (Bool.and_eq_true_iff.mp hkeep).1
    rw [hid] at hnone
    cases hnone
  have hnone : fresh.filter (fun a => a.invoiceId.isNone &&
      decide (a.sourceStatementId = row.1.statementId)) =
      fresh.filter fun a => decide (a.sourceStatementId = row.1.statementId) := by
    refine filter_congr fun a ha => ?_
    rw [(hfr a ha).invoiceId, isNone_none, Bool.true_and]
  rw [Projection.newlyApplied, happs, filter_append, hlock, nil_append, hnone,
    filter_source h.indexed hfr hrow, appliedFrom]

/-- In a scope that nothing spans, all that is recorded of a bill is reserved. -/
theorem recordedFrom_le {through : Option Month}
    (hthr : ∀ month, through = some month → b.spans storeId month = false)
    (hrow : row ∈ b.managementBills { storeId := some storeId, throughMonth := through }) :
    b.recordedFrom storeId row.1.statementMonth ≤
      reservedOf (b.lockedApplications { storeId := some storeId, throughMonth := through })
        row.1.statementId := by
  have hst := managementBills_sub rfl hrow
  have hcov := (mem_confirmedBills.mp hrow).1.2.2.2
  refine sum_le_of_keys (k := ManagementApplication.applicationId)
    (j := ManagementApplication.applicationId) ?_ ?_ ?_
  · exact b.managementApplications.nodup.sublist
      ((filter_sublist.trans filter_sublist).map _)
  · intro a ha
    obtain ⟨ha, hslot⟩ := mem_filter.mp ha
    simp only [bool_to_prop] at hslot
    obtain ⟨hmem, hcur, _⟩ := mem_recordedApplications.mp ha
    obtain ⟨_, _, r, hr, hinv, hdone, htgt⟩ := h.recorded a ha
    -- the source is the bill
    obtain ⟨source, hsrc, hsourceId, hsourceMonth⟩ := h.source_bill ha
    rw [hslot.1] at hsrc
    have hsame : source = row := by
      refine confirmedBill_eq h.indexed hsrc hst ?_
      rw [Statement.slot, Statement.slot, (mem_managementBills_store.mp hsrc).1.2.2.2,
        (mem_managementBills_store.mp hst).1.2.2.2, hsourceMonth, hslot.2]
    -- the bill of the invoice is in the scope
    obtain ⟨_, bill, hbill, hbillId, _⟩ :=
      h.invoiced r hr (InvoiceRecord.isCompleted_spec hdone).2
    obtain ⟨⟨hs, hbillCurrent, hform, _⟩, hconf⟩ := mem_managementBills_store.mp hbill
    have hbillSlot := (h.targets a hmem).eq hs (hbillId.trans htgt)
    have hinScope : bill ∈ b.managementBills
        { storeId := some storeId, throughMonth := through } := by
      refine mem_confirmedBills.mpr ⟨⟨hs, hbillCurrent, hform, ?_⟩, hconf⟩
      cases through with
      | none => simp [ProjectionScope.covers, hbillSlot.1, hslot.1]
      | some month =>
        have hspans := hthr month rfl
        rw [Billing.spans, List.any_eq_false] at hspans
        have hspan := hspans a ha
        simp only [ProjectionScope.covers, all_some, all_none, Bool.and_true,
          bool_to_prop] at hcov
        have hrowMonth : row.1.statementMonth ≤ month := hcov.2
        simp only [bool_to_prop, not_and, not_lt] at hspan
        have htargetMonth := hspan ⟨hslot.1, by rw [hslot.2]; exact hrowMonth⟩
        simp [ProjectionScope.covers, hbillSlot.1, hslot.1, hbillSlot.2, htargetMonth]
    refine ⟨a, mem_filter.mpr ⟨mem_lockedApplications.mpr ⟨hmem, hcur, r, ?_, hinv⟩,
      decide_eq_true ?_⟩, rfl, rfl⟩
    · exact mem_scopedInvoices.mpr ⟨hr, hdone, not_mem_nil, bill, hinScope, hbillId⟩
    · rw [← hsourceId, hsame]
  · intro a ha
    exact (h.positive a (mem_lockedApplications.mp (mem_filter.mp ha).1).1).le

theorem appliedOnce {through : Option Month}
    (hthr : ∀ month, through = some month → b.spans storeId month = false) {p : Period}
    (hp : p ∈ (b.managementInvoiceableProjection { storeId := some storeId, throughMonth := through }).periods)
    (hneg : p.confirmedAmountCent < 0) :
    b.recordedFrom storeId p.statementMonth + (b.managementInvoiceableProjection
      { storeId := some storeId, throughMonth := through }).newlyApplied p.statementId ≤
      -p.confirmedAmountCent := by
  obtain ⟨row, hrow, hper⟩ := exists_bill_of_period h.indexed rfl hp
  obtain ⟨_, happs, hfr, hgiven⟩ := exists_fresh h.indexed
    (show ({ storeId := some storeId, throughMonth := through } : ProjectionScope).storeId =
      some storeId from rfl)
  have hst := managementBills_sub rfl hrow
  rw [hper.confirmed] at hneg ⊢
  rw [hper.statementMonth, hper.statementId, h.newlyApplied_eq happs hfr hrow]
  have hrec := h.recordedFrom_le hthr hrow
  have hres : reservedOf (b.lockedApplications
      { storeId := some storeId, throughMonth := through }) row.1.statementId ≤
      b.recordedFrom storeId row.1.statementMonth := h.reservedOf_le hst
  have hcov := h.covered storeId row hst hneg
  have hgiven := hgiven row hrow hneg (by omega)
  omega

theorem staysInvoiced : b.StaysInvoiced :=
  ⟨fun _ hsc _ hp hpos => h.offered hsc hp hpos,
    fun _ _ hthr _ hp hneg => h.appliedOnce hthr hp hneg⟩

end

/-! ### A new invoice version -/

/-- What an application of a projection up to `month` says. -/
structure Sourced (b : Billing) (storeId : String) (month : Month) (e : ProjectedApplication) :
    Prop where
  store : e.storeId = storeId
  positive : 0 < e.appliedAmountCent
  bill : ∃ row ∈ b.managementBills (storeScope storeId),
    row.1.statementId = e.sourceStatementId ∧ row.1.statementMonth ≤ month
  source : b.HasStatement e.sourceStatementId e.storeId e.sourceStatementMonth
  target : b.HasStatement e.targetStatementId e.storeId e.targetStatementMonth
  invoice : e.invoiceId = none ∨ ∃ a ∈ b.recordedApplications, e = a.projected

theorem sourced (h : InvoicedLedger digest b) {month : Month}
    {excluded : List String} {e : ProjectedApplication}
    (he : e ∈ (b.managementInvoiceableProjection
      { horizon storeId month with excludedInvoiceIds := excluded }).applications) :
    Sourced b storeId month e := by
  set scope : ProjectionScope := { horizon storeId month with excludedInvoiceIds := excluded }
    with hsc
  have hmos {row : ConfirmedBill} (hrow : row ∈ b.managementBills scope) :
      row.1.statementMonth ≤ month :=
    (mem_managementBills_horizon.mp (show row ∈ b.managementBills (horizon storeId month) from
      hrow)).2
  have hbills {row : ConfirmedBill} (hrow : row ∈ b.managementBills scope) :
      row ∈ b.managementBills (storeScope storeId) := managementBills_sub rfl hrow
  have hstm {row : ConfirmedBill} (hrow : row ∈ b.managementBills scope) :
      b.HasStatement row.1.statementId storeId row.1.statementMonth := by
    obtain ⟨⟨hs, _, _, hst⟩, _⟩ := mem_managementBills_store.mp (hbills hrow)
    exact ⟨row.1, hs, rfl, by rw [Statement.slot, hst]⟩
  obtain ⟨_, happs, hfr, -⟩ := exists_fresh h.indexed
    (show scope.storeId = some storeId from rfl)
  rw [happs] at he
  rcases mem_append.mp he with he | he
  · obtain ⟨a, ha, rfl⟩ := List.mem_map.mp he
    have hrec := locked_recorded ha
    obtain ⟨hmem, _, r, hr, hinv⟩ := mem_lockedApplications.mp ha
    obtain ⟨hr, _, _, bill, hbill, hbillId⟩ := mem_scopedInvoices.mp hr
    obtain ⟨hord, _, r', hr', hinv', _, htgt⟩ := h.recorded a hrec
    have hsame : r' = r := b.invoiceRecords.eq_of_key_eq hr' hr
      (mem_unique hinv' hinv)
    have hslot := (h.targets a hmem).eq (mem_managementBills_store.mp (hbills hbill)).1.1
      (by rw [hbillId, ← hsame, htgt])
    have hst : a.storeId = storeId :=
      hslot.1.symm.trans (mem_managementBills_store.mp (hbills hbill)).1.2.2.2
    obtain ⟨source, hsrc, hsourceId, hsourceMonth⟩ := h.source_bill hrec
    have hlast := hmos hbill
    have hsourceLast : source.1.statementMonth ≤ month :=
      calc source.1.statementMonth = a.sourceStatementMonth := hsourceMonth
        _ ≤ a.targetStatementMonth := hord
        _ = bill.1.statementMonth := hslot.2.symm
        _ ≤ month := hlast
    exact ⟨hst, h.positive a hmem, ⟨source, hst ▸ hsrc, hsourceId, hsourceLast⟩,
      h.sources a hmem, h.targets a hmem, .inr ⟨a, hrec, rfl⟩⟩
  · have hent := hfr e he
    obtain ⟨source, hsrc, hsourceKey⟩ := hent.source
    obtain ⟨target, htgt, htargetKey, _⟩ := hent.target
    have hsourceSlot := hstm hsrc
    have htargetSlot := hstm htgt
    rw [show source.1.statementId = e.sourceStatementId from congrArg Prod.fst hsourceKey,
      show source.1.statementMonth = e.sourceStatementMonth from congrArg Prod.snd hsourceKey,
      ← hent.storeId] at hsourceSlot
    rw [show target.1.statementId = e.targetStatementId from congrArg Prod.fst htargetKey,
      show target.1.statementMonth = e.targetStatementMonth from congrArg Prod.snd htargetKey,
      ← hent.storeId] at htargetSlot
    exact ⟨hent.storeId, hent.positive, ⟨source, hbills hsrc, congrArg Prod.fst hsourceKey,
      hmos hsrc⟩, hsourceSlot, htargetSlot, .inl hent.invoiceId⟩

/-- What the projection takes from a bill is no more than the bill has. -/
theorem sum_applications_le (h : InvoicedLedger digest b) (month : Month)
    (excluded : List String) (hrow : row ∈ b.managementBills (storeScope storeId))
    (hmo : row.1.statementMonth ≤ month) (hneg : row.2.confirmedAmountCent < 0) :
    (((b.managementInvoiceableProjection
        { horizon storeId month with excludedInvoiceIds := excluded }).applications.filter fun e =>
      decide (e.sourceStatementId = row.1.statementId)).map
        ProjectedApplication.appliedAmountCent).sum ≤ -row.2.confirmedAmountCent := by
  set scope : ProjectionScope := { horizon storeId month with excludedInvoiceIds := excluded }
    with hsc
  have hinScope : row ∈ b.managementBills scope :=
    mem_managementBills_horizon.mpr ⟨hrow, hmo⟩
  obtain ⟨fresh, happs, hents, hgiven⟩ := exists_fresh h.indexed
    (show scope.storeId = some storeId from rfl)
  have hres : reservedOf (b.lockedApplications scope) row.1.statementId ≤
      b.recordedFrom storeId row.1.statementMonth := h.reservedOf_le hrow
  have hcov := h.covered storeId row hrow hneg
  have hgiven := hgiven row hinScope hneg (by omega)
  have hlock : ((((b.lockedApplications scope).map ManagementApplication.projected).filter
      fun e => decide (e.sourceStatementId = row.1.statementId)).map
        ProjectedApplication.appliedAmountCent).sum =
      reservedOf (b.lockedApplications scope) row.1.statementId := by
    rw [List.filter_map, List.map_map]
    rfl
  have hfr : ((fresh.filter fun e => decide (e.sourceStatementId = row.1.statementId)).map
      ProjectedApplication.appliedAmountCent).sum = appliedFrom fresh (billKey row) := by
    rw [filter_source h.indexed hents hinScope, appliedFrom]
  rw [happs, filter_append, map_append, sum_append, hlock, hfr]
  exact hgiven

inductive RecordedAfter (b : Billing) (storeId : String) (month : Month) (next : InvoiceRecord)
    (applications : List ProjectedApplication) (a : ManagementApplication) : Prop
  | untouched (h : a ∈ b.recordedApplications) (hscope : a.inScope storeId month = false)
  | projected (e : ProjectedApplication) (he : e ∈ applications) (hstore : a.storeId = e.storeId)
      (hsource : a.sourceStatementId = e.sourceStatementId)
      (htarget : a.targetStatementId = e.targetStatementId)
      (hamount : a.appliedAmountCent = e.appliedAmountCent)
      (hinvoice : (e.targetStatementId = next.statementId ∧ a.invoiceId = some next.invoiceId) ∨
        ∃ a₀ ∈ b.recordedApplications, e = a₀.projected ∧ a.invoiceId = a₀.invoiceId)

section Supersede

variable {month : Month} {excluded : List String}
  {current : Option InvoiceRecord} {next : InvoiceRecord} {b₁ b₂ : Billing} {ids : InvoiceIds}

/-- What is recorded after the version for a bill is no more than the bill has. -/
theorem covered_after (h : InvoicedLedger digest b) (hspans : b.spans storeId month = false)
    {t : ApplicationTable} (hpairs : CurrentPairs t) {rows : List ManagementApplication}
    (hrows : rows.Sublist t.rows) (hcur : ∀ a ∈ rows, a.isCurrent = true)
    (hslots : ∀ a ∈ rows, b.HasStatement a.sourceStatementId a.storeId a.sourceStatementMonth)
    (haft : ∀ a ∈ rows, RecordedAfter b storeId month next (b.managementInvoiceableProjection
      { horizon storeId month with excludedInvoiceIds := excluded }).applications a)
    {store : String} (hrow : row ∈ b.managementBills (storeScope store))
    (hneg : row.2.confirmedAmountCent < 0) :
    ((rows.filter fun a => a.storeId = store && a.sourceStatementMonth =
      row.1.statementMonth).map ManagementApplication.appliedAmountCent).sum ≤
      -row.2.confirmedAmountCent := by
  obtain ⟨⟨_, _, _, hrowStore⟩, _⟩ := mem_managementBills_store.mp hrow
  have hkeep {a : ManagementApplication} (ha : a ∈ rows.filter fun a => a.storeId = store &&
      a.sourceStatementMonth = row.1.statementMonth) :
      a ∈ rows ∧ a.storeId = store ∧ a.sourceStatementMonth = row.1.statementMonth := by
    obtain ⟨ha, hslot⟩ := mem_filter.mp ha
    simp only [bool_to_prop] at hslot
    exact ⟨ha, hslot⟩
  by_cases hrea : store = storeId ∧ row.1.statementMonth ≤ month
  · -- the month is in the scope: all of them come from the projection
    obtain ⟨rfl, hrea⟩ := hrea
    refine le_trans ?_ (h.sum_applications_le month excluded hrow hrea hneg)
    refine sum_le_of_keys (k := ManagementApplication.pair) (j := ProjectedApplication.pair)
      ?_ ?_ ?_
    · refine Nodup.map_on ?_ (((Nodup.of_map _ t.nodup).sublist hrows).filter _)
      intro a ha a' ha' hpair
      exact hpairs a (hrows.subset (hkeep ha).1) a' (hrows.subset (hkeep ha').1)
        (hcur a (hkeep ha).1) (hcur a' (hkeep ha').1) hpair
    · intro a ha
      obtain ⟨ha, hast, hamon⟩ := hkeep ha
      rcases haft a ha with ⟨hold, hsc⟩ | ⟨e, he, hest, hsrc, htgt, hamt, _⟩
      · exfalso
        rw [Billing.spans, List.any_eq_false] at hspans
        have hspan := hspans a hold
        simp only [bool_to_prop, not_and, not_lt] at hspan
        have hlast := hspan ⟨hast, by rw [hamon]; exact hrea⟩
        rw [ManagementApplication.inScope, hcur a ha, decide_eq_true hast, hamon,
          decide_eq_true hrea, decide_eq_true hlast] at hsc
        cases hsc
      · refine ⟨e, mem_filter.mpr ⟨he, decide_eq_true ?_⟩, ?_, hamt⟩
        · -- both name the current bill of the month
          obtain ⟨source, hsourceBill, hsourceId, _⟩ := (h.sourced he).bill
          have hsourceSlot := (hslots a ha).eq (mem_managementBills_store.mp hsourceBill).1.1
            (hsourceId.trans hsrc.symm)
          have hsame : source = row := by
            refine confirmedBill_eq h.indexed hsourceBill hrow ?_
            rw [Statement.slot, Statement.slot, hsourceSlot.1, hsourceSlot.2, hast, hamon,
              hrowStore]
          rw [← hsourceId, hsame]
        · rw [ManagementApplication.pair, ProjectedApplication.pair, hsrc, htgt]
    · intro e he
      exact (h.sourced (mem_filter.mp he).1).positive.le
  · -- the month is out of reach: nothing changed
    refine le_trans ?_ (h.covered store row hrow hneg)
    refine sum_le_of_keys (k := ManagementApplication.applicationId)
      (j := ManagementApplication.applicationId) ?_ ?_ ?_
    · exact t.nodup.sublist ((filter_sublist.trans hrows).map _)
    · intro a ha
      obtain ⟨ha, hast, hamon⟩ := hkeep ha
      rcases haft a ha with ⟨hold, _⟩ | ⟨e, he, hest, hsrc, _⟩
      · refine ⟨a, mem_filter.mpr ⟨hold, ?_⟩, rfl, rfl⟩
        rw [hast, hamon]
        simp
      · exfalso
        have hsour := h.sourced he
        obtain ⟨_, hsourceBill, hsourceId, hsourceMonth⟩ := hsour.bill
        have hsourceSlot := (hslots a ha).eq (mem_managementBills_store.mp hsourceBill).1.1
          (hsourceId.trans hsrc.symm)
        refine hrea ⟨?_, ?_⟩
        · rw [← hast, hest, hsour.store]
        · rw [← hamon, ← hsourceSlot.2]
          exact hsourceMonth
    · intro a ha
      have hrec := (mem_filter.mp ha).1
      exact (h.positive a (mem_recordedApplications.mp hrec).1).le

/-- What the ledger says of one row of the applications. -/
structure RowSound (digest : ApplicationIdentity → String) (b : Billing)
    (records : List InvoiceRecord) (a : ManagementApplication) : Prop where
  digest : a.projectionSha256 = digest a.identity
  positive : 0 < a.appliedAmountCent
  source : b.HasStatement a.sourceStatementId a.storeId a.sourceStatementMonth
  target : b.HasStatement a.targetStatementId a.storeId a.targetStatementMonth
  invoice : ∀ id, a.invoiceId = some id → ∃ r ∈ records, r.invoiceId = id

variable (h : InvoicedLedger digest b) (hinjective : Function.Injective digest)
  (hsuperseded : Superseded b current next b₁) (hnextId : next.invoiceId = ids.invoiceId)
  (hsync : b₁.synchronizeApplications digest ids (b.managementInvoiceableProjection
    { horizon storeId month with excludedInvoiceIds := excluded }).applications
    next.statementId storeId month = .ok b₂)

include h hinjective hsuperseded hsync

theorem synchronized_after : Synchronized digest storeId month
    ((b.managementInvoiceableProjection { horizon storeId month with
      excludedInvoiceIds := excluded }).applications.map (·.assign next.statementId ids.invoiceId))
    b.managementApplications b₂.managementApplications := by
  have hb₁ : b₁.managementApplications = b.managementApplications := by rw [hsuperseded.frame]
  have hsynch := synchronizeApplications_ok hinjective (hb₁ ▸ h.pairs)
    (hb₁ ▸ h.digests) hsync
  rwa [hb₁] at hsynch

include hnextId

theorem recordedAfter (ha : a ∈ b₂.recordedApplications) :
    RecordedAfter b storeId month next (b.managementInvoiceableProjection
      { horizon storeId month with excludedInvoiceIds := excluded }).applications a := by
  have hb₂ : b₂.invoiceRecords = b₁.invoiceRecords := by
    rw [synchronizeApplications_frame hsync]
  have hsynch := h.synchronized_after hinjective hsuperseded hsync
  obtain ⟨hmem, hcur, r, hr, hinv, hdone⟩ := mem_recordedApplications.mp ha
  rw [hb₂] at hr
  have hrcur := (InvoiceRecord.isCompleted_spec hdone).2
  rcases hsynch.current a hmem hcur with ⟨hold, hsc⟩ | ⟨d, hd, hidn⟩
  · -- its invoice was there before, so it is not the new one
    obtain ⟨r₀, hr₀, hid⟩ := h.invoiceIds a hold _ hinv
    rcases hsuperseded.of_current hr hrcur with rfl | ⟨hr, _⟩
    · exact absurd hid (hsuperseded.fresh r₀ hr₀)
    · exact .untouched (mem_recordedApplications.mpr ⟨hold, hcur, r, hr, hinv, hdone⟩)
        hsc
  · obtain ⟨e, he, rfl⟩ := List.mem_map.mp hd
    unfold ProjectedApplication.assign at hidn
    by_cases htgt : e.targetStatementId = next.statementId
    · rw [if_pos htgt] at hidn
      obtain ⟨h₁, h₂, h₃, h₄, h₅⟩ := ApplicationIdentity.mk.inj hidn
      exact .projected e he h₁ h₂ h₃ h₅ (.inl ⟨htgt, by rw [h₄, hnextId]⟩)
    · rw [if_neg htgt] at hidn
      obtain ⟨h₁, h₂, h₃, h₄, h₅⟩ := ApplicationIdentity.mk.inj hidn
      refine .projected e he h₁ h₂ h₃ h₅ (.inr ?_)
      rcases (h.sourced he).invoice with hnone | ⟨a₀, ha₀, heq⟩
      · rw [hinv, hnone] at h₄
        cases h₄
      · exact ⟨a₀, ha₀, heq, by rw [h₄, heq]; rfl⟩

/-- A row after the version is an old one, perhaps retired, or comes from the projection. -/
theorem rowSound_after (ha : a ∈ b₂.managementApplications.rows) :
    RowSound digest b b₁.invoiceRecords.rows a := by
  have hsynch := h.synchronized_after hinjective hsuperseded hsync
  have hkept {id : String} (hid : ∃ r ∈ b.invoiceRecords.rows, r.invoiceId = id) :
      ∃ r ∈ b₁.invoiceRecords.rows, r.invoiceId = id := by
    obtain ⟨r, hr, rfl⟩ := hid
    rcases hsuperseded.mem_of_mem hr with hr | hr
    · exact ⟨r, hr, rfl⟩
    · exact ⟨r.retired, hr, rfl⟩
  rcases hsynch.rows a ha with ⟨a₀, ha₀, hup⟩ | ⟨d, hd, -, ids', c, hup⟩
  · have hold : RowSound digest b b₁.invoiceRecords.rows a₀ :=
      ⟨h.digests a₀ ha₀, h.positive a₀ ha₀, h.sources a₀ ha₀, h.targets a₀ ha₀,
        fun id hid => hkept (h.invoiceIds a₀ ha₀ id hid)⟩
    rcases hup with rfl | rfl
    · exact hold
    · exact ⟨hold.digest, hold.positive, hold.source, hold.target, hold.invoice⟩
  · obtain ⟨e, he, rfl⟩ := List.mem_map.mp hd
    obtain ⟨-, hpos, -, hsrc, htgt, hinv⟩ := h.sourced he
    have hnew : RowSound digest b b₁.invoiceRecords.rows
        ((e.assign next.statementId ids.invoiceId).row digest ids' c) := by
      unfold ProjectedApplication.assign
      split
      · exact ⟨rfl, hpos, hsrc, htgt, fun id hid =>
          ⟨next, hsuperseded.mem_next, hnextId.trans (some.inj hid)⟩⟩
      · refine ⟨rfl, hpos, hsrc, htgt, fun id hid => ?_⟩
        rcases hinv with hnone | ⟨a₀, ha₀, rfl⟩
        · cases hnone.symm.trans hid
        · exact hkept (h.invoiceIds a₀ (mem_recordedApplications.mp ha₀).1 id hid)
    rcases hup with rfl | rfl
    · exact hnew
    · exact ⟨hnew.digest, hnew.positive, hnew.source, hnew.target, hnew.invoice⟩

/-- A new version of the invoice of a month keeps the ledger. -/
theorem supersede (hspans : b.spans storeId month = false) (hnextStore : next.storeId = storeId)
    (hnextMonth : next.statementMonth = month) (hdone : next.isCompleted = true)
    {bill : ConfirmedBill} (hbill : bill ∈ b.managementBills (storeScope storeId))
    (hbillId : bill.1.statementId = next.statementId)
    (hbillMonth : bill.1.statementMonth = month) : InvoicedLedger digest b₂ := by
  have haft {a : ManagementApplication} (ha : a ∈ b₂.recordedApplications) :=
    h.recordedAfter hinjective hsuperseded hnextId hsync ha
  have hrow {a : ManagementApplication} (ha : a ∈ b₂.managementApplications.rows) :=
    h.rowSound_after hinjective hsuperseded hnextId hsync ha
  have hsynch := h.synchronized_after hinjective hsuperseded hsync
  obtain ⟨t, rfl⟩ : ∃ t, b₂ = { b₁ with managementApplications := t } :=
    ⟨_, synchronizeApplications_frame hsync⟩
  obtain ⟨records, rfl⟩ : ∃ records, b₁ = { b with invoiceRecords := records } :=
    ⟨_, hsuperseded.frame⟩
  refine ⟨⟨h.indexed.currentSlot, h.indexed.confirmationSlot⟩, hsynch.pairs,
    fun a ha => (hrow ha).digest, fun a ha => (hrow ha).positive, fun a ha => (hrow ha).source,
    fun a ha => (hrow ha).target, fun a ha => (hrow ha).invoice, ?_, ?_, ?_⟩
  · intro r hr hcur
    rcases hsuperseded.of_current hr hcur with rfl | ⟨hold, _⟩
    · exact ⟨hdone, bill, hnextStore ▸ hbill, hbillId, hbillMonth.trans hnextMonth.symm⟩
    · exact h.invoiced r hold hcur
  · intro a ha
    obtain ⟨hmem, _, r, hr, hinv, hrcom⟩ := mem_recordedApplications.mp ha
    have hold := hsuperseded.of_current hr (InvoiceRecord.isCompleted_spec hrcom).2
    rcases haft ha with ⟨hbef, _⟩ | ⟨e, he, hst, hsrc, htgt, _, hcase⟩
    · obtain ⟨hord, hsourceBill, r₀, hr₀, hinv₀, _, htgt₀⟩ := h.recorded a hbef
      have hid : r₀.invoiceId = r.invoiceId := mem_unique hinv₀ hinv
      rcases hold with rfl | ⟨hold, _⟩
      · exact absurd hid (hsuperseded.fresh r₀ hr₀)
      · have hsame : r₀ = r := b.invoiceRecords.eq_of_key_eq hr₀ hold hid
        exact ⟨hord, hsourceBill, r, hr, hinv, hrcom, hsame ▸ htgt₀⟩
    · have hsour := h.sourced he
      obtain ⟨source, hsourceBill, hsourceId, hsourceMonth⟩ := hsour.bill
      have hsourceSlot := (hrow hmem).source.eq (mem_managementBills_store.mp hsourceBill).1.1
        (hsourceId.trans hsrc.symm)
      have hbillOf : ∃ row ∈ b.managementBills (storeScope a.storeId),
          row.1.statementId = a.sourceStatementId :=
        ⟨source, by rw [hst, hsour.store]; exact hsourceBill, hsourceId.trans hsrc.symm⟩
      rcases hcase with ⟨hnext, hnewInvoice⟩ | ⟨a₀, ha₀, rfl, hsameInvoice⟩
      · -- an application to the bill that is invoiced now
        have htargetSlot := (hrow hmem).target.eq (mem_managementBills_store.mp hbill).1.1
          (hbillId.trans (hnext.symm.trans htgt.symm))
        refine ⟨?_, hbillOf, next, hsuperseded.mem_next, hnewInvoice, hdone,
          hnext.symm.trans htgt.symm⟩
        rw [← hsourceSlot.2, ← htargetSlot.2, hbillMonth]
        exact hsourceMonth
      · -- an application to an earlier invoice, as it was
        obtain ⟨hord, _, r₀, hr₀, hinv₀, _, htgt₀⟩ := h.recorded a₀ ha₀
        have hmem₀ := (mem_recordedApplications.mp ha₀).1
        have hid : r₀.invoiceId = r.invoiceId :=
          some.inj (hinv₀.symm.trans (hsameInvoice.symm.trans hinv))
        rcases hold with rfl | ⟨hold, _⟩
        · exact absurd hid (hsuperseded.fresh r₀ hr₀)
        · have hsame : r₀ = r := b.invoiceRecords.eq_of_key_eq hr₀ hold hid
          have hsourceSlot₀ := (h.sources a₀ hmem₀).eq
            (mem_managementBills_store.mp hsourceBill).1.1 hsourceId
          obtain ⟨_, htargetMem, htargetId, htargetSlot⟩ := (hrow hmem).target
          have htargetSlot₀ := (h.targets a₀ hmem₀).eq htargetMem (htargetId.trans htgt)
          refine ⟨?_, hbillOf, r, hr, hinv, hrcom, ?_⟩
          · rw [← hsourceSlot.2, ← (Prod.mk.inj htargetSlot).2, hsourceSlot₀.2, htargetSlot₀.2]
            exact hord
          · rw [← hsame, htgt₀, htgt]
            rfl
  · intro store row hbill hneg
    refine h.covered_after hspans hsynch.pairs filter_sublist ?_ ?_
      (fun a ha => haft ha) hbill hneg
    · exact fun a ha => (mem_recordedApplications.mp ha).2.1
    · exact fun a ha => (hrow (mem_recordedApplications.mp ha).1).source

end Supersede

end InvoicedLedger

end DyData.Settlement
