import DyData.ManagementInvoicedMonths

/-!
Whole runs of confirmations, disputes, factory results and corrections: when an invoiced
management month stays invoiced.
-/

namespace DyData.Settlement

open Relational FifoNetting List
open Except (of_bind)

structure Billing.Uninvoiced (b : Billing) : Prop where
  indexed : b.Indexed
  invoiceRecords : b.invoiceRecords.rows = []
  managementApplications : b.managementApplications.rows = []

/-- No dispute is accepted for a bound month, and no month is invoiced across a recorded
application. -/
def FinanceAction.isSafe (b : Billing) : FinanceAction → Bool
  | .bill (.transition _ r) => r.target ≠ .acceptedWithAdjustment ||
      (b.disputes.get? r.disputeId).all fun d => !b.isBound d.storeId d.statementMonth
  | .commitRow _ month row _ => !b.spans row.payload.storeId month
  | .correct r => !b.spans r.storeId r.statementMonth
  | _ => true

def Db.isSafeRun (digest : ApplicationIdentity → String) : Db → List FinanceAction → Bool
  | _, [] => true
  | db, action :: actions => action.isSafe db.billing &&
      (db.financeAct digest action).isSafeRun digest actions

namespace InvoicedLedger

variable {digest : ApplicationIdentity → String} {b b' : Billing}

theorem of_uninvoiced (h : b.Uninvoiced) : InvoicedLedger digest b := by
  have hnone : b.recordedApplications = [] := by
    rw [Billing.recordedApplications, h.managementApplications]
    rfl
  refine ⟨h.indexed, ?_, ?_, ?_, ?_, ?_, ?_, ?_, ?_, ?_⟩
  · intro a ha
    rw [h.managementApplications] at ha
    exact absurd ha not_mem_nil
  all_goals simp only [h.managementApplications, h.invoiceRecords, hnone, not_mem_nil,
    IsEmpty.forall_iff, implies_true, Billing.recordedFrom, filter_nil, map_nil,
    sum_nil]
  omega

/-! ### Factory results and corrections -/

theorem commit (h : InvoicedLedger digest b) (hinj : Function.Injective digest)
    {storeName : String → Option String} {month : Month} {row : ImportRow} {ids : InvoiceIds}
    (hspans : b.spans row.payload.storeId month = false)
    (hcomm : b.commitManagementFactoryResultRow digest storeName month row ids = .ok b') :
    InvoicedLedger digest b' := by
  obtain ⟨s, _, b₂, hs, hval, hsup, hsync, rfl⟩ :=
    commitManagementFactoryResultRow_ok hcomm
  obtain ⟨cents, hcents, hpos, hmo, hcase⟩ := validateManagementRow_nil hval
  have hsmem := mem_of_find?_eq_some hs
  have hskey := find?_some hs
  simp only [bool_to_prop] at hskey
  -- the bill is confirmed: it is invoiced already, or the projection has a period for it
  have hbill : ∃ bill ∈ b.managementBills (storeScope row.payload.storeId),
      bill.1.statementMonth = month := by
    rcases hcase with hcur | ⟨p, hfind, _⟩
    · obtain ⟨_, _, r, hr, _, _, hst, hrmon, _, hrcur⟩ :=
        exists_invoice_of_payloadIsCurrent hcur
      obtain ⟨_, bill, hbill, _, hbillMonth⟩ := h.invoiced r hr hrcur
      exact ⟨bill, hst ▸ hbill, by rw [hbillMonth, hrmon, hmo]⟩
    · obtain ⟨bill, hbill, hper⟩ :=
        exists_bill_of_period h.indexed rfl (mem_of_find?_eq_some hfind)
      have hpmon : p.statementMonth = month := by simpa using find?_some hfind
      exact ⟨bill, (mem_managementBills_horizon.mp hbill).1, by
        rw [← hper.statementMonth, hpmon]⟩
  obtain ⟨bill, hbill, hbillMonth⟩ := hbill
  have hsame : bill.1 = s := by
    obtain ⟨⟨hmem, hcur, _, hst⟩, _⟩ := mem_managementBills_store.mp hbill
    refine h.indexed.currentSlot _ hmem _ hsmem hcur hskey.2 ?_
    rw [Statement.slot, Statement.slot, hst, hbillMonth, hskey.1.1, hskey.1.2]
  have hdone : (row.invoice month ids s
      (b.managementInvoice row.payload.storeId month)).isCompleted = true := by
    have hamt : (row.invoice month ids s
        (b.managementInvoice row.payload.storeId month)).invoiceAmountCent = cents := by
      change row.payload.deductionAmountCent.getD 0 = cents
      rw [hcents]
      rfl
    rw [InvoiceRecord.isCompleted, hamt, decide_eq_true hpos]
    rfl
  have hled : InvoicedLedger digest b₂ :=
    h.supersede hinj hsup rfl hsync hspans rfl rfl hdone hbill
      (by rw [hsame]; rfl) hbillMonth
  exact { hled with
    indexed := ⟨hled.indexed.currentSlot, hled.indexed.confirmationSlot⟩ }

theorem correct (h : InvoicedLedger digest b) (hinj : Function.Injective digest)
    {r : CorrectionRequest} (hspans : b.spans r.storeId r.statementMonth = false)
    (hcorr : b.correctManagementInvoice digest r = .ok b') : InvoicedLedger digest b' := by
  obtain ⟨current, _, hcur, hpos, _, hsup, hsync⟩ :=
    correctManagementInvoice_ok hcorr
  have hmem := mem_of_find?_eq_some hcur
  have hkey := find?_some hcur
  simp only [bool_to_prop] at hkey
  obtain ⟨_, _, hbill, hbillId, hbillMonth⟩ := h.invoiced current hmem hkey.2
  have hdone : (r.invoice current).isCompleted = true := by
    have hamt : (r.invoice current).invoiceAmountCent = r.invoiceAmountCent := rfl
    rw [InvoiceRecord.isCompleted, hamt, decide_eq_true hpos]
    rfl
  exact h.supersede hinj hsup rfl hsync hspans hkey.1.1.1 hkey.1.1.2 hdone
    (hkey.1.1.1 ▸ hbill) hbillId (hbillMonth.trans hkey.1.1.2)

/-! ### Confirmations and disputes -/

theorem confirm (h : InvoicedLedger digest b) {context : RequestContext} {r : ConfirmRequest}
    {s : Statement} (hrec : b.recordConfirmation context r s = .ok b') :
    InvoicedLedger digest b' := by
  obtain ⟨_, _, hnone, hrows, hfrm⟩ := recordConfirmation_ok hrec
  have hind : b'.Indexed :=
    h.indexed.confirm (not_confirmed_of_confirmationOf hnone) hrows (by rw [hfrm])
  rw [hfrm] at hind ⊢
  have hbills {storeId : String} {row : ConfirmedBill}
      (hrow : row ∈ b.managementBills (storeScope storeId)) :
      row ∈ ({ b with confirmations := b'.confirmations } : Billing).managementBills
        (storeScope storeId) := by
    obtain ⟨hstm, hc, hkey⟩ := mem_managementBills_store.mp hrow
    refine mem_managementBills_store.mpr ⟨hstm, ?_, hkey⟩
    rw [hrows]
    exact mem_append_left _ hc
  refine { h with indexed := hind, invoiced := ?_, recorded := ?_, covered := ?_ }
  · intro invoice hinv hcur
    obtain ⟨hdone, row, hrow, hrest⟩ := h.invoiced invoice hinv hcur
    exact ⟨hdone, row, hbills hrow, hrest⟩
  · intro a ha
    obtain ⟨hord, ⟨row, hrow, hid⟩, hinv⟩ := h.recorded a ha
    exact ⟨hord, ⟨row, hbills hrow, hid⟩, hinv⟩
  · intro storeId row hrow hneg
    obtain ⟨hstm, hc, hid, hdir⟩ := mem_managementBills_store.mp hrow
    rw [hrows] at hc
    rcases mem_append.mp hc with hc | hc
    · exact h.covered storeId row
        (mem_managementBills_store.mpr ⟨hstm, hc, hid, hdir⟩) hneg
    · -- a management direction is never confirmed with a negative amount
      rw [mem_singleton.mp hc] at hdir hneg
      have hamt : 0 ≤ b.confirmableAmount s r.feeDirection := by
        rw [show r.feeDirection = .management from hdir]
        exact le_max_right _ _
      exact absurd hneg (not_lt.mpr hamt)

section Reversion

variable {current version : Statement}

theorem of_mem_retire {s : Statement} (hs : s ∈ (b.retire current).statements.rows) :
    ∃ s₀ ∈ b.statements.rows, s.statementId = s₀.statementId ∧ s.slot = s₀.slot ∧
      (s.isCurrent = true → s = s₀) := by
  obtain ⟨s₀, hs₀, heq⟩ := mem_retire.mp hs
  split at heq
  · subst heq
    exact ⟨s₀, hs₀, rfl, rfl, nofun⟩
  · exact ⟨s₀, hs₀, by rw [heq], by rw [heq], fun _ => heq.symm⟩

theorem hasStatement_reversioned (hrev : Reversioned b current version b')
    {statementId storeId : String} {month : Month}
    (h : b.HasStatement statementId storeId month) : b'.HasStatement statementId storeId month := by
  obtain ⟨s, hs, hid, hslot⟩ := h
  refine ⟨if s.statementId = current.statementId then { s with isCurrent := false } else s,
    ?_, ?_, ?_⟩
  · rw [hrev.statements]
    exact mem_append_left _ (mem_retire.mpr ⟨s, hs, rfl⟩)
  · split <;> exact hid
  · split <;> exact hslot

theorem bill_reversioned (hrev : Reversioned b current version b')
    (hcur : current ∈ b.statements.rows) {storeId : String} {row : ConfirmedBill}
    (hrow : row ∈ b.managementBills (storeScope storeId)) (hslot : row.1.slot ≠ current.slot) :
    row ∈ b'.managementBills (storeScope storeId) := by
  obtain ⟨⟨hs, hrest⟩, hc, hkey⟩ := mem_managementBills_store.mp hrow
  have hid : row.1.statementId ≠ current.statementId :=
    fun hid => hslot (by rw [b.statements.eq_of_key_eq hs hcur hid])
  refine mem_managementBills_store.mpr ⟨⟨?_, hrest⟩, ?_, hkey⟩
  · rw [hrev.statements]
    exact mem_append_left _ (mem_retire.mpr ⟨row.1, hs, if_neg hid⟩)
  · rcases hrev.confirmations with heq | ⟨c, heq, _⟩
    · rw [heq]
      exact hc
    · rw [heq]
      exact mem_append_left _ hc

theorem bill_of_reversioned (hrev : Reversioned b current version b') {storeId : String}
    {row : ConfirmedBill} (hrow : row ∈ b'.managementBills (storeScope storeId)) :
    row.1 = version ∨ row ∈ b.managementBills (storeScope storeId) := by
  obtain ⟨⟨hs, hcur, hrest⟩, hc, hid, hdir⟩ := mem_managementBills_store.mp hrow
  have hnd := b'.statements.nodup
  rw [hrev.statements, map_append, nodup_append] at hnd
  rw [hrev.statements] at hs
  rcases mem_append.mp hs with hs | hs
  · refine .inr (mem_managementBills_store.mpr ⟨⟨?_, hcur, hrest⟩, ?_, hid, hdir⟩)
    · obtain ⟨_, hs₀, _, _, hsame⟩ := of_mem_retire hs
      rw [hsame hcur]
      exact hs₀
    · rcases hrev.confirmations with heq | ⟨c, heq, hcid, _⟩
      · rw [← heq]
        exact hc
      · rw [heq] at hc
        rcases mem_append.mp hc with hc | hc
        · exact hc
        · -- the automatic confirmation is for the new version
          have hver : row.1.statementId = version.statementId := by
            rw [← hid, mem_singleton.mp hc, hcid]
          exact absurd hver (hnd.2.2 _ (mem_map_of_mem hs) _ mem_cons_self)
  · exact .inl (mem_singleton.mp hs)

theorem indexed_reversioned (hb : b.Indexed) (hrev : Reversioned b current version b') :
    b'.Indexed := by
  constructor
  · rw [hrev.statements]
    intro s hs t ht hsc htc hslot
    rcases mem_append.mp hs with hs | hs <;> rcases mem_append.mp ht with ht | ht
    · obtain ⟨_, hs₀, _, _, hsame⟩ := of_mem_retire hs
      obtain ⟨_, ht₀, _, _, htsame⟩ := of_mem_retire ht
      obtain rfl := hsame hsc
      obtain rfl := htsame htc
      exact hb.currentSlot s hs₀ t ht₀ hsc htc hslot
    · rw [mem_singleton.mp ht] at hslot
      rw [hrev.free s hs hslot] at hsc
      cases hsc
    · rw [mem_singleton.mp hs] at hslot
      rw [hrev.free t ht hslot.symm] at htc
      cases htc
    · rw [mem_singleton.mp hs, mem_singleton.mp ht]
  · rcases hrev.confirmations with heq | ⟨c, heq, _, hnew⟩
    · rw [heq]
      exact hb.confirmationSlot
    · have hconf : ({ b with confirmations := b'.confirmations } : Billing).Indexed :=
        hb.confirm hnew heq rfl
      exact hconf.confirmationSlot

/-- A new version of the bill of a month that nothing binds keeps the ledger. -/
theorem reversion (h : InvoicedLedger digest b) (hrev : Reversioned b current version b')
    (hcur : current ∈ b.statements.rows)
    (hbd : b.isBound current.storeId current.statementMonth = false) :
    InvoicedLedger digest b' := by
  have hrec : b'.recordedApplications = b.recordedApplications := by
    unfold Billing.recordedApplications
    rw [hrev.managementApplications, hrev.invoiceRecords]
  rw [Billing.isBound, Bool.or_eq_false_iff] at hbd
  have hsrc : ∀ a ∈ b.recordedApplications,
      ¬ (a.storeId = current.storeId ∧ a.sourceStatementMonth = current.statementMonth) := by
    intro a ha hslot
    have hnone := any_eq_false.mp hbd.2 a ha
    exact hnone (by simp [hslot.1, hslot.2])
  refine ⟨indexed_reversioned h.indexed hrev, ?_, ?_, ?_, ?_, ?_, ?_, ?_, ?_, ?_⟩
  · rw [hrev.managementApplications]
    exact h.pairs
  · rw [hrev.managementApplications]
    exact h.digests
  · rw [hrev.managementApplications]
    exact h.positive
  · rw [hrev.managementApplications]
    exact fun a ha => hasStatement_reversioned hrev (h.sources a ha)
  · rw [hrev.managementApplications]
    exact fun a ha => hasStatement_reversioned hrev (h.targets a ha)
  · rw [hrev.managementApplications, hrev.invoiceRecords]
    exact h.invoiceIds
  · rw [hrev.invoiceRecords]
    intro r hr hrcur
    obtain ⟨hdone, row, hrow, hid, hmo⟩ := h.invoiced r hr hrcur
    refine ⟨hdone, row, bill_reversioned hrev hcur hrow fun hslot => ?_, hid, hmo⟩
    obtain ⟨hst, hrowMonth⟩ := Prod.mk.inj hslot
    have hoth := hasInvoice_eq_false_iff.mp hbd.1 r hr
      ((mem_managementBills_store.mp hrow).1.2.2.2.symm.trans hst)
      (hmo.symm.trans hrowMonth)
    rw [hdone] at hoth
    cases hoth
  · rw [hrec, hrev.invoiceRecords]
    intro a ha
    obtain ⟨hord, _, hinv⟩ := h.recorded a ha
    obtain ⟨row, hrow, hid, hmo⟩ := h.source_bill ha
    refine ⟨hord, ⟨row, bill_reversioned hrev hcur hrow fun hslot => ?_, hid⟩, hinv⟩
    obtain ⟨hst, hrowMonth⟩ := Prod.mk.inj hslot
    exact hsrc a ha ⟨(mem_managementBills_store.mp hrow).1.2.2.2.symm.trans hst,
      hmo.symm.trans hrowMonth⟩
  · intro storeId row hrow hneg
    rw [Billing.recordedFrom, hrec]
    rcases bill_of_reversioned hrev hrow with hver | hold
    · -- nothing is recorded for the month of the new version
      have hslot : row.1.slot = current.slot := by rw [hver, hrev.slot]
      obtain ⟨hst, hmo⟩ := Prod.mk.inj hslot
      have hrowStore := (mem_managementBills_store.mp hrow).1.2.2.2
      have hnone : b.recordedApplications.filter (fun a => decide (a.storeId = storeId) &&
          decide (a.sourceStatementMonth = row.1.statementMonth)) = [] := by
        refine filter_eq_nil_iff.mpr fun a ha hkeep => ?_
        simp only [bool_to_prop] at hkeep
        exact hsrc a ha ⟨by rw [hkeep.1, ← hrowStore, hst], by rw [hkeep.2, hmo]⟩
      rw [hnone, map_nil, sum_nil]
      omega
    · exact h.covered storeId row hold hneg

end Reversion

/-! ### Runs -/

theorem bill {db : Db} (h : InvoicedLedger digest db.billing) {action : BillAction}
    (hsafe : (FinanceAction.bill action).isSafe db.billing = true) {db' : Db}
    (hact : db.tryBillAct action = .ok db') : InvoicedLedger digest db'.billing := by
  have heff : action.accepts = false → InvoicedLedger digest db'.billing := by
    intro hnone
    have hbillAct : db.billAct action = db' := by rw [Db.billAct, hact]
    rcases hbillAct ▸ billAct_effect db hnone with heq | ⟨context, r, s, _, hrec⟩ |
      ⟨d, _, _, heq⟩ | ⟨disputeId, f, hf, _, heq⟩
    · rw [heq]
      exact h
    · exact h.confirm hrec
    · rw [heq]
      exact { h with indexed := ⟨h.indexed.currentSlot, h.indexed.confirmationSlot⟩ }
    · rw [heq]
      exact { h with indexed := ⟨h.indexed.currentSlot, h.indexed.confirmationSlot⟩ }
  cases action with
  | submit _ | confirm _ _ | withdraw _ => exact heff rfl
  | transition context r =>
    by_cases htgt : r.target = .acceptedWithAdjustment
    · rcases transitionAdminDispute_ok hact with hsame |
        ⟨d, current, db₁, result, hd, hcur, _, hver, hdb⟩
      · rw [hsame]
        exact h
      · rw [Db.acceptedVersion, htgt] at hver
        obtain ⟨⟨_, _⟩, hcrea, hres⟩ := of_bind hver
        cases hres
        have hkey := find?_some hcur
        simp only [bool_to_prop] at hkey
        have hbd : db.billing.isBound current.storeId current.statementMonth = false := by
          simp only [FinanceAction.isSafe, htgt, ne_eq, not_true, decide_false, Bool.false_or,
            hd, Option.all_some, Bool.not_eq_true'] at hsafe
          rw [hkey.1.1, hkey.1.2]
          exact hsafe
        have hled := h.reversion (createDisputeStatementVersion_ok hcrea)
          (mem_of_find?_eq_some hcur) hbd
        rw [hdb]
        exact { hled with
          indexed := ⟨hled.indexed.currentSlot, hled.indexed.confirmationSlot⟩ }
    · exact heff (by simpa [BillAction.accepts] using htgt)

theorem act {db : Db} (h : InvoicedLedger digest db.billing) (hinj : Function.Injective digest)
    {action : FinanceAction} (hsafe : action.isSafe db.billing = true) :
    InvoicedLedger digest (db.financeAct digest action).billing := by
  unfold Db.financeAct
  split
  · rename_i hact
    cases action with
    | bill action => exact h.bill hsafe hact
    | commitRow storeName month row ids =>
      obtain ⟨billing, hcomm, hact⟩ := of_bind hact
      cases hact
      exact h.commit hinj (by simpa [FinanceAction.isSafe] using hsafe) hcomm
    | closeBatch batchId =>
      cases hact
      exact { h with indexed := ⟨h.indexed.currentSlot, h.indexed.confirmationSlot⟩ }
    | correct r =>
      have hspans : db.billing.spans r.storeId r.statementMonth = false := by
        simpa [FinanceAction.isSafe] using hsafe
      simp only [Db.tryFinanceAct, Db.correctManagementInvoice] at hact
      split at hact
      · obtain ⟨_, _, hact⟩ := of_bind hact
        obtain ⟨_, _, hact⟩ := of_bind hact
        cases hact
        exact h
      · obtain ⟨_, hcorr, hact⟩ := of_bind hact
        rw [addAudit_ok hact]
        exact h.correct hinj hspans hcorr
  · exact h

theorem run {db : Db} (h : InvoicedLedger digest db.billing) (hinj : Function.Injective digest)
    {actions : List FinanceAction} (hsafe : db.isSafeRun digest actions = true) :
    InvoicedLedger digest (db.financeRun digest actions).billing := by
  induction actions generalizing db with
  | nil => exact h
  | cons action actions ih =>
    rw [Db.isSafeRun, Bool.and_eq_true] at hsafe
    exact ih (h.act hinj hsafe.1) hsafe.2

end InvoicedLedger

/-- As long as no dispute is accepted for a bound month and no month is invoiced across a recorded
application, invoiced months are not offered again and negative amounts not applied again. -/
theorem invoiced_months_stay_invoiced {db : Db} (hstart : db.billing.Uninvoiced)
    {digest : ApplicationIdentity → String} (hinjective : Function.Injective digest)
    {actions : List FinanceAction} (hsafe : db.isSafeRun digest actions = true) :
    (db.financeRun digest actions).billing.StaysInvoiced :=
  ((InvoicedLedger.of_uninvoiced hstart).run hinjective hsafe).staysInvoiced

namespace InvoicedAugust

open LaterCredit (august bill)

def escape (text : String) : List Char := text.toList.flatMap (fun c => ['-', c]) ++ ['.']

theorem escape_append_inj {text text' : String} {rest rest' : List Char}
    (h : escape text ++ rest = escape text' ++ rest') : text = text' ∧ rest = rest' := by
  have hlist : ∀ l l' : List Char, (l.flatMap (fun c => ['-', c]) ++ ['.']) ++ rest =
      (l'.flatMap (fun c => ['-', c]) ++ ['.']) ++ rest' → l = l' ∧ rest = rest' := by
    intro l
    induction l with
    | nil =>
      intro l' h
      cases l' with
      | nil => simpa using h
      | cons c l' => simp at h
    | cons c l ih =>
      intro l' h
      cases l' with
      | nil => simp at h
      | cons c' l' =>
        simp only [flatMap_cons, cons_append, nil_append, append_assoc, cons.injEq, true_and] at h
        obtain ⟨hl, hrest⟩ := ih l' (by simpa using h.2)
        exact ⟨by rw [h.1, hl], hrest⟩
  obtain ⟨htext, hrest⟩ := hlist _ _ h
  exact ⟨String.toList_inj.mp htext, hrest⟩

def escapeInt (amount : Int) : List Char :=
  (if amount < 0 then '-' else '+') :: replicate amount.natAbs '1'

def canonical (x : ApplicationIdentity) : List Char :=
  escape x.storeId ++ (escape x.sourceStatementId ++ (escape x.targetStatementId ++
    (escape (if x.invoiceId.isSome then "+" else "-") ++ (escape (x.invoiceId.getD "") ++
      escapeInt x.appliedAmountCent))))

def digest (x : ApplicationIdentity) : String := String.ofList (canonical x)

theorem digest_injective : Function.Injective digest := by
  intro x y h
  have hlist : canonical x = canonical y := by simpa [digest] using congrArg String.toList h
  obtain ⟨_, hlist⟩ := escape_append_inj hlist
  obtain ⟨_, hlist⟩ := escape_append_inj hlist
  obtain ⟨_, hlist⟩ := escape_append_inj hlist
  obtain ⟨_, hlist⟩ := escape_append_inj hlist
  obtain ⟨_, hlist⟩ := escape_append_inj hlist
  have hinv : x.invoiceId = y.invoiceId := by
    cases hx : x.invoiceId <;> cases hy : y.invoiceId <;> simp_all
  have hamt : x.appliedAmountCent = y.appliedAmountCent := by
    have hlen := congrArg length hlist
    simp only [escapeInt, length_cons, length_replicate, Nat.add_right_cancel_iff]
      at hlen
    have hsign := (cons.inj hlist).1
    split at hsign <;> split at hsign <;> simp at hsign <;> omega
  cases x
  cases y
  simp_all

def line (net : Int) : StatementLine where
  statementLineId := "line-1"
  statementId := "a"
  feeDirection := .management
  productScope := "scope"
  productType := "type"
  originalEntryCount := 1
  adjustmentEntryCount := 0
  originalBaseCent := 1000
  adjustmentBaseCent := 0
  netBaseCent := 1000
  originalFeeCent := net
  adjustmentFeeCent := 0
  netFeeCent := net

def entry (net : Int) : StatementEntry where
  statementEntryId := "entry-1"
  statementId := "a"
  statementLineId := "line-1"
  sourceType := .original
  sourceRecordId := "fee-1"
  originalFeeResultId := "fee-1"
  couponId := "coupon-1"
  orderId := "order-1"
  feeDirection := .management
  originalBusinessMonth := august
  statementPostingMonth := august
  productScope := "scope"
  productType := "type"
  baseAmountCent := 1000
  feeAmountCent := net
  ruleVersion := "rule-1"

def start (net : Int) : Db where
  billing := {
    statements := ⟨[bill "a" august net, bill "s" (august + 1) 100, bill "o" (august + 2) 50], by
      change ["a", "s", "o"].Nodup
      decide⟩
    lines := ⟨[line net], nodup_singleton _⟩
    entries := ⟨[entry net], nodup_singleton _⟩ }

theorem start_uninvoiced (net : Int) : (start net).billing.Uninvoiced where
  indexed := by
    refine ⟨?_, nofun⟩
    intro s hs t ht _ _ hslot
    simp only [start, mem_cons, not_mem_nil, or_false] at hs ht
    rcases hs with rfl | rfl | rfl <;> rcases ht with rfl | rfl | rfl <;>
      first | rfl | simp [Statement.slot, bill] at hslot
  invoiceRecords := rfl
  managementApplications := rfl

def context : RequestContext := ⟨"admin", 0, 10, fun text => text⟩

def confirm (id : String) (amount : Int) : FinanceAction :=
  .bill (.confirm context {
    key := ⟨id, id⟩
    confirmationId := id
    statementId := id
    feeDirection := .management
    confirmedAmountCent := amount
    readVersion := 1 })

def commit (month : Month) (number : String) (amount : Int) : FinanceAction :=
  .commitRow (fun _ => some "store") month {
    batchId := number
    rowNumber := 1
    payload := {
      storeId := "store-1"
      storeName := "store"
      statementMonth := month
      invoiceNumber := number
      invoiceDate := some 0
      deductionDate := some 0
      deductionAmountCent := some amount } }
    { invoiceId := number, application := fun pair => number ++ pair.1 ++ pair.2 }

def dispute (adjustment : Int) : List FinanceAction :=
  [.bill (.submit {
      key := ⟨"key-d", "key-d"⟩
      disputeId := "dispute-1"
      statementId := "a"
      feeDirection := .management
      disputedAmountCent := 10
      orders := [⟨"order-1", some "coupon-1", 10⟩]
      readVersion := 1 }),
    .bill (.transition context {
      key := ⟨"key-t", "key-t"⟩
      auditId := "audit-1"
      ids := {
        statementId := "a2"
        adjustment := fun id => id
        application := fun id => id
        line := fun id => id ++ "-2"
        entry := fun id => id ++ "-2"
        disputeEntry := fun _ => "entry-d"
        confirmationId := "confirmation-d" }
      disputeId := "dispute-1"
      target := .acceptedWithAdjustment
      resolutionNote := "founded"
      readVersion := 1
      adjustmentAmountCent := some adjustment })]

def correction : FinanceAction :=
  .correct {
    key := ⟨"key-c", "key-c"⟩
    auditId := "audit-2"
    ids := { invoiceId := "invoice-c", application := fun pair => "c" ++ pair.1 ++ pair.2 }
    storeId := "store-1"
    statementMonth := august + 1
    invoiceNumber := "00000000000000000003"
    changeReason := "number"
    readVersion := 1
    invoiceAmountCent := 70
    deductionAmountCent := 70
    invoiceDate := 0 }

def inOrder : List FinanceAction :=
  dispute (-50) ++ [confirm "s" 100, commit (august + 1) "00000000000000000001" 70, correction]

def reversioned : List FinanceAction :=
  [confirm "a" 100, commit august "00000000000000000001" 100] ++ dispute (-20)

def crossed : List FinanceAction :=
  dispute (-50) ++ [confirm "o" 50, commit (august + 2) "00000000000000000001" 20,
    confirm "s" 100, commit (august + 1) "00000000000000000002" 70]

end InvoicedAugust

open InvoicedAugust in
/-- A negative August that goes into September's invoice, which is then corrected. -/
theorem invoiced_in_order_stays_invoiced :
    ((start 20).financeRun digest inOrder).billing.hasInvoice "store-1" (LaterCredit.august + 1) =
      true ∧
    ((start 20).financeRun digest inOrder).billing.recordedFrom "store-1" LaterCredit.august = 30 ∧
    ((start 20).financeRun digest inOrder).billing.StaysInvoiced :=
  ⟨by decide +kernel, by decide +kernel,
    invoiced_months_stay_invoiced (start_uninvoiced 20) digest_injective (by decide +kernel)⟩

open InvoicedAugust in
/-- The new version of an invoiced bill is offered again; and a negative amount that October's
invoice has used is used again for September. -/
theorem invoiced_month_offered_again :
    (∃ p ∈ (((start 100).financeRun digest reversioned).billing.managementInvoiceableProjection
        (storeScope "store-1")).periods, p.invoiceableAmountCent = 80 ∧
      ((start 100).financeRun digest reversioned).billing.hasInvoice p.storeId p.statementMonth =
        true) ∧
    (∃ p ∈ (((start 20).financeRun digest crossed).billing.managementInvoiceableProjection
        (storeScope "store-1")).periods, p.confirmedAmountCent = -30 ∧
      ((start 20).financeRun digest crossed).billing.recordedFrom "store-1" p.statementMonth =
        60) := by
  decide +kernel

end DyData.Settlement
