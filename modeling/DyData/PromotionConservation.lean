import DyData.PromotionSelection

/-!
Conservation of the promotion fees: however invoices are registered, reviewed, flushed and voided,
every confirmed month is covered by one effective invoice or offered again, with its full amount.
-/

namespace DyData.Settlement

open Relational List
open Except (of_bind of_ofOption_bind)

variable {db : Db} {i : PromotionInvoice} {a : PromotionInvoiceAllocation} {r : RegisterRequest}

/-! ### What is conserved -/

def Billing.confirmedPromotions (b : Billing) (storeId : String) : List StatementConfirmation :=
  b.confirmations.rows.filter fun c => c.feeDirection = .promotion &&
    b.statements.rows.any fun s => s.statementId = c.statementId && s.storeId = storeId &&
      s.isCurrent

def Billing.effectiveAllocations (b : Billing) (storeId : String) :
    List PromotionInvoiceAllocation :=
  b.promotionInvoiceAllocations.rows.filter fun a => a.storeId = storeId &&
    b.promotionInvoices.rows.any fun i => i.invoiceId = a.invoiceId && i.isEffective

def Billing.offeredPeriods (b : Billing) (digest : List MemberIdentity → String)
    (storeId : String) : List PromotionPeriod :=
  (b.promotionInvoiceCarryforwardProjection digest { storeId := some storeId }).periods

def Billing.allocatedTo (b : Billing) (invoiceId : String) : Int :=
  ((b.promotionInvoiceAllocations.rows.filter fun a => a.invoiceId = invoiceId).map
    PromotionInvoiceAllocation.allocatedAmountCent).sum

structure Billing.ConservesPromotion (b : Billing) (digest : List MemberIdentity → String) :
    Prop where
  /-- A month of a store has at most one current allocation. -/
  slot : ∀ a ∈ b.promotionInvoiceAllocations.rows, ∀ a' ∈ b.promotionInvoiceAllocations.rows,
    a.isCurrent = true → a'.isCurrent = true → a.storeId = a'.storeId →
    a.statementMonth = a'.statementMonth → a = a'
  amount : ∀ i ∈ b.promotionInvoices.rows, i.invoiceAmountCent = b.allocatedTo i.invoiceId ∧
    0 < i.invoiceAmountCent
  total : ∀ storeId,
    ((b.effectiveAllocations storeId).map
        PromotionInvoiceAllocation.allocatedAmountCent).sum +
      ((b.offeredPeriods digest storeId).map PromotionPeriod.confirmedAmountCent).sum +
      (((b.confirmedPromotions storeId).filter fun c => c.confirmedAmountCent = 0).map
        StatementConfirmation.confirmedAmountCent).sum =
    ((b.confirmedPromotions storeId).map StatementConfirmation.confirmedAmountCent).sum

structure Billing.Unregistered (b : Billing) : Prop where
  indexed : b.Indexed
  formal : ∀ s ∈ b.statements.rows, formalSettlementStart ≤ s.statementMonth
  promotionInvoices : b.promotionInvoices.rows = []
  promotionInvoiceAllocations : b.promotionInvoiceAllocations.rows = []

/-! ### The invariant -/

/-- A month of a store has at most one current allocation. -/
def OneCurrent (rows : List PromotionInvoiceAllocation) : Prop :=
  ∀ a ∈ rows, ∀ a' ∈ rows, a.isCurrent = true → a'.isCurrent = true → a.storeId = a'.storeId →
    a.statementMonth = a'.statementMonth → a = a'

structure PromotionLedger (b : Billing) : Prop where
  indexed : b.Indexed
  formal : ∀ s ∈ b.statements.rows, formalSettlementStart ≤ s.statementMonth
  /-- Allocations are current as long as their invoice is. -/
  owner : ∀ a ∈ b.promotionInvoiceAllocations.rows, ∃ i ∈ b.promotionInvoices.rows,
    i.invoiceId = a.invoiceId ∧ i.isCurrent = a.isCurrent
  slot : OneCurrent b.promotionInvoiceAllocations.rows
  amount : ∀ i ∈ b.promotionInvoices.rows, i.invoiceAmountCent = b.allocatedTo i.invoiceId ∧
    0 < i.invoiceAmountCent
  /-- An allocation is for the full amount of the confirmed bill of its month. -/
  bill : ∀ a ∈ b.promotionInvoiceAllocations.rows,
    ∃ row ∈ b.confirmedBills .promotion fun _ => true, row.1.slot = (a.storeId, a.statementMonth) ∧
      row.amount = a.allocatedAmountCent

theorem sum_map_filter {α : Type*} (p : α → Bool) (f : α → Int) (l : List α) :
    ((l.filter p).map f).sum = (l.map fun a => if p a then f a else 0).sum := by
  induction l with
  | nil => rfl
  | cons a l ih =>
    rw [filter_cons, map_cons, sum_cons, ← ih]
    by_cases ha : p a = true
    · rw [if_pos ha, if_pos ha, map_cons, sum_cons]
    · rw [if_neg ha, if_neg ha, zero_add]

theorem allocatedTo_append {b b' : Billing} {added : List PromotionInvoiceAllocation}
    (h : b'.promotionInvoiceAllocations.rows = b.promotionInvoiceAllocations.rows ++ added)
    (invoiceId : String) : b'.allocatedTo invoiceId = b.allocatedTo invoiceId +
      ((added.filter fun a => a.invoiceId = invoiceId).map
        PromotionInvoiceAllocation.allocatedAmountCent).sum := by
  rw [Billing.allocatedTo, h, filter_append, map_append, sum_append]
  rfl

theorem mem_invoices_retire {b : Billing} {invoiceId : String} :
    i ∈ (b.retirePromotionInvoice invoiceId).promotionInvoices.rows ↔
      ∃ old ∈ b.promotionInvoices.rows,
        (if old.invoiceId = invoiceId then old.retired else old) = i := by
  simp [Billing.retirePromotionInvoice, Table.update]

theorem mem_allocations_retire {b : Billing} {invoiceId : String} :
    a ∈ (b.retirePromotionInvoice invoiceId).promotionInvoiceAllocations.rows ↔
      ∃ old ∈ b.promotionInvoiceAllocations.rows,
        (if old.invoiceId = invoiceId ∧ old.isCurrent = true then old.retired else old) = a := by
  simp [Billing.retirePromotionInvoice, Table.update]

/-! ### Adding an invoice -/

theorem addPromotionInvoice_ok {b b' : Billing} (h : b.addPromotionInvoice i = .ok b') :
    b'.promotionInvoices.rows = b.promotionInvoices.rows ++ [i] ∧
      b' = { b with promotionInvoices := b'.promotionInvoices } := by
  iterate 2 obtain ⟨_, -, h⟩ := of_bind h
  obtain ⟨_, hins, h⟩ := of_ofOption_bind h
  cases h
  exact ⟨Table.rows_insert? hins, rfl⟩

theorem addPromotionAllocation_ok {b b' : Billing} (h : b.addPromotionAllocation a = .ok b') :
    b'.promotionInvoiceAllocations.rows = b.promotionInvoiceAllocations.rows ++ [a] ∧
      (∀ r ∈ b.promotionInvoiceAllocations.rows, r.isCurrent = true → a.isCurrent = true →
        r.storeId = a.storeId → r.statementMonth ≠ a.statementMonth) ∧
      b' = { b with promotionInvoiceAllocations := b'.promotionInvoiceAllocations } := by
  obtain ⟨hclash, h⟩ := Except.of_ensure_bind h
  obtain ⟨_, hins, h⟩ := of_ofOption_bind h
  rw [Bool.not_eq_true', any_eq_false] at hclash
  cases h
  refine ⟨Table.rows_insert? hins, ?_, rfl⟩
  intro r hr hcur hacur hst hmo
  refine hclash r hr ?_
  simp [PromotionInvoiceAllocation.clashes, hcur, hacur, hst, hmo]

structure Issued (b : Billing) (i : PromotionInvoice)
    (allocations : List PromotionInvoiceAllocation) (b' : Billing) : Prop where
  statements : b'.statements = b.statements
  confirmations : b'.confirmations = b.confirmations
  invoices : b'.promotionInvoices.rows = b.promotionInvoices.rows ++ [i]
  allocations : b'.promotionInvoiceAllocations.rows =
    b.promotionInvoiceAllocations.rows ++ allocations
  slot : OneCurrent b.promotionInvoiceAllocations.rows →
    OneCurrent b'.promotionInvoiceAllocations.rows

theorem issuePromotionInvoice_ok {b b' : Billing} {allocations : List PromotionInvoiceAllocation}
    (hissue : b.issuePromotionInvoice i allocations = .ok b') : Issued b i allocations b' := by
  obtain ⟨b₁, hadd, h⟩ := of_bind hissue
  obtain ⟨hinv, hfrm⟩ := addPromotionInvoice_ok hadd
  have hst0 : Issued b i [] b₁ := by
    rw [hfrm]
    exact ⟨rfl, rfl, hinv, (append_nil _).symm, fun hslot => hslot⟩
  -- the allocations are added one by one behind those that stand
  refine Except.foldlM_ok_seen (I := fun done c => Issued b i done c) h hst0 ?_
  intro done a b₁ b₂ _ hdone ha
  obtain ⟨hrows, hfree, hfrm⟩ := addPromotionAllocation_ok ha
  refine ⟨?_, ?_, ?_, ?_, ?_⟩
  · rw [hfrm]
    exact hdone.statements
  · rw [hfrm]
    exact hdone.confirmations
  · rw [hfrm]
    exact hdone.invoices
  · rw [hrows, hdone.allocations, append_assoc]
  · intro hslot x hx y hy hxc hyc hst hmo
    rw [hrows] at hx hy
    rcases mem_append.mp hx with hx | hx <;> rcases mem_append.mp hy with hy | hy
    · exact hdone.slot hslot x hx y hy hxc hyc hst hmo
    · rw [mem_singleton.mp hy] at hyc hst hmo
      exact absurd hmo (hfree x hx hxc hyc hst)
    · rw [mem_singleton.mp hx] at hxc hst hmo
      exact absurd hmo.symm (hfree y hy hyc hxc hst.symm)
    · rw [mem_singleton.mp hx, mem_singleton.mp hy]

/-- A registration that returned replayed an old one, or wrote what it selected. -/
theorem registerPromotionInvoice_ok {db' : Db} {digest : List MemberIdentity → String}
    {env : InvoiceEnv} (h : db.registerPromotionInvoice digest env r = .ok db') :
    db' = db ∨ ∃ parsed selected replaced, r.parse = .ok parsed ∧
      db.billing.selectBills digest env parsed = .ok selected ∧
      db.billing.writeRegistration env r parsed selected replaced = .ok db'.billing := by
  obtain ⟨parsed, hparse, h⟩ := of_bind h
  iterate 2 obtain ⟨_, -, h⟩ := of_bind h
  split at h
  · obtain ⟨_, _, h⟩ := of_bind h
    cases h
    exact .inl rfl
  · obtain ⟨_, _, h⟩ := of_bind h
    obtain ⟨_, _, h⟩ := of_bind h
    obtain ⟨selected, hsel, h⟩ := of_bind h
    obtain ⟨replaced, _, h⟩ := of_bind h
    obtain ⟨_, hwr, h⟩ := of_bind h
    rw [Except.mapError_eq_ok_iff] at hwr
    rw [addAudit_ok h]
    exact .inr ⟨parsed, selected, replaced, hparse, hsel, hwr⟩

/-- A red flush or void that returned replayed an old one, or retired its invoice. -/
theorem createPromotionInvoiceLifecycleEvent_ok {db' : Db} {r : LifecycleRequest}
    (h : db.createPromotionInvoiceLifecycleEvent r = .ok db') :
    db' = db ∨ ∃ i ∈ db.billing.promotionInvoices.rows, i.isCurrent = true ∧
      db'.billing = { db.billing.retirePromotionInvoice i.invoiceId with
        lifecycleEvents := db'.billing.lifecycleEvents } := by
  obtain ⟨_, _, h⟩ := of_bind h
  iterate 3 obtain ⟨_, -, h⟩ := of_bind h
  split at h
  · obtain ⟨_, _, h⟩ := of_bind h
    cases h
    exact .inl rfl
  · obtain ⟨i, hi, h⟩ := of_ofOption_bind h
    obtain ⟨_, _, h⟩ := of_bind h
    obtain ⟨_, hver, h⟩ := of_bind h
    obtain ⟨_, _, h⟩ := of_bind h
    obtain ⟨_, hadd, h⟩ := of_bind h
    obtain ⟨_, _, h⟩ := of_bind h
    rw [Except.ensure_eq_ok_iff, Bool.and_eq_true] at hver
    rw [Except.mapError_eq_ok_iff] at hadd
    iterate 2 obtain ⟨_, -, hadd⟩ := of_bind hadd
    cases hadd
    cases h
    exact .inr ⟨i, Table.mem_of_get? _ hi, hver.1, rfl⟩

/-- A factory result that was committed replaced the current version of its invoice. -/
theorem commitPromotionFactoryResultRow_ok {b b' : Billing} {month : Month}
    {row : PromotionImportRow} {ids : PromotionIds}
    (h : b.commitPromotionFactoryResultRow month row ids = .ok b') :
    ∃ current ∈ b.promotionInvoices.rows, current.isCurrent = true ∧
      Issued (b.retirePromotionInvoice current.invoiceId)
        (current.reviewed ids.invoiceId row.payload.reviewResult)
        ((b.allocationsOf current.invoiceId).map fun a => a.copy ids) b' := by
  obtain ⟨current, hfind, h⟩ := of_ofOption_bind h
  iterate 3 obtain ⟨_, -, h⟩ := of_bind h
  obtain ⟨_, _, hissue⟩ := of_bind h
  have hfd := find?_some hfind
  simp only [Bool.and_eq_true] at hfd
  exact ⟨current, mem_of_find?_eq_some hfind, hfd.1.2, issuePromotionInvoice_ok hissue⟩

theorem confirmedBills_congr {b b' : Billing} (hs : b'.statements = b.statements)
    (hc : b'.confirmations = b.confirmations) (direction : Direction) (keep : Statement → Bool) :
    b'.confirmedBills direction keep = b.confirmedBills direction keep := by
  rw [Billing.confirmedBills, hs, hc]
  rfl

namespace PromotionLedger

variable {b b' : Billing}

theorem of_unregistered (h : b.Unregistered) : PromotionLedger b := by
  refine ⟨h.indexed, h.formal, ?_, ?_, ?_, ?_⟩
  · rw [h.promotionInvoiceAllocations]
    exact nofun
  · rw [h.promotionInvoiceAllocations]
    exact nofun
  · rw [h.promotionInvoices]
    exact fun i hi => absurd hi not_mem_nil
  · rw [h.promotionInvoiceAllocations]
    exact nofun

section

variable (h : PromotionLedger b)
include h

theorem of_frame (hs : b'.statements = b.statements) (hc : b'.confirmations = b.confirmations)
    (hi : b'.promotionInvoices = b.promotionInvoices)
    (ha : b'.promotionInvoiceAllocations = b.promotionInvoiceAllocations) : PromotionLedger b' := by
  have hall (invoiceId : String) : b'.allocatedTo invoiceId = b.allocatedTo invoiceId := by
    rw [Billing.allocatedTo, ha]
    rfl
  refine ⟨⟨?_, ?_⟩, ?_, ?_, ?_, ?_, ?_⟩
  · rw [hs]
    exact h.indexed.currentSlot
  · rw [hc]
    exact h.indexed.confirmationSlot
  · rw [hs]
    exact h.formal
  · rw [ha, hi]
    exact h.owner
  · rw [ha]
    exact h.slot
  · rw [hi]
    simp only [hall]
    exact h.amount
  · rw [ha, confirmedBills_congr hs hc]
    exact h.bill

theorem confirm {context : RequestContext} {r : ConfirmRequest} {s : Statement}
    (hrec : b.recordConfirmation context r s = .ok b') : PromotionLedger b' := by
  obtain ⟨_, _, hnone, hrows, hfrm⟩ := recordConfirmation_ok hrec
  have hind : b'.Indexed := h.indexed.confirm (not_confirmed_of_confirmationOf hnone) hrows
    (by rw [hfrm])
  obtain ⟨t, ht⟩ : ∃ t, b' = { b with confirmations := t } := ⟨_, hfrm⟩
  subst ht
  refine ⟨hind, h.formal, h.owner, h.slot, h.amount, ?_⟩
  intro a ha
  obtain ⟨row, hrow, hbill⟩ := h.bill a ha
  obtain ⟨hs, hc, hid⟩ := mem_confirmedBills.mp hrow
  refine ⟨row, mem_confirmedBills.mpr ⟨hs, ?_, hid⟩, hbill⟩
  rw [hrows]
  exact mem_append_left _ hc

theorem retire (invoiceId : String) : PromotionLedger (b.retirePromotionInvoice invoiceId) := by
  have hall {a : PromotionInvoiceAllocation}
      (ha : a ∈ (b.retirePromotionInvoice invoiceId).promotionInvoiceAllocations.rows) :
      ∃ old ∈ b.promotionInvoiceAllocations.rows, a.invoiceId = old.invoiceId ∧
        a.storeId = old.storeId ∧ a.statementMonth = old.statementMonth ∧
        a.allocatedAmountCent = old.allocatedAmountCent ∧
        (old.invoiceId = invoiceId → a.isCurrent = false) ∧
        (old.invoiceId ≠ invoiceId ∨ a.isCurrent = true → a = old) := by
    obtain ⟨old, hold, rfl⟩ := mem_allocations_retire.mp ha
    refine ⟨old, hold, ?_⟩
    by_cases hret : old.invoiceId = invoiceId ∧ old.isCurrent = true
    · rw [if_pos hret]
      refine ⟨rfl, rfl, rfl, rfl, fun _ => rfl, ?_⟩
      rintro (hoth | hcur)
      · exact absurd hret.1 hoth
      · cases hcur
    · rw [if_neg hret]
      refine ⟨rfl, rfl, rfl, rfl, fun hid => ?_, fun _ => rfl⟩
      exact Bool.eq_false_iff.mpr fun hcur => hret ⟨hid, hcur⟩
  have hallo (id : String) :
      (b.retirePromotionInvoice invoiceId).allocatedTo id = b.allocatedTo id := by
    rw [Billing.allocatedTo, Billing.allocatedTo, sum_map_filter, sum_map_filter]
    exact congrArg sum (b.promotionInvoiceAllocations.map_update _
      PromotionInvoiceAllocation.retired (fun _ => rfl) fun _ => rfl)
  refine ⟨⟨h.indexed.currentSlot, h.indexed.confirmationSlot⟩, h.formal, ?_, ?_, ?_, ?_⟩
  · intro a ha
    obtain ⟨old, hold, hid, _, _, _, hret, hkept⟩ := hall ha
    obtain ⟨i, hi, hiid, hcur⟩ := h.owner old hold
    refine ⟨_, mem_invoices_retire.mpr ⟨i, hi, rfl⟩, ?_⟩
    by_cases hown : i.invoiceId = invoiceId
    · rw [if_pos hown]
      exact ⟨hiid.trans hid.symm, (hret (hiid ▸ hown)).symm⟩
    · rw [if_neg hown, hkept (.inl (hiid ▸ hown))]
      exact ⟨hiid, hcur⟩
  · intro a ha a' ha' hcur hcur' hst hmo
    obtain ⟨old, hold, _, _, _, _, _, hkept⟩ := hall ha
    obtain ⟨_, hold', _, _, _, _, _, hkept'⟩ := hall ha'
    have hsame := hkept (.inr hcur)
    have hsame' := hkept' (.inr hcur')
    subst hsame hsame'
    exact h.slot _ hold _ hold' hcur hcur' hst hmo
  · intro i hi
    obtain ⟨old, hold, rfl⟩ := mem_invoices_retire.mp hi
    rw [hallo]
    split
    · exact h.amount old hold
    · exact h.amount old hold
  · intro a ha
    obtain ⟨old, hold, _, hst, hmo, hamt, _, _⟩ := hall ha
    rw [hst, hmo, hamt]
    exact h.bill old hold

theorem issue {allocations : List PromotionInvoiceAllocation} (hiss : Issued b i allocations b')
    (hcur : i.isCurrent = true)
    (hamt : i.invoiceAmountCent =
      (allocations.map PromotionInvoiceAllocation.allocatedAmountCent).sum)
    (hpos : 0 < i.invoiceAmountCent)
    (hown : ∀ a ∈ allocations, a.invoiceId = i.invoiceId ∧ a.isCurrent = true ∧
      ∃ row ∈ b.confirmedBills .promotion fun _ => true,
        row.1.slot = (a.storeId, a.statementMonth) ∧ row.amount = a.allocatedAmountCent) :
    PromotionLedger b' := by
  have hfr : ∀ old ∈ b.promotionInvoices.rows, old.invoiceId ≠ i.invoiceId := by
    intro old hold hid
    have hnd := b'.promotionInvoices.nodup
    rw [hiss.invoices, map_append, nodup_append] at hnd
    exact hnd.2.2 _ (mem_map_of_mem hold) _ mem_cons_self hid
  -- the new allocations are those of the new invoice
  have hnew {id : String} (hid : id ≠ i.invoiceId) :
      allocations.filter (fun a => a.invoiceId = id) = [] :=
    filter_eq_nil_iff.mpr fun a ha heq =>
      hid ((of_decide_eq_true heq).symm.trans (hown a ha).1)
  have hall : allocations.filter (fun a => a.invoiceId = i.invoiceId) = allocations :=
    filter_eq_self.mpr fun a ha => decide_eq_true (hown a ha).1
  have hold : b.allocatedTo i.invoiceId = 0 := by
    have hnone : b.promotionInvoiceAllocations.rows.filter
        (fun a => a.invoiceId = i.invoiceId) = [] := by
      refine filter_eq_nil_iff.mpr fun a ha heq => ?_
      obtain ⟨old, hold, hid, _⟩ := h.owner a ha
      exact hfr old hold (hid.trans (of_decide_eq_true heq))
    rw [Billing.allocatedTo, hnone]
    rfl
  refine ⟨⟨?_, ?_⟩, ?_, ?_, hiss.slot h.slot, ?_, ?_⟩
  · rw [hiss.statements]
    exact h.indexed.currentSlot
  · rw [hiss.confirmations]
    exact h.indexed.confirmationSlot
  · rw [hiss.statements]
    exact h.formal
  · intro a ha
    rw [hiss.allocations] at ha
    rw [hiss.invoices]
    rcases mem_append.mp ha with ha | ha
    · obtain ⟨old, hold, howner⟩ := h.owner a ha
      exact ⟨old, mem_append_left _ hold, howner⟩
    · obtain ⟨hid, hacur, _⟩ := hown a ha
      exact ⟨i, mem_append_right _ mem_cons_self, hid.symm, hcur.trans hacur.symm⟩
  · intro j hj
    rw [allocatedTo_append hiss.allocations]
    rw [hiss.invoices] at hj
    rcases mem_append.mp hj with hj | hj
    · rw [hnew (hfr j hj), map_nil, sum_nil, add_zero]
      exact h.amount j hj
    · rw [mem_singleton.mp hj, hold, hall, zero_add]
      exact ⟨hamt, hpos⟩
  · intro a ha
    rw [confirmedBills_congr hiss.statements hiss.confirmations]
    rw [hiss.allocations] at ha
    rcases mem_append.mp ha with ha | ha
    · exact h.bill a ha
    · exact (hown a ha).2.2

end

/-! ### The actions -/

theorem registerNumber_frame {r : InvoiceNumberRegistration} (h : b.registerNumber r = .ok b') :
    b' = { b with invoiceNumberRegistry := b'.invoiceNumberRegistry } := by
  iterate 2 obtain ⟨_, -, h⟩ := of_bind h
  cases h
  rfl

theorem linkReplacement_frame {replacementInvoiceId : String}
    {source : PromotionInvoice × LifecycleEvent}
    (h : b.linkReplacement replacementInvoiceId source = .ok b') : b' = { b with
      replacementSources := b'.replacementSources
      lifecycleEvents := b'.lifecycleEvents } := by
  obtain ⟨_, _, h⟩ := of_bind h
  cases h
  rfl

/-- A registration that was written issued its invoice over the same bills and invoices. -/
theorem writeRegistration_issued {env : InvoiceEnv} {parsed : ParsedRegistration}
    {selected : List SelectedBill} {replaced : List (PromotionInvoice × LifecycleEvent)}
    (hwr : b.writeRegistration env r parsed selected replaced = .ok b') :
    ∃ b₁, b₁.statements = b.statements ∧ b₁.confirmations = b.confirmations ∧
      b₁.promotionInvoices = b.promotionInvoices ∧
      b₁.promotionInvoiceAllocations = b.promotionInvoiceAllocations ∧
      Issued b₁ (r.invoice parsed selected (replaced.map Prod.fst))
        (selected.map fun x => x.allocation r.ids env.settlementBatchMonth) b' := by
  obtain ⟨_, hnumb, hwr⟩ := of_bind hwr
  obtain ⟨b₂, hlinks, hissue⟩ := of_bind hwr
  have hfrm₁ := registerNumber_frame hnumb
  have hsame : b₂.statements = b.statements ∧ b₂.confirmations = b.confirmations ∧
      b₂.promotionInvoices = b.promotionInvoices ∧
      b₂.promotionInvoiceAllocations = b.promotionInvoiceAllocations := by
    refine Except.foldlM_ok (P := fun c : Billing => c.statements = b.statements ∧
      c.confirmations = b.confirmations ∧ c.promotionInvoices = b.promotionInvoices ∧
      c.promotionInvoiceAllocations = b.promotionInvoiceAllocations) hlinks ?_ ?_
    · rw [hfrm₁]
      exact ⟨rfl, rfl, rfl, rfl⟩
    · intro source _ c c' hc hlink
      rw [linkReplacement_frame hlink]
      exact hc
  obtain ⟨hs, hc, hi, ha⟩ := hsame
  exact ⟨b₂, hs, hc, hi, ha, issuePromotionInvoice_ok hissue⟩

theorem writeRegistration (h : PromotionLedger b) {digest : List MemberIdentity → String}
    {env : InvoiceEnv} {parsed : ParsedRegistration} {selected : List SelectedBill}
    {replaced : List (PromotionInvoice × LifecycleEvent)} (hparse : r.parse = .ok parsed)
    (hsele : b.selectBills digest env parsed = .ok selected)
    (hwr : b.writeRegistration env r parsed selected replaced = .ok b') : PromotionLedger b' := by
  obtain ⟨hne, hmos⟩ := parse_ok hparse
  obtain ⟨hpos, hsel⟩ := selectBills_ok h.indexed hsele hmos hne
  obtain ⟨_, hs, hc, hi, ha, hiss⟩ := writeRegistration_issued hwr
  refine (h.of_frame hs hc hi ha).issue hiss rfl ?_ hpos ?_
  · rw [map_map]
    rfl
  · intro a ha
    obtain ⟨x, hx, rfl⟩ := mem_map.mp ha
    obtain ⟨_, ⟨row, _, hstm, hamt⟩, _⟩ := hsel x hx
    refine ⟨rfl, rfl, row, ?_, ?_, hamt⟩
    · rwa [confirmedBills_congr hs hc]
    · rw [hstm]
      rfl

theorem commitRow (h : PromotionLedger b) {month : Month} {row : PromotionImportRow}
    {ids : PromotionIds} (hcomm : b.commitPromotionFactoryResultRow month row ids = .ok b') :
    PromotionLedger b' := by
  obtain ⟨current, hmem, hcur, hiss⟩ := commitPromotionFactoryResultRow_ok hcomm
  -- a current invoice has no other allocations than current ones
  have hall : b.allocationsOf current.invoiceId =
      b.promotionInvoiceAllocations.rows.filter fun a => a.invoiceId = current.invoiceId := by
    refine filter_congr fun a ha => ?_
    by_cases hid : a.invoiceId = current.invoiceId
    · obtain ⟨i, hi, hiid, hicur⟩ := h.owner a ha
      have hsame : i = current := b.promotionInvoices.eq_of_key_eq hi hmem (hiid.trans hid)
      rw [← hicur, hsame, hcur, Bool.and_true]
    · rw [decide_eq_false hid, Bool.false_and]
  obtain ⟨hamt, hpos⟩ := h.amount current hmem
  refine (h.retire current.invoiceId).issue hiss rfl ?_ hpos ?_
  · change current.invoiceAmountCent = _
    rw [hamt, hall, map_map]
    rfl
  · intro a ha
    obtain ⟨old, hold, rfl⟩ := mem_map.mp ha
    exact ⟨rfl, rfl, h.bill old (mem_filter.mp hold).1⟩

theorem act (h : PromotionLedger db.billing) (digest : List MemberIdentity → String)
    (action : PromotionAction) : PromotionLedger (db.promotionAct digest action).billing := by
  unfold Db.promotionAct
  split
  · rename_i hact
    cases action with
    | confirm context request =>
      obtain ⟨billing, hconf, hact⟩ := of_bind hact
      cases hact
      rcases confirmStoreSettlement_ok hconf with rfl | ⟨s, _, hrec⟩
      · exact h
      · exact h.confirm hrec
    | register env request =>
      rcases registerPromotionInvoice_ok hact with rfl | ⟨_, _, _, hparse, hsel, hwr⟩
      · exact h
      · exact h.writeRegistration hparse hsel hwr
    | lifecycle request =>
      rcases createPromotionInvoiceLifecycleEvent_ok hact with rfl | ⟨i, _, _, hret⟩
      · exact h
      · rw [hret]
        exact (h.retire i.invoiceId).of_frame rfl rfl rfl rfl
    | commitRow month row ids =>
      obtain ⟨_, hcomm, hact⟩ := of_bind hact
      cases hact
      exact h.commitRow hcomm
  · exact h

theorem run (h : PromotionLedger db.billing) (digest : List MemberIdentity → String)
    (actions : List PromotionAction) :
    PromotionLedger (db.promotionRun digest actions).billing := by
  induction actions generalizing db with
  | nil => exact h
  | cons action actions ih => exact ih (h.act digest action)

/-! ### The totals -/

section

variable (h : PromotionLedger b)
include h

theorem mem_confirmedPromotions {storeId : String} {c : StatementConfirmation} :
    c ∈ b.confirmedPromotions storeId ↔
      ∃ row ∈ b.confirmedBills .promotion fun s => s.storeId = storeId, row.2 = c := by
  constructor
  · intro hc
    obtain ⟨hc, hkeep⟩ := mem_filter.mp hc
    simp only [bool_to_prop, any_eq_true] at hkeep
    obtain ⟨hdir, s, hs, ⟨hid, hst⟩, hcur⟩ := hkeep
    exact ⟨(s, c), mem_confirmedBills.mpr ⟨⟨hs, hcur, h.formal s hs, decide_eq_true hst⟩,
      hc, hid.symm, hdir⟩, rfl⟩
  · rintro ⟨row, hrow, rfl⟩
    obtain ⟨⟨hs, hcur, _, hst⟩, hc, hid, hdir⟩ := mem_confirmedBills.mp hrow
    refine mem_filter.mpr ⟨hc, ?_⟩
    rw [decide_eq_true hdir, Bool.true_and, any_eq_true]
    exact ⟨row.1, hs, by rw [decide_eq_true hid.symm, hst, hcur]; rfl⟩

theorem sum_confirmedPromotions (storeId : String) :
    ((b.confirmedPromotions storeId).map StatementConfirmation.confirmedAmountCent).sum =
      ((b.confirmedBills .promotion fun s => s.storeId = storeId).map
        ConfirmedBill.amount).sum := by
  refine sum_eq_of_keys (k := StatementConfirmation.confirmationId)
    (j := fun row => row.2.confirmationId)
    (b.confirmations.nodup.sublist (filter_sublist.map _)) ?_ ?_ ?_
  · refine Nodup.map_on (fun x hx y hy hid => ?_) nodup_confirmedBills
    obtain ⟨⟨hxs, _⟩, hxc, hxid, _⟩ := mem_confirmedBills.mp hx
    obtain ⟨⟨hys, _⟩, hyc, hyid, _⟩ := mem_confirmedBills.mp hy
    have hconf : x.2 = y.2 := b.confirmations.eq_of_key_eq hxc hyc hid
    exact Prod.ext (b.statements.eq_of_key_eq hxs hys (by rw [← hxid, ← hyid, hconf]))
      hconf
  · intro c hc
    obtain ⟨row, hrow, rfl⟩ := h.mem_confirmedPromotions.mp hc
    exact ⟨row, hrow, rfl, rfl⟩
  · intro row hrow
    exact ⟨row.2, h.mem_confirmedPromotions.mpr ⟨row, hrow, rfl⟩, rfl, rfl⟩

/-- An effective allocation is current, as its invoice is. -/
theorem mem_effectiveAllocations {storeId : String} :
    a ∈ b.effectiveAllocations storeId ↔
      a ∈ b.promotionInvoiceAllocations.rows ∧ a.storeId = storeId ∧ a.isCurrent = true ∧
        ∃ i ∈ b.promotionInvoices.rows, i.invoiceId = a.invoiceId ∧ i.isEffective = true := by
  simp only [Billing.effectiveAllocations, mem_filter, bool_to_prop, any_eq_true]
  refine and_congr_right fun ha => and_congr_right fun _ => ⟨?_, And.right⟩
  rintro ⟨i, hi, hid, heff⟩
  refine ⟨?_, i, hi, hid, heff⟩
  obtain ⟨j, hj, hjid, hcur⟩ := h.owner a ha
  have hsame : j = i := b.promotionInvoices.eq_of_key_eq hj hi (hjid.trans hid.symm)
  rw [← hcur, hsame]
  simp only [PromotionInvoice.isEffective, Bool.and_eq_true] at heff
  exact heff.1.1

theorem isInvoiced_iff {s : Statement} : b.isInvoiced s = true ↔
      ∃ a ∈ b.effectiveAllocations s.storeId, a.statementMonth = s.statementMonth := by
  simp only [Billing.isInvoiced, Billing.isEffectiveAllocation, h.mem_effectiveAllocations,
    any_eq_true, bool_to_prop]
  constructor
  · rintro ⟨a, ha, ⟨hst, hmo⟩, heff⟩
    exact ⟨a, ⟨ha, hst, heff⟩, hmo⟩
  · rintro ⟨a, ⟨ha, hst, heff⟩, hmo⟩
    exact ⟨a, ha, ⟨hst, hmo⟩, heff⟩

/-- The effective allocations of a store are for its invoiced bills. -/
theorem sum_effectiveAllocations (storeId : String) :
    ((b.effectiveAllocations storeId).map PromotionInvoiceAllocation.allocatedAmountCent).sum =
      (((b.confirmedBills .promotion fun s => s.storeId = storeId).filter fun row =>
        b.isInvoiced row.1).map ConfirmedBill.amount).sum := by
  have hbill {a : PromotionInvoiceAllocation} (ha : a ∈ b.effectiveAllocations storeId) :
      ∃ row ∈ b.confirmedBills .promotion fun s => s.storeId = storeId,
        row.1.statementMonth = a.statementMonth ∧ row.amount = a.allocatedAmountCent := by
    obtain ⟨ha, hst, _⟩ := h.mem_effectiveAllocations.mp ha
    obtain ⟨row, hrow, hslot, hamt⟩ := h.bill a ha
    obtain ⟨⟨hs, hscur, hform, _⟩, hc⟩ := mem_confirmedBills.mp hrow
    obtain ⟨hrows, hmo⟩ := Prod.mk.inj hslot
    exact ⟨row, mem_confirmedBills.mpr
      ⟨⟨hs, hscur, hform, decide_eq_true (hrows.trans hst)⟩, hc⟩, hmo, hamt⟩
  have hslot {x y : ConfirmedBill}
      (hx : x ∈ b.confirmedBills .promotion fun s => s.storeId = storeId)
      (hy : y ∈ b.confirmedBills .promotion fun s => s.storeId = storeId)
      (hmo : x.1.statementMonth = y.1.statementMonth) : x = y := by
    have hxst := of_decide_eq_true (mem_confirmedBills.mp hx).1.2.2.2
    have hyst := of_decide_eq_true (mem_confirmedBills.mp hy).1.2.2.2
    exact confirmedBill_eq h.indexed hx hy
      (by rw [Statement.slot, Statement.slot, hxst, hyst, hmo])
  refine sum_eq_of_keys (k := PromotionInvoiceAllocation.statementMonth)
    (j := fun row => row.1.statementMonth) ?_ ?_ ?_ ?_
  · refine Nodup.map_on (fun a ha a' ha' hmo => ?_)
      ((Nodup.of_map _ b.promotionInvoiceAllocations.nodup).filter _)
    obtain ⟨ha, hst, hac, _⟩ := h.mem_effectiveAllocations.mp ha
    obtain ⟨ha', hst', hac', _⟩ := h.mem_effectiveAllocations.mp ha'
    exact h.slot a ha a' ha' hac hac' (hst.trans hst'.symm) hmo
  · refine Nodup.map_on (fun x hx y hy => hslot (mem_filter.mp hx).1
      (mem_filter.mp hy).1) (nodup_confirmedBills.filter _)
  · intro a ha
    obtain ⟨row, hrow, hmo, hamt⟩ := hbill ha
    have hst := of_decide_eq_true (mem_confirmedBills.mp hrow).1.2.2.2
    refine ⟨row, mem_filter.mpr ⟨hrow, h.isInvoiced_iff.mpr ⟨a, ?_, hmo.symm⟩⟩, hmo.symm, hamt.symm⟩
    rwa [hst]
  · intro row hrow
    obtain ⟨hrow, hinv⟩ := mem_filter.mp hrow
    obtain ⟨a, ha, hmo⟩ := h.isInvoiced_iff.mp hinv
    rw [of_decide_eq_true (mem_confirmedBills.mp hrow).1.2.2.2] at ha
    obtain ⟨other, hother, hoth, hamt⟩ := hbill ha
    have hsame : other = row := hslot hother hrow (hoth.trans hmo)
    exact ⟨a, ha, hmo, by rw [← hamt, hsame]⟩

end

/-- The projection offers the bills that are not invoiced, zero months apart. -/
theorem sum_offeredPeriods (b : Billing) (digest : List MemberIdentity → String)
    (storeId : String) :
    ((b.offeredPeriods digest storeId).map PromotionPeriod.confirmedAmountCent).sum =
      (((b.confirmedBills .promotion fun s => s.storeId = storeId).filter fun row =>
        !b.isInvoiced row.1).map ConfirmedBill.amount).sum := by
  have hmemb : ((b.draftGroups { storeId := some storeId }).flatMap DraftGroup.members).Perm
      (((b.confirmedBills .promotion fun s => s.storeId = storeId).filter fun row =>
        !b.isInvoiced row.1).filter fun row => row.amount ≠ 0) := by
    rw [perm_ext_iff_of_nodup (nodup_members_draftGroups b _)
      ((nodup_confirmedBills.filter _).filter _)]
    intro row
    rw [mem_flatMap, mem_members_draftGroups, mem_filter, mem_filter,
      decide_eq_true_eq]
    rw [Billing.promotionBills, mem_confirmedBills, mem_confirmedBills]
    simp only [PromotionScope.covers, Option.all_some, Option.all_none, Bool.and_true,
      Bool.and_eq_true]
    tauto
  rw [Billing.offeredPeriods, sum_periods, (hmemb.map _).sum_eq, sum_map_filter]
  refine congrArg sum (map_congr_left fun row _ => ?_)
  by_cases hzero : row.amount = 0
  · simp [hzero]
  · simp [hzero]

theorem conservesPromotion (h : PromotionLedger b) (digest : List MemberIdentity → String) :
    b.ConservesPromotion digest := by
  refine ⟨h.slot, h.amount, fun storeId => ?_⟩
  have hzero : (((b.confirmedPromotions storeId).filter fun c => c.confirmedAmountCent = 0).map
      StatementConfirmation.confirmedAmountCent).sum = 0 := by
    refine sum_eq_zero fun x hx => ?_
    obtain ⟨_, hc, rfl⟩ := mem_map.mp hx
    exact of_decide_eq_true (mem_filter.mp hc).2
  rw [hzero, add_zero, h.sum_confirmedPromotions, h.sum_effectiveAllocations, sum_offeredPeriods,
    sum_map_filter, sum_map_filter, ← sum_map_add]
  refine congrArg sum (map_congr_left fun row _ => ?_)
  by_cases hinv : b.isInvoiced row.1 = true
  · simp [hinv]
  · simp [hinv]

end PromotionLedger

/-- Whatever is registered, reviewed, flushed and voided, promotion invoices conserve the
confirmed amounts. -/
theorem promotion_invoices_conserve_confirmed {db : Db} (hstart : db.billing.Unregistered)
    (digest : List MemberIdentity → String) (actions : List PromotionAction) :
    (db.promotionRun digest actions).billing.ConservesPromotion digest :=
  ((PromotionLedger.of_unregistered hstart).run digest actions).conservesPromotion digest

namespace RejectedInvoice

def august : Month := formalSettlementStart

def bill (id : String) (month : Month) (net : Int) : Statement where
  statementId := id
  storeId := "store-1"
  statementMonth := month
  promotionOriginalFeeCent := net
  promotionNetFeeCent := net

def start : Db where
  billing := {
    statements := ⟨[bill "a" august 100, bill "s" (august + 1) (-30)], by
      change ["a", "s"].Nodup
      decide⟩ }

theorem start_unregistered : start.billing.Unregistered where
  indexed := by
    refine ⟨?_, nofun⟩
    intro s hs t ht _ _ hslot
    simp only [start, mem_cons, not_mem_nil, or_false] at hs ht
    rcases hs with rfl | rfl <;> rcases ht with rfl | rfl <;>
      first | rfl | simp [Statement.slot, bill] at hslot
  formal := by
    intro s hs
    simp only [start, mem_cons, not_mem_nil, or_false] at hs
    rcases hs with rfl | rfl <;> simp [bill, august]
  promotionInvoices := rfl
  promotionInvoiceAllocations := rfl

def digest (members : List MemberIdentity) : String :=
  members.foldl (fun text member => text ++ member.statementId) ""

def confirm (id : String) (net : Int) : PromotionAction :=
  .confirm ⟨"admin", 0, 3, fun text => text⟩ {
    key := ⟨id, id⟩
    confirmationId := id
    statementId := id
    feeDirection := .promotion
    confirmedAmountCent := net
    readVersion := 1 }

def allocation (id : String) (month : Month) : AllocationRequest where
  statementId := id
  statementMonth := month
  readVersion := 1
  promotionInvoiceGroupId := some "promotion-invoice-group-as"

def ids (n : String) : PromotionIds where
  invoiceId := n
  physicalInvoiceId := "physical-" ++ n
  allocation := fun statementId => n ++ statementId

def env : InvoiceEnv := ⟨0, fun _ => 0, fun _ => august, fun _ => 1, fun _ => true⟩

def registration (n number : String) (replaces : Option String) : RegisterRequest where
  key := ⟨n, n⟩
  auditId := n
  ids := ids n
  legacySha256 := fun _ _ => ""
  storeId := "store-1"
  fillerPhone := "10000"
  invoiceNumber := number
  invoiceDate := some 0
  allocations := [allocation "a" august, allocation "s" (august + 1)]
  replacesInvoiceId := replaces

def register (n number : String) (replaces : Option String) : PromotionAction :=
  .register env (registration n number replaces)

def review (n number : String) (result : ReviewResult) : PromotionAction :=
  .commitRow august {
    rowNumber := 1
    payload := {
      storeId := "store-1"
      invoiceNumber := number
      reviewResult := result
      rejectionReason := "stamp missing"
      settlementDate := some 0
      settlementAmountCent := some 70 } } (ids n)

def actions : List PromotionAction :=
  [confirm "a" 100, confirm "s" (-30), register "1" "00000000000000000001" none,
    review "2" "00000000000000000001" .rejectedReupload,
    .lifecycle ⟨⟨"3", "3"⟩, "3", "3", "2", some .voided, "rejected", 2⟩,
    register "4" "00000000000000000002" (some "2"),
    review "5" "00000000000000000002" .approvedSettled]

end RejectedInvoice

theorem rejected_invoice_replaced_and_conserved :
    (RejectedInvoice.start.promotionRun RejectedInvoice.digest
      RejectedInvoice.actions).billing.ConservesPromotion RejectedInvoice.digest ∧
    ((RejectedInvoice.start.promotionRun RejectedInvoice.digest
      RejectedInvoice.actions).billing.promotionInvoices.rows.map fun i =>
        (i.invoiceId, i.invoiceAmountCent, i.isCurrent)) =
      [("1", 70, false), ("2", 70, false), ("4", 70, false), ("5", 70, true)] :=
  ⟨promotion_invoices_conserve_confirmed RejectedInvoice.start_unregistered
    RejectedInvoice.digest RejectedInvoice.actions, by decide +kernel⟩

end DyData.Settlement
