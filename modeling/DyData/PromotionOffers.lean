import DyData.PromotionConservation

/-!
Whether the groups that the promotion projection offers can be registered.  The projection passes
over an invoice that the factory has rejected, while the registration refuses every month with a
current allocation, and a rejected invoice keeps its allocations current until it is voided.
-/

namespace DyData.Settlement

open Relational List
open Except (of_bind ofOption bind_eq_error_iff ensure of_ensure_bind_error)

/-! ### Offers and complete requests -/

def Billing.invoiceablePeriods (b : Billing) (digest : List MemberIdentity → String)
    (storeId : String) : List PromotionPeriod :=
  (b.offeredPeriods digest storeId).filter fun p => 0 < p.group.invoiceableAmountCent

def PromotionPeriod.request (p : PromotionPeriod) : AllocationRequest where
  statementId := p.statementId
  statementMonth := p.statementMonth
  readVersion := p.statementVersion
  promotionInvoiceGroupId := some p.group.groupId

/-- A new registration of everything that is offered: it names exactly the members of the groups
with a positive amount, its invoice number is unused, and its date is neither in the future nor
before the bills it covers. -/
structure CompleteRegistration (digest : List MemberIdentity → String) (b : Billing)
    (env : InvoiceEnv) (r : RegisterRequest) (parsed : ParsedRegistration) : Prop where
  parses : r.parse = .ok parsed
  store : env.storeExists parsed.storeId = true
  newKey : ∀ i ∈ b.promotionInvoices.rows, i.idempotencyKeyHash ≠ some r.key.keyHash
  unusedRecord : ∀ x ∈ b.invoiceRecords.rows, x.invoiceNumber ≠ parsed.invoiceNumber
  unusedNumber : b.invoiceNumberRegistry.get? parsed.invoiceNumber = none
  unusedInvoice : ∀ i ∈ b.promotionInvoices.rows, i.invoiceNumber ≠ parsed.invoiceNumber
  names : ∀ item, item ∈ parsed.allocations ↔
    ∃ p ∈ b.invoiceablePeriods digest parsed.storeId, p.request = item
  past : parsed.invoiceDate ≤ env.beijingDay env.now
  dated : ∀ row ∈ b.promotionBills { storeId := some parsed.storeId }, ∀ item ∈ parsed.allocations,
    item.statementId = row.1.statementId →
      env.isDatedAfter parsed.invoiceDate row.1 row.2 = true

def Billing.rejectedOver (b : Billing) (storeId : String) (month : Month) : Bool :=
  b.promotionInvoices.rows.any fun i => i.isCurrent && i.invoiceStatus = .rejectedReupload &&
    b.promotionInvoiceAllocations.rows.any fun a => a.invoiceId = i.invoiceId &&
      a.storeId = storeId && a.statementMonth = month

def periodOccupied : SettlementError :=
  conflict "PROMOTION_INVOICE_PERIOD_OCCUPIED" "账期已存在当前有效推广费发票分配"
    (some "allocations")

def Billing.isOccupied (b : Billing) (storeId : String) (month : Month) : Bool :=
  b.promotionInvoiceAllocations.rows.any fun a => a.storeId = storeId &&
    a.statementMonth = month && a.isCurrent

/-! ### The states of an invoice -/

def Billing.InvoicesInReview (b : Billing) : Prop :=
  ∀ i ∈ b.promotionInvoices.rows, i.isTombstone = false ∧ i.invoiceStatus ≠ .pendingInvoice

namespace Billing.InvoicesInReview

variable {b b' : Billing}

theorem retire (h : b.InvoicesInReview) (invoiceId : String) :
    (b.retirePromotionInvoice invoiceId).InvoicesInReview := by
  intro i hi
  obtain ⟨old, hold, rfl⟩ := mem_invoices_retire.mp hi
  split
  · exact h old hold
  · exact h old hold

theorem issue (h : b.InvoicesInReview) {i : PromotionInvoice}
    {allocations : List PromotionInvoiceAllocation} (hiss : Issued b i allocations b')
    (hi : i.isTombstone = false ∧ i.invoiceStatus ≠ .pendingInvoice) : b'.InvoicesInReview := by
  intro x hx
  rw [hiss.invoices] at hx
  rcases mem_append.mp hx with hx | hx
  · exact h x hx
  · rw [mem_singleton.mp hx]
    exact hi

theorem act {db : Db} (h : db.billing.InvoicesInReview) (digest : List MemberIdentity → String)
    (action : PromotionAction) : (db.promotionAct digest action).billing.InvoicesInReview := by
  unfold Db.promotionAct
  split
  · rename_i hact
    cases action with
    | confirm context request =>
      obtain ⟨billing, hconf, hact⟩ := of_bind hact
      cases hact
      rcases confirmStoreSettlement_ok hconf with rfl | ⟨s, _, hrec⟩
      · exact h
      · obtain ⟨_, _, _, _, hfrm⟩ := recordConfirmation_ok hrec
        rw [hfrm]
        exact h
    | register env request =>
      rcases registerPromotionInvoice_ok hact with rfl | ⟨_, _, _, _, _, hwr⟩
      · exact h
      · obtain ⟨b₁, _, _, hinv, _, hiss⟩ :=
          PromotionLedger.writeRegistration_issued hwr
        have hst0 : b₁.InvoicesInReview := by
          unfold Billing.InvoicesInReview
          rw [hinv]
          exact h
        exact hst0.issue hiss ⟨rfl, nofun⟩
    | lifecycle request =>
      rcases createPromotionInvoiceLifecycleEvent_ok hact with rfl | ⟨i, _, _, hret⟩
      · exact h
      · rw [hret]
        exact h.retire i.invoiceId
    | commitRow month row ids =>
      obtain ⟨_, hcomm, hact⟩ := of_bind hact
      cases hact
      obtain ⟨current, _, _, hiss⟩ := commitPromotionFactoryResultRow_ok hcomm
      refine (h.retire current.invoiceId).issue hiss ⟨rfl, ?_⟩
      unfold PromotionInvoice.reviewed
      dsimp only
      split
      · decide
      · decide
  · exact h

theorem run {db : Db} (h : db.billing.InvoicesInReview) (digest : List MemberIdentity → String)
    (actions : List PromotionAction) :
    (db.promotionRun digest actions).billing.InvoicesInReview := by
  induction actions generalizing db with
  | nil => exact h
  | cons action actions ih => exact ih (h.act digest action)

end Billing.InvoicesInReview

/-- The month of a bill that no effective invoice covers is occupied by a rejected invoice, if it
is occupied at all. -/
theorem isOccupied_iff {b : Billing} (h : PromotionLedger b) (hrev : b.InvoicesInReview)
    {s : Statement} (hfree : b.isInvoiced s = false) :
    b.isOccupied s.storeId s.statementMonth = true ↔
      b.rejectedOver s.storeId s.statementMonth = true := by
  unfold Billing.isOccupied Billing.rejectedOver
  simp only [any_eq_true, bool_to_prop]
  constructor
  · rintro ⟨a, ha, ⟨hst, hmo⟩, hcur⟩
    obtain ⟨i, hi, hid, hown⟩ := h.owner a ha
    have hicur : i.isCurrent = true := hown.trans hcur
    obtain ⟨htomb, hpend⟩ := hrev i hi
    have heff : i.isEffective = false := by
      -- an effective invoice would make the bill an invoiced one
      by_contra hoth
      rw [Bool.not_eq_false] at hoth
      have hinv : b.isInvoiced s = true := by
        refine any_eq_true.mpr ⟨a, ha, ?_⟩
        unfold Billing.isEffectiveAllocation
        rw [decide_eq_true hst, decide_eq_true hmo, hcur, Bool.true_and, Bool.true_and,
          Bool.true_and]
        exact any_eq_true.mpr ⟨i, hi, by rw [decide_eq_true hid, hoth]; rfl⟩
      rw [hfree] at hinv
      cases hinv
    have hstat : i.invoiceStatus = .rejectedReupload := by
      unfold PromotionInvoice.isEffective at heff
      rw [hicur, htomb] at heff
      cases hs : i.invoiceStatus with
      | pendingInvoice => exact absurd hs hpend
      | submittedPendingFactoryReview =>
        rw [hs] at heff
        cases heff
      | approvedSettled =>
        rw [hs] at heff
        cases heff
      | rejectedReupload => rfl
    exact ⟨i, hi, ⟨hicur, hstat⟩, a, ha, ⟨hid.symm, hst⟩, hmo⟩
  · rintro ⟨i, hi, ⟨hcur, _⟩, a, ha, ⟨hid, hst⟩, hmo⟩
    obtain ⟨j, hj, hjid, hown⟩ := h.owner a ha
    have hsame : j = i := b.promotionInvoices.eq_of_key_eq hj hi (hjid.trans hid)
    rw [hsame, hcur] at hown
    exact ⟨a, ha, ⟨hst, hmo⟩, hown.symm⟩

/-! ### Selecting what is offered -/

section Select

variable {digest : List MemberIdentity → String} {b : Billing} {scope : PromotionScope}

/-- No two periods of the projection are for the same bill. -/
theorem nodup_periods (hb : b.Indexed) :
    ((b.promotionInvoiceCarryforwardProjection digest scope).periods.map
      PromotionPeriod.statementId).Nodup := by
  have hids : (b.promotionInvoiceCarryforwardProjection digest scope).periods.map
      PromotionPeriod.statementId =
      ((b.draftGroups scope).flatMap DraftGroup.ordered).map fun row => row.1.statementId := by
    change ((b.draftGroups scope).flatMap (DraftGroup.periods digest)).map _ = _
    rw [map_flatMap, map_flatMap]
    congr 1
    funext d
    exact periodsFrom_map _ _ _ fun _ _ => rfl
  have hperm : ((b.draftGroups scope).flatMap DraftGroup.ordered).Perm
      ((b.draftGroups scope).flatMap DraftGroup.members) :=
    Perm.flatMap_left _ fun d _ => perm_insertionSort _ _
  rw [hids]
  refine Nodup.map_on (fun x hx y hy hid => ?_)
    (hperm.nodup_iff.mpr (nodup_members_draftGroups b scope))
  have hbill {row : ConfirmedBill}
      (h : row ∈ (b.draftGroups scope).flatMap DraftGroup.ordered) :
      row ∈ b.promotionBills scope := by
    obtain ⟨_, hd, hrow⟩ := mem_flatMap.mp (hperm.mem_iff.mp h)
    exact mem_promotionBills_of_draft hd hrow
  exact promotionBill_eq hb (hbill hx) (hbill hy) hid

theorem period?_of_mem (hb : b.Indexed) {p : PromotionPeriod}
    (hp : p ∈ (b.promotionInvoiceCarryforwardProjection digest scope).periods) :
    (b.promotionInvoiceCarryforwardProjection digest scope).period? p.statementId = some p := by
  cases hfind : (b.promotionInvoiceCarryforwardProjection digest scope).period? p.statementId with
  | none =>
    have hnone := find?_eq_none.mp hfind p (mem_reverse.mpr hp)
    simp at hnone
  | some q =>
    have hq := mem_reverse.mp (mem_of_find?_eq_some hfind)
    have hid : q.statementId = p.statementId := by simpa using find?_some hfind
    rw [inj_on_of_nodup_map (nodup_periods hb) hq hp hid]

end Select

section Registration

variable {digest : List MemberIdentity → String} {b : Billing} {env : InvoiceEnv}
  {r : RegisterRequest} {parsed : ParsedRegistration}

/-- A month that is offered passes every check of the selection but the one on occupation. -/
theorem CompleteRegistration.selectBill (h : CompleteRegistration digest b env r parsed)
    (hb : b.Indexed) {p : PromotionPeriod} (hp : p ∈ b.invoiceablePeriods digest parsed.storeId) :
    ∃ s ∈ b.statements.rows, s.storeId = parsed.storeId ∧ s.statementMonth = p.statementMonth ∧
      b.isInvoiced s = false ∧
      (b.isOccupied s.storeId s.statementMonth = true →
        b.selectBill env (b.promotionInvoiceCarryforwardProjection digest
          { storeId := some parsed.storeId }) parsed p.request = .error periodOccupied) ∧
      (b.isOccupied s.storeId s.statementMonth = false →
        ∃ x, b.selectBill env (b.promotionInvoiceCarryforwardProjection digest
          { storeId := some parsed.storeId }) parsed p.request = .ok x) := by
  obtain ⟨hp, hpos⟩ := mem_filter.mp hp
  obtain ⟨_, hd, row, hrow, -, hid, hmo, -, hver⟩ := exists_draft_of_period hp
  have hbill := mem_promotionBills_of_draft hd hrow
  obtain ⟨⟨hs, hcur, -, hkeep⟩, hc, hcid, hdir⟩ := mem_confirmedBills.mp hbill
  rw [Bool.and_eq_true, Bool.not_eq_true'] at hkeep
  have hst : row.1.storeId = parsed.storeId := by
    have hcov := hkeep.2
    simp only [PromotionScope.covers, Option.all_some, Option.all_none, Bool.and_true,
      decide_eq_true_eq] at hcov
    exact hcov
  have hper : ((b.promotionInvoiceCarryforwardProjection digest
      { storeId := some parsed.storeId }).period? p.request.statementId).filter (fun q =>
        p.request.promotionInvoiceGroupId = some q.group.groupId) = some p := by
    change ((b.promotionInvoiceCarryforwardProjection digest
      { storeId := some parsed.storeId }).period? p.statementId).filter _ = _
    rw [period?_of_mem hb hp]
    simp [PromotionPeriod.request]
  have hstm : b.statements.get? p.request.statementId = some row.1 := by
    change b.statements.get? p.statementId = _
    rw [hid]
    exact b.statements.get?_of_mem hs
  obtain ⟨c, hconf⟩ : ∃ c, b.confirmationOf row.1.statementId .promotion = some c := by
    refine Option.isSome_iff_exists.mp (find?_isSome.mpr ⟨row.2, hc, ?_⟩)
    rw [decide_eq_true hcid, decide_eq_true hdir]
    rfl
  have hsame : row.2 = c := by
    have hfd := find?_some hconf
    simp only [bool_to_prop] at hfd
    exact hb.confirmationSlot _ hc _ (mem_of_find?_eq_some hconf)
      (hcid.trans hfd.1.symm) (hdir.trans hfd.2.symm)
  have hreq : p.request ∈ parsed.allocations :=
    (h.names p.request).mpr ⟨p, mem_filter.mpr ⟨hp, hpos⟩, rfl⟩
  have hdated : env.isDatedAfter parsed.invoiceDate row.1 c = true := by
    rw [← hsame]
    exact h.dated row hbill p.request hreq hid
  have hchk : (row.1.isCurrent && decide (row.1.storeId = parsed.storeId) &&
      decide (row.1.statementMonth = p.request.statementMonth) &&
      decide (row.1.versionNo = p.request.readVersion)) = true := by
    have hmo' : row.1.statementMonth = p.request.statementMonth := hmo.symm
    have hver' : row.1.versionNo = p.request.readVersion := hver.symm
    rw [hcur, decide_eq_true hst, decide_eq_true hmo', decide_eq_true hver']
    rfl
  refine ⟨row.1, hs, hst, hmo.symm, hkeep.1, fun hocc => ?_, fun hfree => ?_⟩
  · unfold Billing.isOccupied at hocc
    unfold Billing.selectBill
    simp only [hper, hpos, hstm, hchk, hconf, hdated, hocc,
      ofOption, ensure, bind, Except.bind, if_true, Bool.not_true, Bool.false_eq_true,
      if_false]
    rfl
  · unfold Billing.isOccupied at hfree
    unfold Billing.selectBill
    simp only [hper, hpos, hstm, hchk, hconf, hdated, hfree,
      ofOption, ensure, bind, Except.bind, if_true, Bool.not_false]
    exact ⟨_, rfl⟩

theorem checkSelection_ne_occupied (projection : PromotionProjection)
    (selected : List SelectedBill) :
    projection.checkSelection selected ≠ .error periodOccupied := by
  intro h
  rcases bind_eq_error_iff.mp h with h | ⟨_, _, h⟩
  · obtain ⟨_, _, h⟩ := Except.exists_of_forM_error h
    obtain ⟨_, heq⟩ := Except.ensure_eq_error_iff.mp h
    exact absurd heq (by decide)
  · obtain ⟨_, heq⟩ := Except.ensure_eq_error_iff.mp h
    exact absurd heq (by decide)

theorem replacedInvoice_ne_occupied (b : Billing) (parsed : ParsedRegistration)
    (selected : List SelectedBill) (invoiceId : String) :
    b.replacedInvoice parsed selected invoiceId ≠ .error periodOccupied := by
  intro h
  obtain ⟨_, h⟩ := Except.of_ofOption_bind_error (by decide) h
  iterate 2 replace h := of_ensure_bind_error (by decide) h
  obtain ⟨_, h⟩ := Except.of_ofOption_bind_error (by decide) h
  iterate 3 replace h := of_ensure_bind_error (by decide) h
  cases h

theorem replacedInvoices_ne_occupied (b : Billing) (parsed : ParsedRegistration)
    (selected : List SelectedBill) :
    b.replacedInvoices parsed selected ≠ .error periodOccupied := by
  intro h
  obtain ⟨invoiceId, _, h⟩ :=
    Except.exists_of_mapM_error (of_ensure_bind_error (by decide) h)
  exact replacedInvoice_ne_occupied b parsed selected invoiceId h

/-- A registration that was refused for occupation was refused by the selection of its bills. -/
theorem selectBills_of_refused {db : Db}
    (h : db.recordRegistration digest env r parsed = .error periodOccupied) :
    parsed.allocations.mapM (db.billing.selectBill env
      (db.billing.promotionInvoiceCarryforwardProjection digest
        { storeId := some parsed.storeId }) parsed) = .error periodOccupied := by
  iterate 2 replace h := of_ensure_bind_error (by decide) h
  rcases bind_eq_error_iff.mp h with h | ⟨selected, _, h⟩
  · rcases bind_eq_error_iff.mp h with h | ⟨_, _, h⟩
    · exact h
    rcases bind_eq_error_iff.mp h with h | ⟨_, _, h⟩
    · exact absurd h (checkSelection_ne_occupied _ _)
    · cases h
  rcases bind_eq_error_iff.mp h with h | ⟨replaced, _, h⟩
  · exact absurd h (replacedInvoices_ne_occupied _ _ _)
  rcases bind_eq_error_iff.mp h with h | ⟨billing, _, h⟩
  · obtain ⟨_, _, heq⟩ := Except.mapError_eq_error_iff.mp h
    exact absurd heq (by decide)
  obtain ⟨_, h⟩ := Except.of_ofOption_bind_error (by nofun) h
  cases h

theorem CompleteRegistration.register {db : Db}
    (h : CompleteRegistration digest db.billing env r parsed) :
    db.registerPromotionInvoice digest env r = db.recordRegistration digest env r parsed := by
  have hnew : db.billing.promotionInvoices.rows.find? (fun i =>
      i.idempotencyKeyHash = some r.key.keyHash) = none :=
    find?_eq_none.mpr fun i hi => by simpa using h.newKey i hi
  unfold Db.registerPromotionInvoice
  rw [h.parses]
  simp only [h.store, h.past, hnew, ensure, bind, Except.bind, if_true, decide_true]

theorem CompleteRegistration.record_refused {db : Db}
    (h : CompleteRegistration digest db.billing env r parsed)
    (hsel : parsed.allocations.mapM (db.billing.selectBill env
      (db.billing.promotionInvoiceCarryforwardProjection digest
        { storeId := some parsed.storeId }) parsed) = .error periodOccupied) :
    db.recordRegistration digest env r parsed = .error periodOccupied := by
  have hrec : db.billing.invoiceRecords.rows.any (fun x =>
      x.invoiceNumber = parsed.invoiceNumber) = false :=
    any_eq_false.mpr fun x hx => by simpa using h.unusedRecord x hx
  have hinv : db.billing.promotionInvoices.rows.any (fun i =>
      i.invoiceNumber = parsed.invoiceNumber) = false :=
    any_eq_false.mpr fun i hi => by simpa using h.unusedInvoice i hi
  unfold Db.recordRegistration Billing.selectBills
  simp only [hrec, hinv, h.unusedNumber, hsel, ensure, bind, Except.bind, if_true,
    Bool.not_false, Option.isNone_none, Bool.and_self]

/-- In every state that confirmations, registrations, lifecycle events and factory reviews lead
to, a registration of everything that is offered is not refused for occupation exactly when no
rejected invoice still holds one of the offered months. -/
theorem offered_months_unoccupied_iff {db : Db} (hstart : db.billing.Unregistered)
    (actions : List PromotionAction)
    (h : CompleteRegistration digest (db.promotionRun digest actions).billing env r parsed) :
    (db.promotionRun digest actions).registerPromotionInvoice digest env r ≠ .error periodOccupied ↔
      ∀ p ∈ (db.promotionRun digest actions).billing.invoiceablePeriods digest parsed.storeId,
        (db.promotionRun digest actions).billing.rejectedOver parsed.storeId p.statementMonth =
          false := by
  have hledger := (PromotionLedger.of_unregistered hstart).run digest actions
  have hreview : (db.promotionRun digest actions).billing.InvoicesInReview := by
    refine Billing.InvoicesInReview.run (fun i hi => ?_) digest actions
    rw [hstart.promotionInvoices] at hi
    cases hi
  have hitem : ∀ p ∈ (db.promotionRun digest actions).billing.invoiceablePeriods digest
      parsed.storeId, _ := fun p hp => h.selectBill hledger.indexed hp
  rw [h.register, ← not_iff_not]
  push Not
  constructor
  · -- the refusal comes from a month that is named, and so offered
    intro hrefused
    obtain ⟨item, hitems, herror⟩ :=
      Except.exists_of_mapM_error (selectBills_of_refused hrefused)
    obtain ⟨p, hp, rfl⟩ := (h.names item).mp hitems
    obtain ⟨s, _, hstore, hmonth, hfree, _, hselect⟩ := hitem p hp
    refine ⟨p, hp, ?_⟩
    rw [Ne, Bool.not_eq_false, ← hstore, ← hmonth, ← isOccupied_iff hledger hreview hfree]
    by_contra hunoccupied
    obtain ⟨_, hx⟩ := hselect (Bool.not_eq_true _ ▸ hunoccupied)
    rw [hx] at herror
    cases herror
  · rintro ⟨p, hp, hrejected⟩
    rw [Ne, Bool.not_eq_false] at hrejected
    refine h.record_refused (Except.mapM_eq_error (fun item hitems => ?_) ?_)
    · obtain ⟨q, hq, rfl⟩ := (h.names item).mp hitems
      obtain ⟨s, _, _, _, _, hoccupied, hfree⟩ := hitem q hq
      cases hcase : (db.promotionRun digest actions).billing.isOccupied s.storeId s.statementMonth with
      | true => exact .inl (hoccupied hcase)
      | false => exact .inr (hfree hcase)
    · obtain ⟨_, _, hstore, hmonth, hfree, hoccupied, _⟩ := hitem p hp
      rw [← hstore, ← hmonth] at hrejected
      exact ⟨p.request, (h.names _).mpr ⟨p, hp, rfl⟩,
        hoccupied ((isOccupied_iff hledger hreview hfree).mpr hrejected)⟩

end Registration

namespace RejectedInvoice

def parsed (number : String) : ParsedRegistration where
  storeId := "store-1"
  invoiceNumber := number
  invoiceDate := 0
  replacesInvoiceId := none
  allocations := [allocation "a" august, allocation "s" (august + 1)]

def confirmed : List PromotionAction := [confirm "a" 100, confirm "s" (-30)]

def rejected : List PromotionAction :=
  confirmed ++ [register "1" "00000000000000000001" none,
    review "2" "00000000000000000001" .rejectedReupload]

theorem complete_confirmed : CompleteRegistration digest
    (start.promotionRun digest confirmed).billing env
    (registration "1" "00000000000000000001" none) (parsed "00000000000000000001") where
  parses := by rfl
  store := rfl
  newKey := by decide +kernel
  unusedRecord := by decide +kernel
  unusedNumber := by decide +kernel
  unusedInvoice := by decide +kernel
  names item := by
    have hoff : ((start.promotionRun digest confirmed).billing.invoiceablePeriods digest
        "store-1").map PromotionPeriod.request =
          [allocation "a" august, allocation "s" (august + 1)] := by
      decide +kernel
    change item ∈ [allocation "a" august, allocation "s" (august + 1)] ↔ _
    rw [← hoff, mem_map]
    rfl
  past := le_rfl
  dated := by decide +kernel

end RejectedInvoice

/-- Before its first invoice the store can register what it is offered. -/
theorem confirmed_months_unoccupied : (RejectedInvoice.start.promotionRun RejectedInvoice.digest
      RejectedInvoice.confirmed).registerPromotionInvoice RejectedInvoice.digest
        RejectedInvoice.env (RejectedInvoice.registration "1" "00000000000000000001" none) ≠
      .error periodOccupied :=
  (offered_months_unoccupied_iff RejectedInvoice.start_unregistered RejectedInvoice.confirmed
    RejectedInvoice.complete_confirmed).mpr (by decide +kernel)

/-- After the rejection both months are offered again, and their registration is refused. -/
theorem rejected_months_offered_and_refused :
    ((RejectedInvoice.start.promotionRun RejectedInvoice.digest
        RejectedInvoice.rejected).billing.invoiceablePeriods RejectedInvoice.digest
          "store-1").map PromotionPeriod.request =
        (RejectedInvoice.registration "3" "00000000000000000002" none).allocations ∧
      (RejectedInvoice.start.promotionRun RejectedInvoice.digest
        RejectedInvoice.rejected).billing.requiredReplacementIds
          [⟨RejectedInvoice.bill "a" RejectedInvoice.august 100, "", 100⟩,
            ⟨RejectedInvoice.bill "s" (RejectedInvoice.august + 1) (-30), "", -30⟩] = [] ∧
      (RejectedInvoice.start.promotionRun RejectedInvoice.digest
        RejectedInvoice.rejected).registerPromotionInvoice RejectedInvoice.digest
          RejectedInvoice.env (RejectedInvoice.registration "3" "00000000000000000002" none) =
        .error periodOccupied := by
  refine ⟨by decide +kernel, by decide +kernel, ?_⟩
  rw [← Except.map_eq_error_iff (f := fun _ => ())]
  decide +kernel

end DyData.Settlement
