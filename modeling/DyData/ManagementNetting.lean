import DyData.ManagementApplications

/-!
Netting month by month.  What a positive month loses is what is applied to it, no negative month
keeps a remainder while a positive one has an amount left, and the earliest month is reduced first.
-/

namespace DyData.Settlement

open Relational FifoNetting

variable {b : Billing} {scope : ProjectionScope} {storeId : String}

def appliedTo (applications : List ProjectedApplication) (target : String × Month) : Int :=
  ((applications.filter fun a => a.target = target).map ProjectedApplication.appliedAmountCent).sum

theorem appliedTo_moved (log : List (Tally.Move (String × Month))) (target : String × Month) :
    appliedTo (log.map (moved storeId)) target = heldBy (Tally.byTarget log) target := by
  simp [appliedTo, heldBy, Tally.byTarget, List.filter_map, Function.comp_def, moved, application,
    ProjectedApplication.target]

/-- The months of a store after netting, with the new applications `fresh`.  `earliest` reads them
at each of their positions: a month gets something when the earlier ones have nothing left. -/
structure NetsEarliestFirst (bills : List ConfirmedBill) (locked : List ManagementApplication)
    (p : Projection) (fresh : List ProjectedApplication) : Prop where
  months : p.periods.map (fun q => (q.key, q.confirmedAmountCent)) =
    bills.map fun row => (billKey row, row.2.confirmedAmountCent)
  applications : p.applications = locked.map ManagementApplication.projected ++ fresh
  reduced : ∀ q ∈ p.periods, 0 < q.confirmedAmountCent → q.invoiceId = none →
    q.invoiceableAmountCent = q.confirmedAmountCent - appliedTo fresh q.key ∧
      0 ≤ q.invoiceableAmountCent
  bounded : ∀ q ∈ p.periods, q.confirmedAmountCent < 0 →
    appliedFrom fresh q.key ≤ -q.confirmedAmountCent - reservedOf locked q.statementId
  oneSided : ∀ q ∈ p.periods, q.confirmedAmountCent < 0 →
    appliedFrom fresh q.key < -q.confirmedAmountCent - reservedOf locked q.statementId →
    ∀ r ∈ p.periods, r.invoiceableAmountCent = 0
  earliest : ∀ before a after, fresh = before ++ a :: after → ∀ q ∈ p.periods,
    0 < q.confirmedAmountCent → q.invoiceId = none → q.statementMonth < a.targetStatementMonth →
    appliedTo before q.key = q.confirmedAmountCent

/-- What a month brings to the netting. -/
theorem exists_entry (hb : b.Indexed) (hsc : scope.storeId = some storeId) {q : Period}
    (hq : q ∈ (b.managementInvoiceableProjection scope).periods) :
    ∃ row ∈ b.managementBills scope, q.key = billKey row ∧
      q.confirmedAmountCent = row.2.confirmedAmountCent ∧
      q.invoiceableAmountCent =
        heldBy (b.managementInvoiceableProjection scope).pending.positives q.key ∧
      (0 < q.confirmedAmountCent → q.invoiceId = none →
        b.signedAmount scope row = q.confirmedAmountCent) ∧
      (q.confirmedAmountCent < 0 → b.signedAmount scope row = -max (-q.confirmedAmountCent -
        reservedOf (b.lockedApplications scope) q.statementId) 0) := by
  obtain ⟨row, hrow, hper⟩ := exists_bill_of_period hb hsc hq
  have hnd := (netted_projection hb hsc).sorted.imp
    fun hlt heq => hlt.ne (congrArg Prod.snd heq)
  refine ⟨row, hrow, hper.key, hper.confirmed, ?_, fun hpos hinv => ?_, fun hneg => ?_⟩
  · rw [hper.invoiceable, hper.key, Tally.pendingOf_eq_heldBy hnd]
  · have hnone := Option.map_eq_none_iff.mp (hper.invoice.symm.trans hinv)
    rw [hper.confirmed] at hpos ⊢
    rw [Billing.signedAmount, signedAmount, if_pos hpos, hnone]
    rfl
  · rw [hper.confirmed] at hneg ⊢
    rw [Billing.signedAmount, signedAmount, if_neg (by omega), if_pos hneg, hper.statementId]

/-- Netting is exact and takes the earliest month first, whatever is invoiced already and as long
as the invoices have not reserved more than the negative months have. -/
theorem management_netting_exact_and_earliest_first (hb : b.Indexed)
    (hscope : scope.storeId = some storeId)
    (hlocked : ∀ row ∈ b.managementBills scope, row.2.confirmedAmountCent < 0 →
      reservedOf (b.lockedApplications scope) row.1.statementId ≤ -row.2.confirmedAmountCent) :
    ∃ fresh, NetsEarliestFirst (b.managementBills scope) (b.lockedApplications scope)
      (b.managementInvoiceableProjection scope) fresh := by
  have hnetted := netted_projection hb hscope
  have hentry {row : ConfirmedBill} (hrow : row ∈ b.managementBills scope) :=
    List.mem_map_of_mem (f := fun row => (billKey row, b.signedAmount scope row)) hrow
  have hgiven : ∀ q ∈ (b.managementInvoiceableProjection scope).periods,
      q.confirmedAmountCent < 0 → heldBy (Tally.bySource (b.managementMoves scope)) q.key +
        heldBy (b.managementInvoiceableProjection scope).pending.negatives q.key =
          -q.confirmedAmountCent - reservedOf (b.lockedApplications scope) q.statementId := by
    intro q hq hneg
    obtain ⟨row, hrow, hkey, hconfirmed, -, -, hsigned⟩ := exists_entry hb hscope hq
    have hgiven := hnetted.given _ (hentry hrow)
    have hid : q.statementId = row.1.statementId := congrArg Prod.fst hkey
    have hreserved := hlocked row hrow (hconfirmed ▸ hneg)
    rw [← hkey] at hgiven
    dsimp only at hgiven
    rw [← hconfirmed, ← hid] at hreserved
    omega
  refine ⟨(b.managementMoves scope).map (moved storeId), ?_, applications_projection hscope,
    fun q hq hpos hinvoice => ?_, fun q hq hneg => ?_, fun q hq hneg hless r hr => ?_,
    fun before a after heq q hq hpos hinvoice hmonth => ?_⟩
  · refine List.map_eq_of_forall₂ (walked_projection hb hscope).periods fun row _ q hperiod => ?_
    rw [hperiod.key, hperiod.confirmed]
  · obtain ⟨row, hrow, hkey, -, hheld, hsigned, -⟩ := exists_entry hb hscope hq
    have hreceived := hnetted.received _ (hentry hrow)
    have hnonneg := hnetted.sound.positives.heldBy_nonneg q.key
    rw [hsigned hpos hinvoice, ← hkey] at hreceived
    dsimp only at hreceived
    rw [appliedTo_moved]
    omega
  · have hnonneg := hnetted.sound.negatives.heldBy_nonneg q.key
    have hq := hgiven q hq hneg
    rw [appliedFrom_moved]
    omega
  · -- a remainder is pending, so no positive month is
    obtain ⟨row, hrow, -, -, hheld, -⟩ := exists_entry hb hscope hr
    rw [appliedFrom_moved] at hless
    have hq := hgiven q hq hneg
    rcases hnetted.sound.oneSided with hnil | hnil
    · rw [hheld, hnil]
      rfl
    · have hzero : heldBy ([] : Queue (String × Month)) q.key = 0 := rfl
      rw [hnil, hzero] at hq
      omega
  · obtain ⟨row, hrow, hkey, -, -, hsigned, -⟩ := exists_entry hb hscope hq
    obtain ⟨front, _, hlog, rfl, hothers⟩ := List.map_eq_append_iff.mp heq
    obtain ⟨m, rest, rfl, rfl, -⟩ := List.map_eq_cons_iff.mp hothers
    have hrank : (billKey row).2 < m.target.2 := by
      rw [← hkey]
      exact hmonth
    have hearliest := hnetted.earliest front m rest hlog _ (hentry hrow) hrank
    rw [hsigned hpos hinvoice, ← hkey] at hearliest
    rw [appliedTo_moved, hearliest]
    omega

open LaterCredit in
/-- August 100, September -30, nothing invoiced. -/
theorem netting_of_a_later_credit : ∃ fresh,
    NetsEarliestFirst ((bills (-30)).managementBills (storeScope "store-1"))
      ((bills (-30)).lockedApplications (storeScope "store-1"))
      ((bills (-30)).managementInvoiceableProjection (storeScope "store-1")) fresh :=
  management_netting_exact_and_earliest_first (bills_indexed (-30)) rfl (by decide +kernel)

end DyData.Settlement
