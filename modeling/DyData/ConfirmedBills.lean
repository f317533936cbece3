import DyData.BillingConfirmations

/-!
The current bills of the formal period that are confirmed for a direction, in the order in which
the invoice projections walk through them.
-/

namespace DyData.Settlement

open Relational List

abbrev ConfirmedBill := Statement × StatementConfirmation

/-- `ORDER BY store_id, statement_month, statement_id`. -/
def billOrder (row : ConfirmedBill) : String ×ₗ Month ×ₗ String :=
  toLex (row.1.storeId, toLex (row.1.statementMonth, row.1.statementId))

def Billing.confirmedBills (b : Billing) (direction : Direction) (keep : Statement → Bool) :
    List ConfirmedBill :=
  ((b.statements.rows.filter fun s => s.isCurrent && formalSettlementStart ≤ s.statementMonth &&
      keep s).flatMap fun s =>
    (b.confirmations.rows.filter fun c => c.statementId = s.statementId &&
      c.feeDirection = direction).map fun c => (s, c)).insertionSort
        fun a b => billOrder a ≤ billOrder b

structure Billing.Indexed (b : Billing) : Prop where
  /-- `idx_settlement_statement_current_slot`. -/
  currentSlot : ∀ s ∈ b.statements.rows, ∀ t ∈ b.statements.rows, s.isCurrent = true →
    t.isCurrent = true → s.slot = t.slot → s = t
  /-- `uk_statement_confirmation_direction`. -/
  confirmationSlot : ∀ c ∈ b.confirmations.rows, ∀ d ∈ b.confirmations.rows,
    c.statementId = d.statementId → c.feeDirection = d.feeDirection → c = d

/-- The first confirmation of a bill and direction keeps the indexes. -/
theorem Billing.Indexed.confirm {b b' : Billing} (hb : b.Indexed) {c : StatementConfirmation}
    (hnew : ∀ r ∈ b.confirmations.rows, ¬ (r.statementId = c.statementId ∧
      r.feeDirection = c.feeDirection))
    (hrows : b'.confirmations.rows = b.confirmations.rows ++ [c])
    (hstms : b'.statements = b.statements) : b'.Indexed := by
  refine ⟨hstms ▸ hb.currentSlot, ?_⟩
  rw [hrows]
  intro x hx y hy hid hdir
  rcases mem_append.mp hx with hx | hx <;> rcases mem_append.mp hy with hy | hy
  · exact hb.confirmationSlot x hx y hy hid hdir
  · rw [mem_singleton.mp hy] at hid hdir
    exact absurd ⟨hid, hdir⟩ (hnew x hx)
  · rw [mem_singleton.mp hx] at hid hdir
    exact absurd ⟨hid.symm, hdir.symm⟩ (hnew y hy)
  · rw [mem_singleton.mp hx, mem_singleton.mp hy]

theorem not_confirmed_of_confirmationOf {b : Billing} {statementId : String}
    {direction : Direction} (h : b.confirmationOf statementId direction = none) :
    ∀ r ∈ b.confirmations.rows, ¬ (r.statementId = statementId ∧ r.feeDirection = direction) := by
  rintro r hr ⟨hid, hdir⟩
  have hoth := find?_eq_none.mp h r hr
  simp [hid, hdir] at hoth

section

variable {b : Billing} {direction : Direction} {keep : Statement → Bool}

theorem mem_confirmedBills {row : ConfirmedBill} : row ∈ b.confirmedBills direction keep ↔
      (row.1 ∈ b.statements.rows ∧ row.1.isCurrent = true ∧
        formalSettlementStart ≤ row.1.statementMonth ∧ keep row.1 = true) ∧
      row.2 ∈ b.confirmations.rows ∧ row.2.statementId = row.1.statementId ∧
        row.2.feeDirection = direction := by
  obtain ⟨s, c⟩ := row
  rw [Billing.confirmedBills, mem_insertionSort]
  simp only [mem_flatMap, mem_filter, mem_map, bool_to_prop, Prod.mk.injEq]
  constructor
  · rintro ⟨t, ⟨ht, ⟨hcur, hform⟩, hkeep⟩, d, ⟨hd, hid, hdir⟩, rfl, rfl⟩
    exact ⟨⟨ht, hcur, hform, hkeep⟩, hd, hid, hdir⟩
  · rintro ⟨⟨hs, hcur, hform, hkeep⟩, hc, hid, hdir⟩
    exact ⟨s, ⟨hs, ⟨hcur, hform⟩, hkeep⟩, c, ⟨hc, hid, hdir⟩, rfl, rfl⟩

theorem nodup_confirmedBills : (b.confirmedBills direction keep).Nodup := by
  rw [Billing.confirmedBills, (perm_insertionSort _ _).nodup_iff, nodup_flatMap]
  constructor
  · intro s _
    refine Nodup.map (fun c d h => (Prod.mk.inj h).2) ?_
    exact (Nodup.of_map _ b.confirmations.nodup).filter _
  · have hnd := (Nodup.of_map _ b.statements.nodup).filter fun s : Statement =>
      s.isCurrent && formalSettlementStart ≤ s.statementMonth && keep s
    refine hnd.imp fun {s t} hne => ?_
    intro row hs ht
    obtain ⟨_, _, rfl⟩ := mem_map.mp hs
    obtain ⟨_, _, hd⟩ := mem_map.mp ht
    exact hne (Prod.mk.inj hd).1.symm

theorem pairwise_confirmedBills :
    (b.confirmedBills direction keep).Pairwise fun x y => billOrder x ≤ billOrder y := by
  exact pairwise_insertionSort _ _

theorem confirmedBill_eq (hb : b.Indexed) {x y : ConfirmedBill}
    (hx : x ∈ b.confirmedBills direction keep) (hy : y ∈ b.confirmedBills direction keep)
    (hslot : x.1.slot = y.1.slot) : x = y := by
  obtain ⟨⟨hxs, hxc, _, _⟩, hxr, hxid, hxd⟩ := mem_confirmedBills.mp hx
  obtain ⟨⟨hys, hyc, _, _⟩, hyr, hyid, hyd⟩ := mem_confirmedBills.mp hy
  have hstm : x.1 = y.1 := hb.currentSlot _ hxs _ hys hxc hyc hslot
  have hconf : x.2 = y.2 :=
    hb.confirmationSlot _ hxr _ hyr (by rw [hxid, hyid, hstm]) (by rw [hxd, hyd])
  exact Prod.ext hstm hconf

theorem month_le_of_billOrder {x y : ConfirmedBill} (hst : x.1.storeId = y.1.storeId)
    (h : billOrder x ≤ billOrder y) : x.1.statementMonth ≤ y.1.statementMonth := by
  rcases Prod.Lex.toLex_le_toLex.mp h with hlt | ⟨_, hle⟩
  · exact absurd hst hlt.ne
  · rcases Prod.Lex.toLex_le_toLex.mp hle with hlt | ⟨heq, _⟩
    · exact hlt.le
    · exact heq.le

/-- The bills of one store come in the order of their months. -/
theorem months_increase (hb : b.Indexed) {storeId : String}
    (hst : ∀ s, keep s = true → s.storeId = storeId) :
    (b.confirmedBills direction keep).Pairwise fun x y =>
      x.1.statementMonth < y.1.statementMonth := by
  have hnd : (b.confirmedBills direction keep).Nodup := nodup_confirmedBills
  refine List.Pairwise.imp_of_mem ?_ (hnd.and pairwise_confirmedBills)
  rintro x y hx hy ⟨hne, hord⟩
  have hxst := hst _ (mem_confirmedBills.mp hx).1.2.2.2
  have hyst := hst _ (mem_confirmedBills.mp hy).1.2.2.2
  refine lt_of_le_of_ne (month_le_of_billOrder (hxst.trans hyst.symm) hord) fun heq => ?_
  exact hne (confirmedBill_eq hb hx hy (by
    rw [Statement.slot, Statement.slot, hxst, hyst, heq]))

end

end DyData.Settlement
