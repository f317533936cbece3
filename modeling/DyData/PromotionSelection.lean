import DyData.PromotionInvoices

/-!
What a registration selects: whole groups, whose bills add up to the invoiceable amounts of the
groups.  The amount of the invoice is therefore positive.
-/

namespace DyData.Settlement

open Relational List
open Except (of_bind of_ofOption_bind of_ensure_bind ensure_eq_ok_iff)

variable {row : ConfirmedBill} {d : DraftGroup} {parsed : ParsedRegistration}

variable {digest : List MemberIdentity → String} {b : Billing} {scope : PromotionScope}

/-! ### Groups and their bills -/

theorem mem_promotionBills (h : row ∈ b.promotionBills scope) :
    row ∈ b.confirmedBills .promotion fun _ => true := by
  obtain ⟨⟨hs, hcur, hform, _⟩, hc, hid, hdir⟩ := mem_confirmedBills.mp h
  exact mem_confirmedBills.mpr ⟨⟨hs, hcur, hform, rfl⟩, hc, hid, hdir⟩

theorem promotionBill_eq (hb : b.Indexed) {x y : ConfirmedBill} (hx : x ∈ b.promotionBills scope)
    (hy : y ∈ b.promotionBills scope) (hid : x.1.statementId = y.1.statementId) : x = y := by
  have hsame : x.1 = y.1 := b.statements.eq_of_key_eq (mem_confirmedBills.mp hx).1.1
    (mem_confirmedBills.mp hy).1.1 hid
  exact confirmedBill_eq hb hx hy (congrArg Statement.slot hsame)

theorem draftGroup_eq {e : DraftGroup} (hd : d ∈ b.draftGroups scope) (he : e ∈ b.draftGroups scope)
    (hrow : row ∈ d.members) (hrow' : row ∈ e.members) : d = e := by
  by_contra hne
  have hdisj := (nodup_flatMap.mp (nodup_members_draftGroups b scope)).2
  have : Std.Symm (Function.onFun List.Disjoint DraftGroup.members) :=
    ⟨fun _ _ h => List.Disjoint.symm h⟩
  exact hdisj.forall hd he hne hrow hrow'

theorem mem_promotionBills_of_draft (hd : d ∈ b.draftGroups scope) (hrow : row ∈ d.members) :
    row ∈ b.promotionBills scope :=
  (mem_members_draftGroups.mp ⟨d, hd, hrow⟩).1

theorem draftGroup_eq_of_statementId (hb : b.Indexed) {e : DraftGroup}
    (hd : d ∈ b.draftGroups scope) (he : e ∈ b.draftGroups scope) {x y : ConfirmedBill}
    (hx : x ∈ d.members) (hy : y ∈ e.members) (hid : x.1.statementId = y.1.statementId) :
    d = e := by
  have hsame : x = y := promotionBill_eq hb (mem_promotionBills_of_draft hd hx)
    (mem_promotionBills_of_draft he hy) hid
  exact draftGroup_eq hd he hx (hsame ▸ hy)

theorem draftGroup_amount (hd : d ∈ b.draftGroups scope) (hpos : 0 < d.invoiceableAmountCent) :
    d.invoiceableAmountCent = (d.members.map ConfirmedBill.amount).sum := by
  obtain ⟨_, _, hd⟩ := mem_flatMap.mp hd
  exact storeGroups_amount hd hpos

theorem mem_requiredStatementIds {statementId : String} :
    statementId ∈ (d.group digest).requiredStatementIds ↔
      ∃ row ∈ d.members, row.1.statementId = statementId := by
  change statementId ∈ d.ordered.map (fun row => row.1.statementId) ↔ _
  simp only [mem_map, mem_ordered]

/-! ### What a selected bill went through -/

structure Selected (digest : List MemberIdentity → String) (b : Billing) (scope : PromotionScope)
    (x : SelectedBill) (d : DraftGroup) (row : ConfirmedBill) : Prop where
  draft : d ∈ b.draftGroups scope
  member : row ∈ d.members
  statement : row.1 = x.statement
  amount : row.amount = x.allocatedAmountCent
  group : x.groupId = (d.group digest).groupId
  invoiceable : 0 < d.invoiceableAmountCent

theorem selectBill_ok (hb : b.Indexed) {env : InvoiceEnv} {item : AllocationRequest}
    {x : SelectedBill}
    (h : b.selectBill env (b.promotionInvoiceCarryforwardProjection digest scope) parsed item =
      .ok x) :
    (∃ d row, Selected digest b scope x d row) ∧ x.statement.storeId = parsed.storeId ∧
      x.statement.statementMonth = item.statementMonth ∧
      ∀ a ∈ b.promotionInvoiceAllocations.rows, a.storeId = x.statement.storeId →
        a.statementMonth = x.statement.statementMonth → a.isCurrent = false := by
  obtain ⟨period, hper, h⟩ := of_ofOption_bind h
  obtain ⟨hpos, h⟩ := of_ensure_bind h
  obtain ⟨s, hs, h⟩ := of_ofOption_bind h
  obtain ⟨hver, h⟩ := of_ensure_bind h
  obtain ⟨c, hc, h⟩ := of_ofOption_bind h
  obtain ⟨_, _, h⟩ := of_bind h
  obtain ⟨_, hfree, h⟩ := of_bind h
  rw [ensure_eq_ok_iff] at hfree
  rw [Option.filter_eq_some_iff] at hper
  simp only [bool_to_prop] at hpos hver
  cases h
  have hfd := hper.1
  unfold PromotionProjection.period? at hfd
  have hmem := mem_of_find?_eq_some hfd
  have hid : period.statementId = item.statementId := by simpa using find?_some hfd
  obtain ⟨d, hd, row, hrow, hgrp, hrowid, _, _⟩ :=
    exists_draft_of_period (mem_reverse.mp hmem)
  obtain ⟨⟨hrows, _, _, _⟩, hrowc, hrowci, hrowd⟩ :=
    mem_confirmedBills.mp (mem_promotionBills_of_draft hd hrow)
  have hstm : row.1 = s := by
    refine b.statements.eq_of_key_eq hrows (b.statements.mem_of_get? hs) ?_
    rw [b.statements.key_of_get? hs, ← hid, hrowid]
  have hconf : row.2 = c := by
    have hcid := find?_some hc
    simp only [bool_to_prop] at hcid
    refine hb.confirmationSlot _ hrowc _ (mem_of_find?_eq_some hc) ?_ ?_
    · rw [hrowci, hcid.1, hstm]
    · rw [hrowd, hcid.2]
  refine ⟨⟨d, row, hd, hrow, hstm, ?_, by rw [hgrp], by rwa [hgrp] at hpos⟩,
    hver.1.1.2, hver.1.2, ?_⟩
  · rw [ConfirmedBill.amount, hconf]
  · intro a ha hst hmo
    by_contra hcur
    rw [Bool.not_eq_false] at hcur
    simp only [Bool.not_eq_true', any_eq_false, bool_to_prop] at hfree
    exact hfree a ha ⟨⟨hst, hmo⟩, hcur⟩

theorem sameSet_iff {l m : List String} : sameSet l m = true ↔ ∀ x, x ∈ l ↔ x ∈ m := by
  simp only [sameSet, Bool.and_eq_true, all_eq_true, contains_iff_mem]
  exact ⟨fun h x => ⟨h.1 x, h.2 x⟩, fun h => ⟨fun x => (h x).mp, fun x => (h x).mpr⟩⟩

/-- A group one of whose bills is selected is selected as a whole. -/
theorem selected_of_member (hb : b.Indexed) {selected : List SelectedBill}
    (hchk : (b.promotionInvoiceCarryforwardProjection digest scope).checkSelection selected =
      .ok ()) {x : SelectedBill} (hx : x ∈ selected) (hsel : Selected digest b scope x d row)
    {other : ConfirmedBill} (hoth : other ∈ d.members) :
    ∃ y ∈ selected, y.statement.statementId = other.1.statementId := by
  obtain ⟨_, hgrps, _⟩ := of_bind hchk
  have hcomp := Except.forM_eq_ok_iff.mp hgrps x.groupId (mem_map_of_mem hx)
  rw [ensure_eq_ok_iff, sameSet_iff] at hcomp
  have hself : x.statement.statementId ∈ selectedOf selected x.groupId :=
    mem_map.mpr ⟨x, mem_filter.mpr ⟨hx, decide_eq_true rfl⟩, rfl⟩
  have hreq := (hcomp _).mp hself
  -- the group found under the identifier of the selection is the group of the bill
  cases hgrp : (b.promotionInvoiceCarryforwardProjection digest scope).group? x.groupId with
  | none =>
    rw [hgrp] at hreq
    exact absurd hreq not_mem_nil
  | some g =>
    rw [hgrp, Option.map_some] at hreq hcomp
    obtain ⟨e, he, rfl⟩ := mem_map.mp (mem_reverse.mp (mem_of_find?_eq_some hgrp))
    obtain ⟨_, hfd, hid⟩ := mem_requiredStatementIds.mp hreq
    have hsame : e = d := draftGroup_eq_of_statementId hb he hsel.draft hfd hsel.member
      (by rw [hid, hsel.statement])
    rw [hsame] at hcomp
    have hmem := (hcomp other.1.statementId).mpr
      (mem_requiredStatementIds.mpr ⟨other, hoth, rfl⟩)
    obtain ⟨y, hy, hyid⟩ := mem_map.mp hmem
    exact ⟨y, (mem_filter.mp hy).1, hyid⟩

/-! ### The amount of a registration -/

def touchedGroups (b : Billing) (scope : PromotionScope) (selected : List SelectedBill) :
    List DraftGroup :=
  (b.draftGroups scope).filter fun d => d.members.any fun row =>
    selected.any fun x => x.statement.statementId = row.1.statementId

theorem mem_touchedGroups {selected : List SelectedBill} :
    d ∈ touchedGroups b scope selected ↔ d ∈ b.draftGroups scope ∧
      ∃ row ∈ d.members, ∃ x ∈ selected, x.statement.statementId = row.1.statementId := by
  simp [touchedGroups]

section Amount

variable {selected : List SelectedBill}

theorem exists_selected_of_touched (hb : b.Indexed)
    (hall : ∀ x ∈ selected, ∃ d row, Selected digest b scope x d row)
    (hd : d ∈ touchedGroups b scope selected) :
    ∃ x ∈ selected, ∃ row, Selected digest b scope x d row := by
  obtain ⟨hd, _, hrow, x, hx, hid⟩ := mem_touchedGroups.mp hd
  obtain ⟨e, found, hsel⟩ := hall x hx
  have hsame : e = d := draftGroup_eq_of_statementId hb hsel.draft hd hsel.member hrow
    (by rw [hsel.statement, hid])
  rw [hsame] at hsel
  exact ⟨x, hx, found, hsel⟩

/-- The selected bills are the bills of the groups they touch. -/
theorem registeredAmount_eq (hb : b.Indexed)
    (hchk : (b.promotionInvoiceCarryforwardProjection digest scope).checkSelection selected =
      .ok ()) (hall : ∀ x ∈ selected, ∃ d row, Selected digest b scope x d row)
    (hnd : (selected.map fun x => x.statement.statementId).Nodup) :
    registeredAmount selected = (((touchedGroups b scope selected).flatMap DraftGroup.members).map
        ConfirmedBill.amount).sum := by
  have hbill {row : ConfirmedBill}
      (h : row ∈ (touchedGroups b scope selected).flatMap DraftGroup.members) :
      row ∈ b.promotionBills scope := by
    obtain ⟨d, hd, hrow⟩ := mem_flatMap.mp h
    exact mem_promotionBills_of_draft (mem_touchedGroups.mp hd).1 hrow
  refine sum_eq_of_keys (k := fun x => x.statement.statementId)
    (j := fun row => row.1.statementId) hnd ?_ ?_ ?_
  · refine Nodup.map_on (fun x hx y hy => promotionBill_eq hb (hbill hx) (hbill hy)) ?_
    exact (nodup_members_draftGroups b scope).sublist (filter_sublist.flatMap _)
  · intro x hx
    obtain ⟨d, row, hsel⟩ := hall x hx
    have htch : d ∈ touchedGroups b scope selected :=
      mem_touchedGroups.mpr ⟨hsel.draft, row, hsel.member, x, hx, by rw [hsel.statement]⟩
    exact ⟨row, mem_flatMap.mpr ⟨d, htch, hsel.member⟩, by rw [hsel.statement], hsel.amount.symm⟩
  · intro row hrow
    obtain ⟨_, hd, hrow⟩ := mem_flatMap.mp hrow
    obtain ⟨_, hx, _, hsel⟩ := exists_selected_of_touched hb hall hd
    obtain ⟨y, hy, hid⟩ := selected_of_member hb hchk hx hsel hrow
    obtain ⟨_, found, hsel'⟩ := hall y hy
    have hsame : found = row := promotionBill_eq hb
      (mem_promotionBills_of_draft hsel'.draft hsel'.member)
      (mem_promotionBills_of_draft (mem_touchedGroups.mp hd).1 hrow)
      (by rw [hsel'.statement, hid])
    exact ⟨y, hy, hid, by rw [← hsel'.amount, hsame]⟩

theorem registeredAmount_pos (hb : b.Indexed)
    (hchk : (b.promotionInvoiceCarryforwardProjection digest scope).checkSelection selected =
      .ok ()) (hall : ∀ x ∈ selected, ∃ d row, Selected digest b scope x d row)
    (hnd : (selected.map fun x => x.statement.statementId).Nodup) (hne : selected ≠ []) :
    0 < registeredAmount selected := by
  have hsum : (((touchedGroups b scope selected).flatMap DraftGroup.members).map
      ConfirmedBill.amount).sum =
      ((touchedGroups b scope selected).map DraftGroup.invoiceableAmountCent).sum := by
    rw [map_flatMap, flatMap_def, sum_flatten, map_map]
    refine congrArg sum (map_congr_left fun d hd => ?_)
    obtain ⟨x, _, row, hsel⟩ := exists_selected_of_touched hb hall hd
    exact (draftGroup_amount hsel.draft hsel.invoiceable).symm
  rw [registeredAmount_eq hb hchk hall hnd, hsum]
  refine sum_pos _ ?_ ?_
  · intro amount hamt
    obtain ⟨d, hd, rfl⟩ := mem_map.mp hamt
    obtain ⟨x, _, row, hsel⟩ := exists_selected_of_touched hb hall hd
    exact hsel.invoiceable
  · obtain ⟨x, hx⟩ := exists_mem_of_ne_nil _ hne
    obtain ⟨d, row, hsel⟩ := hall x hx
    have htch : d ∈ touchedGroups b scope selected :=
      mem_touchedGroups.mpr ⟨hsel.draft, row, hsel.member, x, hx, by rw [hsel.statement]⟩
    exact ne_nil_of_mem (mem_map_of_mem htch)

end Amount

/-! ### The payload -/

theorem parse_ok {r : RegisterRequest} (h : r.parse = .ok parsed) : parsed.allocations ≠ [] ∧
      (parsed.allocations.map AllocationRequest.statementMonth).Nodup := by
  iterate 4 obtain ⟨_, -, h⟩ := of_bind h
  obtain ⟨_, hsome, h⟩ := of_bind h
  obtain ⟨_, _, h⟩ := of_bind h
  obtain ⟨_, hfold, h⟩ := of_bind h
  cases h
  have hstep {l l' : List AllocationRequest} {item : AllocationRequest}
      (h : parseAllocation l item = .ok l') : l' ≠ [] ∧
        ((l.map AllocationRequest.statementMonth).Nodup →
          (l'.map AllocationRequest.statementMonth).Nodup) := by
    obtain ⟨hnew, h⟩ := of_ensure_bind h
    obtain ⟨_, _, h⟩ := of_bind h
    cases h
    refine ⟨by simp, fun hnd => ?_⟩
    rw [map_append, nodup_append]
    refine ⟨hnd, nodup_singleton _, ?_⟩
    rintro month hmo _ hitem rfl
    obtain ⟨p, hp, rfl⟩ := mem_map.mp hmo
    rw [map_singleton, mem_singleton] at hitem
    simp only [Bool.not_eq_true', any_eq_false, decide_eq_true_eq] at hnew
    exact hnew p hp hitem
  constructor
  · cases hitems : r.allocations with
    | nil =>
      rw [hitems] at hsome
      cases hsome
    | cons item items =>
      rw [hitems, foldlM_cons, Except.bind_eq_ok_iff] at hfold
      obtain ⟨l, hfst, hfold⟩ := hfold
      exact Except.foldlM_ok (P := fun l : List AllocationRequest => l ≠ []) hfold
        (hstep hfst).1 fun _ _ _ _ _ h => (hstep h).1
  · exact Except.foldlM_ok
      (P := fun l : List AllocationRequest => (l.map AllocationRequest.statementMonth).Nodup)
      hfold nodup_nil fun _ _ _ _ hl h => (hstep h).2 hl

theorem selectBills_ok (hb : b.Indexed) {env : InvoiceEnv} {selected : List SelectedBill}
    (h : b.selectBills digest env parsed = .ok selected)
    (hmos : (parsed.allocations.map AllocationRequest.statementMonth).Nodup)
    (hne : parsed.allocations ≠ []) :
    0 < registeredAmount selected ∧ ∀ x ∈ selected, x.statement.storeId = parsed.storeId ∧
      (∃ row ∈ b.confirmedBills .promotion (fun _ => true), row.1 = x.statement ∧
        row.amount = x.allocatedAmountCent) ∧
      ∀ a ∈ b.promotionInvoiceAllocations.rows, a.storeId = x.statement.storeId →
        a.statementMonth = x.statement.statementMonth → a.isCurrent = false := by
  obtain ⟨l, hmap, h⟩ := of_bind h
  obtain ⟨_, hchk, h⟩ := of_bind h
  obtain rfl := Except.pure_eq_ok_iff.mp h
  have hall : ∀ x ∈ l, ∃ d row, Selected digest b { storeId := some parsed.storeId } x d row := by
    intro x hx
    obtain ⟨item, _, hitem⟩ := (Except.mem_of_mapM_ok hmap).mp hx
    exact (selectBill_ok hb hitem).1
  have hselectedMonths : l.map (fun x => x.statement.statementMonth) =
      parsed.allocations.map AllocationRequest.statementMonth :=
    Except.map_eq_map_of_mapM_ok hmap fun _ _ h => (selectBill_ok hb h).2.2.1
  have hids : (l.map fun x => x.statement.statementId).Nodup := by
    -- two selections of one bill would have the same month
    rw [← hselectedMonths] at hmos
    refine Nodup.map_on (fun x hx y hy hid => ?_) (Nodup.of_map _ hmos)
    obtain ⟨d, row, hsel⟩ := hall x hx
    obtain ⟨_, row', hsel'⟩ := hall y hy
    have hsame : row = row' := promotionBill_eq hb
      (mem_promotionBills_of_draft hsel.draft hsel.member)
      (mem_promotionBills_of_draft hsel'.draft hsel'.member)
      (by rw [hsel.statement, hsel'.statement, hid])
    refine inj_on_of_nodup_map hmos hx hy ?_
    rw [← hsel.statement, ← hsel'.statement, hsame]
  have hsome : l ≠ [] := by
    intro hnil
    rw [hnil] at hselectedMonths
    exact hne (map_eq_nil_iff.mp hselectedMonths.symm)
  refine ⟨registeredAmount_pos hb hchk hall hids hsome, fun x hx => ?_⟩
  obtain ⟨_, _, hitem⟩ := (Except.mem_of_mapM_ok hmap).mp hx
  obtain ⟨⟨_, row, hsel⟩, hst, _, hfree⟩ := selectBill_ok hb hitem
  exact ⟨hst, ⟨row, mem_promotionBills (mem_promotionBills_of_draft hsel.draft hsel.member),
    hsel.statement, hsel.amount⟩, hfree⟩

end DyData.Settlement
