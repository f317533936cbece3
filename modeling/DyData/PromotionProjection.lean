import DyData.ConfirmedBills

/-!
Which promotion fees can be invoiced together.  The confirmed months of a store that no effective
invoice covers are put into groups: all negative months with as many of the oldest positive months
as it takes to bring them above zero, and every other positive month alone.
-/

namespace DyData.Settlement

open Relational List

/-- The arguments of `_promotion_invoice_carryforward_projection`. -/
structure PromotionScope where
  storeId : Option String := none
  storeIds : Option (List String) := none
  statementIds : Option (List String) := none

def PromotionScope.covers (scope : PromotionScope) (s : Statement) : Bool :=
  scope.storeId.all (fun id => s.storeId = id) &&
  scope.storeIds.all (fun ids => ids.contains s.storeId) &&
  scope.statementIds.all (fun ids => ids.contains s.statementId)

def PromotionInvoice.isEffective (i : PromotionInvoice) : Bool :=
  i.isCurrent && !i.isTombstone && (i.invoiceStatus = .submittedPendingFactoryReview ||
    i.invoiceStatus = .approvedSettled)

def Billing.isEffectiveAllocation (b : Billing) (a : PromotionInvoiceAllocation) : Bool :=
  a.isCurrent && b.promotionInvoices.rows.any fun i => i.invoiceId = a.invoiceId && i.isEffective

/-- `effective_period_allocation_exists`. -/
def Billing.isInvoiced (b : Billing) (s : Statement) : Bool :=
  b.promotionInvoiceAllocations.rows.any fun a => a.storeId = s.storeId &&
    a.statementMonth = s.statementMonth && b.isEffectiveAllocation a

def Billing.promotionBills (b : Billing) (scope : PromotionScope) : List ConfirmedBill :=
  b.confirmedBills .promotion fun s => !b.isInvoiced s && scope.covers s

def ConfirmedBill.amount (row : ConfirmedBill) : Int := row.2.confirmedAmountCent

/-- `rows_by_store`; the rows come sorted by store. -/
def rowsByStore (rows : List ConfirmedBill) : List (List ConfirmedBill) :=
  (rows.map fun row => row.1.storeId).dedup.map fun storeId =>
    rows.filter fun row => row.1.storeId = storeId

/-- The arguments of `add_group`. -/
structure DraftGroup where
  members : List ConfirmedBill
  invoiceableAmountCent : Int

/-- The `while` loop: positive months join the pending ones until the balance is above zero.  The
positive months after that are left. -/
def closeGroup (pending : List ConfirmedBill) (balance : Int) :
    List ConfirmedBill → DraftGroup × List ConfirmedBill
  | [] => (⟨pending, 0⟩, [])
  | row :: rest =>
    if 0 < balance + row.amount then (⟨pending ++ [row], balance + row.amount⟩, rest)
    else closeGroup (pending ++ [row]) (balance + row.amount) rest

def storeGroups (rows : List ConfirmedBill) : List DraftGroup :=
  let negative := rows.filter fun row => row.amount < 0
  let positive := rows.filter fun row => 0 < row.amount
  let alone := fun row : ConfirmedBill => DraftGroup.mk [row] row.amount
  if negative.isEmpty then positive.map alone
  else
    let closed := closeGroup negative (negative.map ConfirmedBill.amount).sum positive
    closed.1 :: closed.2.map alone

structure MemberIdentity where
  statementId : String
  statementVersion : Nat
  confirmationId : String
deriving DecidableEq

def ConfirmedBill.identity (row : ConfirmedBill) : MemberIdentity where
  statementId := row.1.statementId
  statementVersion := row.1.versionNo
  confirmationId := row.2.confirmationId

structure PromotionGroup where
  groupId : String
  storeId : String
  requiredStatementIds : List String
  invoiceableAmountCent : Int
  positiveAmountCent : Int
  negativeAmountCent : Int
  closingMonth : Option Month
deriving DecidableEq

structure PromotionPeriod where
  group : PromotionGroup
  statementId : String
  statementMonth : Month
  statementVersion : Nat
  confirmationId : String
  confirmedAmountCent : Int
  carryforwardBalanceCent : Int
deriving DecidableEq

structure PromotionProjection where
  periods : List PromotionPeriod
  groups : List PromotionGroup

/-- `projection.get`: a later entry of a bill replaces an earlier one. -/
def PromotionProjection.period? (p : PromotionProjection) (statementId : String) :
    Option PromotionPeriod :=
  p.periods.reverse.find? fun q => q.statementId = statementId

/-- `groups_by_id`. -/
def PromotionProjection.group? (p : PromotionProjection) (groupId : String) :
    Option PromotionGroup :=
  p.groups.reverse.find? fun g => g.groupId = groupId

def DraftGroup.ordered (d : DraftGroup) : List ConfirmedBill :=
  d.members.insertionSort fun x y =>
    toLex (x.1.statementMonth, x.1.statementId) ≤ toLex (y.1.statementMonth, y.1.statementId)

section Digest

variable (digest : List MemberIdentity → String)

def DraftGroup.group (d : DraftGroup) : PromotionGroup where
  groupId := "promotion-invoice-group-" ++ digest (d.ordered.map ConfirmedBill.identity)
  storeId := (d.ordered.head?.map fun row => row.1.storeId).getD ""
  requiredStatementIds := d.ordered.map fun row => row.1.statementId
  invoiceableAmountCent := d.invoiceableAmountCent
  positiveAmountCent := (d.ordered.map fun row => max row.amount 0).sum
  negativeAmountCent := (d.ordered.map fun row => min row.amount 0).sum
  closingMonth := if 0 < d.invoiceableAmountCent then
    (d.ordered.map fun row => row.1.statementMonth).max? else none

def periodsFrom (group : PromotionGroup) (total : Int) : List ConfirmedBill → List PromotionPeriod
  | [] => []
  | row :: rest =>
    { group
      statementId := row.1.statementId
      statementMonth := row.1.statementMonth
      statementVersion := row.1.versionNo
      confirmationId := row.2.confirmationId
      confirmedAmountCent := row.amount
      carryforwardBalanceCent := min (total + row.amount) 0 } ::
    periodsFrom group (total + row.amount) rest

def DraftGroup.periods (d : DraftGroup) : List PromotionPeriod :=
  periodsFrom (d.group digest) 0 d.ordered

def Billing.draftGroups (b : Billing) (scope : PromotionScope) : List DraftGroup :=
  (rowsByStore (b.promotionBills scope)).flatMap storeGroups

def Billing.promotionInvoiceCarryforwardProjection (b : Billing) (scope : PromotionScope) :
    PromotionProjection where
  periods := (b.draftGroups scope).flatMap (DraftGroup.periods digest)
  groups := (b.draftGroups scope).map (DraftGroup.group digest)

end Digest

/-! ### The bills of the groups -/

def sumOf (rows : List ConfirmedBill) : Int := (rows.map ConfirmedBill.amount).sum

theorem sumOf_append (l m : List ConfirmedBill) : sumOf (l ++ m) = sumOf l + sumOf m := by
  simp [sumOf]

theorem sumOf_cons (row : ConfirmedBill) (rows : List ConfirmedBill) :
    sumOf (row :: rows) = row.amount + sumOf rows := by
  simp [sumOf]

/-- The loop takes the shortest run of positive months that brings the balance above zero, or all
of them when none does. -/
theorem closeGroup_spec {balance : Int} (hbal : balance ≤ 0) (pending rows : List ConfirmedBill) :
    ∃ taken rest, rows = taken ++ rest ∧
      closeGroup pending balance rows = (⟨pending ++ taken, max 0 (balance + sumOf taken)⟩, rest) ∧
      (0 < balance + sumOf taken ∨ rest = []) ∧
      ∀ l, l <+: taken → l ≠ taken → balance + sumOf l ≤ 0 := by
  induction rows generalizing pending balance with
  | nil =>
    refine ⟨[], [], rfl, ?_, .inr rfl, fun l hl hne => absurd (prefix_nil.mp hl) hne⟩
    have hmax : max 0 (balance + sumOf []) = 0 := max_eq_left (by simpa [sumOf] using hbal)
    rw [hmax, append_nil]
    rfl
  | cons row rows ih =>
    have hnil : balance + sumOf [] ≤ 0 := by simpa [sumOf] using hbal
    unfold closeGroup
    by_cases hcls : 0 < balance + row.amount
    · have hsum : balance + sumOf [row] = balance + row.amount := by simp [sumOf]
      refine ⟨[row], rows, rfl, ?_, .inl (hsum ▸ hcls), fun l hl hne => ?_⟩
      · rw [if_pos hcls, hsum, max_eq_right hcls.le]
      · rcases prefix_cons_iff.mp hl with rfl | ⟨t, rfl, ht⟩
        · exact hnil
        · exact absurd (congrArg (row :: ·) (prefix_nil.mp ht)) hne
    · obtain ⟨taken, rest, rfl, hclose, _, hshort⟩ :=
        ih (by omega : balance + row.amount ≤ 0) (pending ++ [row])
      have hsum (l : List ConfirmedBill) :
          balance + sumOf (row :: l) = balance + row.amount + sumOf l := by
        rw [sumOf_cons, add_assoc]
      refine ⟨row :: taken, rest, rfl, ?_, by rwa [hsum], fun l hl hne => ?_⟩
      · rw [if_neg hcls, hclose, hsum, append_assoc]
        rfl
      · rcases prefix_cons_iff.mp hl with rfl | ⟨t, rfl, ht⟩
        · exact hnil
        · rw [hsum]
          exact hshort t ht fun heq => hne (congrArg (row :: ·) heq)

/-- The negative months of a store with the positive months `taken` that offset them, and the
positive months `rest`, each alone. -/
def offsetGroups (negative taken rest : List ConfirmedBill) : List DraftGroup :=
  (if negative = [] then [] else [⟨negative ++ taken, max 0 (sumOf (negative ++ taken))⟩]) ++
    rest.map fun row => ⟨[row], row.amount⟩

/-- `taken` is empty when there is nothing to offset, and else the shortest start of the positive
months that offsets the negative ones. -/
structure OffsetBy (negative taken rest : List ConfirmedBill) : Prop where
  idle : negative = [] → taken = []
  enough : negative ≠ [] → 0 < sumOf (negative ++ taken) ∨ rest = []
  shortest : ∀ l, l <+: taken → l ≠ taken → sumOf (negative ++ l) ≤ 0

theorem storeGroups_spec (rows : List ConfirmedBill) :
    ∃ taken rest, (rows.filter fun row => 0 < row.amount) = taken ++ rest ∧
      OffsetBy (rows.filter fun row => row.amount < 0) taken rest ∧
      storeGroups rows = offsetGroups (rows.filter fun row => row.amount < 0) taken rest := by
  unfold storeGroups offsetGroups
  by_cases hnone : (rows.filter fun row => row.amount < 0) = []
  · refine ⟨[], _, rfl, ⟨fun _ => rfl, fun h => absurd hnone h,
      fun l hl hne => absurd (prefix_nil.mp hl) hne⟩, ?_⟩
    rw [if_pos (by rw [hnone]; rfl), if_pos hnone, nil_append]
  · have hbal : sumOf (rows.filter fun row => row.amount < 0) ≤ 0 := by
      refine (sum_le_card_nsmul _ 0 fun x hx => ?_).trans (nsmul_zero _).le
      obtain ⟨row, hrow, rfl⟩ := mem_map.mp hx
      exact (of_decide_eq_true (mem_filter.mp hrow).2).le
    obtain ⟨taken, rest, hspl, hclose, _, hshort⟩ := closeGroup_spec hbal
      (rows.filter fun row => row.amount < 0) (rows.filter fun row => 0 < row.amount)
    refine ⟨taken, rest, hspl, ⟨fun h => absurd h hnone, fun _ => by rwa [sumOf_append],
      fun l hl hne => by rw [sumOf_append]; exact hshort l hl hne⟩, ?_⟩
    rw [if_neg (by rwa [List.isEmpty_iff]), if_neg hnone, sumOf_append]
    exact congrArg (fun closed : DraftGroup × List ConfirmedBill =>
      closed.1 :: closed.2.map fun row => DraftGroup.mk [row] row.amount) hclose

theorem storeGroups_amount {rows : List ConfirmedBill} {d : DraftGroup} (hd : d ∈ storeGroups rows)
    (hpos : 0 < d.invoiceableAmountCent) : d.invoiceableAmountCent = sumOf d.members := by
  obtain ⟨_, _, -, -, hgrps⟩ := storeGroups_spec rows
  rw [hgrps] at hd
  rcases mem_append.mp hd with hd | hd
  · split at hd
    · cases hd
    · rw [mem_singleton.mp hd] at hpos ⊢
      dsimp only at hpos ⊢
      omega
  · obtain ⟨_, _, rfl⟩ := mem_map.mp hd
    simp [sumOf]

/-- The groups of a store hold its negative and its positive months. -/
theorem storeGroups_members (rows : List ConfirmedBill) :
    (storeGroups rows).flatMap DraftGroup.members =
      (rows.filter fun row => row.amount < 0) ++ rows.filter fun row => 0 < row.amount := by
  obtain ⟨_, rest, hspl, hoffs, hgrps⟩ := storeGroups_spec rows
  have halone : (rest.map fun row => DraftGroup.mk [row] row.amount).flatMap DraftGroup.members =
      rest := by
    rw [flatMap_map]
    exact flatMap_singleton' rest
  rw [hgrps, hspl, offsetGroups, flatMap_append, halone]
  split
  · rename_i hnone
    rw [hnone, hoffs.idle hnone]
    rfl
  · rw [flatMap_singleton, append_assoc]

theorem mem_rowsByStore {rows l : List ConfirmedBill} (hl : l ∈ rowsByStore rows)
    {row : ConfirmedBill} (hrow : row ∈ l) : row ∈ rows := by
  obtain ⟨_, _, rfl⟩ := mem_map.mp hl
  exact (mem_filter.mp hrow).1

theorem mem_members_draftGroups {b : Billing} {scope : PromotionScope} {row : ConfirmedBill} :
    (∃ d ∈ b.draftGroups scope, row ∈ d.members) ↔
      row ∈ b.promotionBills scope ∧ row.amount ≠ 0 := by
  have hst (rows : List ConfirmedBill) : (∃ d ∈ storeGroups rows, row ∈ d.members) ↔
      row ∈ rows ∧ row.amount ≠ 0 := by
    rw [← mem_flatMap, storeGroups_members, mem_append, mem_filter,
      mem_filter, decide_eq_true_eq, decide_eq_true_eq, ← and_or_left, ← ne_iff_lt_or_gt]
  constructor
  · rintro ⟨d, hd, hrow⟩
    obtain ⟨rows, hrows, hd⟩ := mem_flatMap.mp hd
    obtain ⟨hmem, hamt⟩ := (hst rows).mp ⟨d, hd, hrow⟩
    exact ⟨mem_rowsByStore hrows hmem, hamt⟩
  · rintro ⟨hrow, hamt⟩
    have hrows : (b.promotionBills scope).filter (fun r => r.1.storeId = row.1.storeId) ∈
        rowsByStore (b.promotionBills scope) :=
      mem_map.mpr ⟨row.1.storeId, mem_dedup.mpr (mem_map.mpr ⟨row, hrow, rfl⟩), rfl⟩
    have hown : row ∈ (b.promotionBills scope).filter fun r => r.1.storeId = row.1.storeId :=
      mem_filter.mpr ⟨hrow, decide_eq_true rfl⟩
    obtain ⟨d, hd, hmemb⟩ := (hst _).mpr ⟨hown, hamt⟩
    exact ⟨d, mem_flatMap.mpr ⟨_, hrows, hd⟩, hmemb⟩

theorem nodup_members_draftGroups (b : Billing) (scope : PromotionScope) :
    ((b.draftGroups scope).flatMap DraftGroup.members).Nodup := by
  have hbills : (b.promotionBills scope).Nodup := nodup_confirmedBills
  rw [Billing.draftGroups, flatMap_assoc]
  simp only [storeGroups_members]
  rw [nodup_flatMap]
  constructor
  · intro rows hrows
    obtain ⟨storeId, _, rfl⟩ := mem_map.mp hrows
    refine nodup_append.mpr ⟨(hbills.filter _).filter _, (hbills.filter _).filter _, ?_⟩
    rintro x hx y hy rfl
    have hneg := of_decide_eq_true (mem_filter.mp hx).2
    have hpos := of_decide_eq_true (mem_filter.mp hy).2
    omega
  · refine pairwise_map.mpr ((nodup_dedup _).imp fun {s t} hne => ?_)
    intro row hs ht
    have hst {storeId : String} (h : row ∈
        (((b.promotionBills scope).filter fun r => r.1.storeId = storeId).filter fun r =>
          r.amount < 0) ++ ((b.promotionBills scope).filter fun r => r.1.storeId = storeId).filter
            fun r => 0 < r.amount) : row.1.storeId = storeId := by
      rcases mem_append.mp h with h | h
      · exact of_decide_eq_true (mem_filter.mp (mem_filter.mp h).1).2
      · exact of_decide_eq_true (mem_filter.mp (mem_filter.mp h).1).2
    exact hne ((hst hs).symm.trans (hst ht))

/-! ### The periods of the projection -/

theorem mem_ordered {d : DraftGroup} {row : ConfirmedBill} : row ∈ d.ordered ↔ row ∈ d.members :=
  mem_insertionSort _

section Periods

variable {digest : List MemberIdentity → String} {b : Billing} {scope : PromotionScope}

theorem periodsFrom_map {α : Type*} (group : PromotionGroup) (total : Int)
    (rows : List ConfirmedBill) {f : PromotionPeriod → α} {g : ConfirmedBill → α}
    (hfg : ∀ row balance, f ⟨group, row.1.statementId, row.1.statementMonth, row.1.versionNo,
      row.2.confirmationId, row.amount, balance⟩ = g row) :
    (periodsFrom group total rows).map f = rows.map g := by
  induction rows generalizing total with
  | nil => rfl
  | cons row rows ih => rw [periodsFrom, map_cons, map_cons, ih, hfg]

/-- The period of a bill belongs to the group the bill is in. -/
theorem exists_draft_of_period {p : PromotionPeriod}
    (hp : p ∈ (b.promotionInvoiceCarryforwardProjection digest scope).periods) :
    ∃ d ∈ b.draftGroups scope, ∃ row ∈ d.members, p.group = d.group digest ∧
      p.statementId = row.1.statementId ∧ p.statementMonth = row.1.statementMonth ∧
      p.confirmedAmountCent = row.amount ∧ p.statementVersion = row.1.versionNo := by
  obtain ⟨d, hd, hp⟩ := mem_flatMap.mp hp
  have hmap := periodsFrom_map (d.group digest) 0 d.ordered
    (f := fun p => (p.group, p.statementId, p.statementMonth, p.confirmedAmountCent,
      p.statementVersion))
    (g := fun row => (d.group digest, row.1.statementId, row.1.statementMonth, row.amount,
      row.1.versionNo))
    fun _ _ => rfl
  have hmem := mem_map_of_mem hp
    (f := fun p => (p.group, p.statementId, p.statementMonth, p.confirmedAmountCent,
      p.statementVersion))
  rw [DraftGroup.periods, hmap] at hmem
  obtain ⟨row, hrow, heq⟩ := mem_map.mp hmem
  simp only [Prod.mk.injEq] at heq
  exact ⟨d, hd, row, mem_ordered.mp hrow, heq.1.symm, heq.2.1.symm, heq.2.2.1.symm,
    heq.2.2.2.1.symm, heq.2.2.2.2.symm⟩

/-- The projection offers the amounts of the bills in its groups. -/
theorem sum_periods (digest : List MemberIdentity → String) (b : Billing) (scope : PromotionScope) :
    ((b.promotionInvoiceCarryforwardProjection digest scope).periods.map
      PromotionPeriod.confirmedAmountCent).sum =
      (((b.draftGroups scope).flatMap DraftGroup.members).map ConfirmedBill.amount).sum := by
  have hdraft (d : DraftGroup) : ((d.periods digest).map PromotionPeriod.confirmedAmountCent).sum =
      (d.members.map ConfirmedBill.amount).sum := by
    rw [DraftGroup.periods, periodsFrom_map _ _ _ fun _ _ => rfl]
    exact ((perm_insertionSort _ _).map _).sum_eq
  change (((b.draftGroups scope).flatMap (DraftGroup.periods digest)).map
    PromotionPeriod.confirmedAmountCent).sum = _
  induction b.draftGroups scope with
  | nil => rfl
  | cons d drafts ih =>
    rw [flatMap_cons, flatMap_cons, map_append, map_append, sum_append, sum_append, hdraft, ih]

end Periods

/-! ### The groups of one store -/

theorem promotionBills_store {b : Billing} {filters : PromotionScope} {storeId : String} :
    ∀ row ∈ b.promotionBills { filters with storeId := some storeId }, row.1.storeId = storeId := by
  intro row hrow
  have hkeep := (mem_confirmedBills.mp hrow).1.2.2.2
  simp only [PromotionScope.covers, bool_to_prop, Option.all_some] at hkeep
  exact hkeep.2.1.1

theorem draftGroups_of_store (b : Billing) (filters : PromotionScope) (storeId : String) :
    b.draftGroups { filters with storeId := some storeId } =
      storeGroups (b.promotionBills { filters with storeId := some storeId }) := by
  unfold Billing.draftGroups
  have hst : ∀ row ∈ b.promotionBills { filters with storeId := some storeId },
      row.1.storeId = storeId := promotionBills_store
  generalize b.promotionBills { filters with storeId := some storeId } = rows at hst ⊢
  cases hrows : rows with
  | nil => rfl
  | cons first others =>
    rw [← hrows]
    have hids : rows.map (fun row => row.1.storeId) = replicate rows.length storeId := by
      refine eq_replicate_iff.mpr ⟨length_map _, fun id hid => ?_⟩
      obtain ⟨row, hrow, rfl⟩ := mem_map.mp hid
      exact hst row hrow
    have hown : rows.filter (fun row => row.1.storeId = storeId) = rows :=
      filter_eq_self.mpr fun row hrow => decide_eq_true (hst row hrow)
    rw [rowsByStore, hids, replicate_dedup (by simp [hrows]), map_singleton, hown,
      flatMap_singleton]

theorem signs_perm (rows : List ConfirmedBill) :
    ((rows.filter fun row => row.amount < 0) ++ rows.filter fun row => 0 < row.amount).Perm
      (rows.filter fun row => row.amount ≠ 0) := by
  refine Perm.trans (Perm.of_eq ?_)
    (filter_append_perm (fun row => row.amount < 0) (rows.filter fun row => row.amount ≠ 0))
  rw [filter_filter, filter_filter]
  congr 1 <;> refine filter_congr fun row _ => ?_ <;> rw [Bool.eq_iff_iff] <;> simp <;> omega

theorem sumOf_signs (rows : List ConfirmedBill) :
    sumOf (rows.filter fun row => row.amount < 0) + sumOf (rows.filter fun row => 0 < row.amount) =
      sumOf rows := by
  induction rows with
  | nil => rfl
  | cons row rows ih =>
    rw [sumOf_cons, ← ih]
    rcases lt_trichotomy row.amount 0 with h | h | h
    · simp [h, h.le, sumOf_cons, add_assoc]
    · simp [h]
    · simp [h, h.le, sumOf_cons]
      omega

theorem sum_invoiceable {negative taken rest : List ConfirmedBill}
    (h : OffsetBy negative taken rest) (hposi : ∀ row ∈ taken ++ rest, 0 < row.amount) :
    ((offsetGroups negative taken rest).map DraftGroup.invoiceableAmountCent).sum =
      max 0 (sumOf negative + sumOf (taken ++ rest)) := by
  have hrest : 0 ≤ sumOf rest := by
    refine sum_nonneg fun x hx => ?_
    obtain ⟨row, hrow, rfl⟩ := mem_map.mp hx
    exact (hposi row (mem_append_right _ hrow)).le
  have halone : ((rest.map fun row => DraftGroup.mk [row] row.amount).map
      DraftGroup.invoiceableAmountCent).sum = sumOf rest := by
    rw [map_map]
    rfl
  rw [offsetGroups, map_append, sum_append, halone, sumOf_append]
  split
  · rename_i hnone
    rw [hnone, h.idle hnone]
    simpa [sumOf] using hrest
  · rename_i hsome
    -- months stand alone only when the others are above zero together
    have henou := h.enough hsome
    rw [sumOf_append] at henou ⊢
    rw [map_singleton, sum_singleton]
    dsimp only
    rcases henou with hpos | rfl
    · omega
    · simp [sumOf]

/-- The groups of a store partition its uninvoiced months with an amount.  The negative months are
together with the oldest positive months that offset them, and no group is worth more than its
months. -/
theorem promotion_groups_offset_oldest_months (digest : List MemberIdentity → String) (b : Billing)
    (filters : PromotionScope) (storeId : String) :
    let scope := { filters with storeId := some storeId }
    let rows := b.promotionBills scope
    let negative := rows.filter fun row => row.amount < 0
    let groups := (b.promotionInvoiceCarryforwardProjection digest scope).groups
    (rows.Pairwise fun x y => x.1.statementMonth ≤ y.1.statementMonth) ∧
    (groups.flatMap PromotionGroup.requiredStatementIds).Perm
      ((rows.filter fun row => row.amount ≠ 0).map fun row => row.1.statementId) ∧
    (∃ taken rest, (rows.filter fun row => 0 < row.amount) = taken ++ rest ∧
      OffsetBy negative taken rest ∧
      groups = (offsetGroups negative taken rest).map (DraftGroup.group digest)) ∧
    (∀ g ∈ groups, 0 < g.invoiceableAmountCent →
      g.invoiceableAmountCent = g.positiveAmountCent + g.negativeAmountCent) ∧
    (groups.map PromotionGroup.invoiceableAmountCent).sum = max 0 (sumOf rows) := by
  intro scope rows negative groups
  have hgroups : groups = (storeGroups rows).map (DraftGroup.group digest) :=
    congrArg (map _) (draftGroups_of_store b filters storeId)
  obtain ⟨taken, rest, hsplit, hoffset, hspec⟩ := storeGroups_spec rows
  refine ⟨?_, ?_, ⟨taken, rest, hsplit, hoffset, by rw [hgroups, hspec]⟩, ?_, ?_⟩
  · refine List.Pairwise.imp_of_mem (fun hx hy horder => ?_) pairwise_confirmedBills
    exact month_le_of_billOrder ((promotionBills_store _ hx).trans
      (promotionBills_store _ hy).symm) horder
  · have hids (d : DraftGroup) : (d.group digest).requiredStatementIds.Perm
        (d.members.map fun row => row.1.statementId) := (perm_insertionSort _ _).map _
    rw [hgroups, flatMap_map]
    refine Perm.trans (Perm.flatMap_left _ fun d _ => hids d) ?_
    rw [← map_flatMap, storeGroups_members]
    exact (signs_perm rows).map _
  · intro g hg hpos
    rw [hgroups] at hg
    obtain ⟨d, hd, rfl⟩ := mem_map.mp hg
    have hmembers : sumOf d.ordered = sumOf d.members :=
      ((perm_insertionSort _ _).map _).sum_eq
    have hsigns : (d.ordered.map fun row => max row.amount 0).sum +
        (d.ordered.map fun row => min row.amount 0).sum = sumOf d.ordered := by
      rw [← sum_map_add]
      exact congrArg sum (map_congr_left fun row _ => max_add_min row.amount 0 |>.trans
        (add_zero _))
    exact (storeGroups_amount hd hpos).trans (hmembers.symm.trans hsigns.symm)
  · rw [hgroups, map_map, ← sumOf_signs, hsplit]
    have hpositive : ∀ row ∈ taken ++ rest, 0 < row.amount := by
      rw [← hsplit]
      exact fun row hrow => of_decide_eq_true (mem_filter.mp hrow).2
    have hsum := sum_invoiceable hoffset hpositive
    rw [← hspec] at hsum
    exact hsum

end DyData.Settlement
