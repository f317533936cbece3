import DyData.ConfirmedBills
import DyData.FifoNetting

/-!
What of the confirmed management fees can be invoiced.  The bills of a store are taken month by
month; months with an invoice stay out, negative months reduce the earliest positive month that
has none, and what they do not use up is carried to later months.
-/

namespace DyData.Settlement

open Relational FifoNetting List

variable {rows done : List ConfirmedBill}

variable {p : Projection} {storeId : String} {positives : Queue (String × Month)}
  {row : ConfirmedBill}

/-- The arguments of `_management_invoiceable_projection`. -/
structure ProjectionScope where
  storeId : Option String := none
  storeIds : Option (List String) := none
  throughMonth : Option Month := none
  excludedInvoiceIds : List String := []
  statementIds : Option (List String) := none

def ProjectionScope.covers (scope : ProjectionScope) (s : Statement) : Bool :=
  scope.storeId.all (fun id => s.storeId = id) &&
  scope.storeIds.all (fun ids => ids.contains s.storeId) &&
  scope.throughMonth.all (fun month => s.statementMonth ≤ month) &&
  scope.statementIds.all (fun ids => ids.contains s.statementId)

def storeScope (storeId : String) : ProjectionScope := { storeId := some storeId }

def horizon (storeId : String) (month : Month) : ProjectionScope :=
  { storeId := some storeId, throughMonth := some month }

structure Period where
  storeId : String
  statementId : String
  statementMonth : Month
  confirmedAmountCent : Int
  invoiceId : Option String
  invoiceVersion : Option Nat
  invoiceableAmountCent : Int := 0
  carryforwardBalanceCent : Int := 0
deriving DecidableEq

structure ProjectedApplication where
  storeId : String
  sourceStatementId : String
  sourceStatementMonth : Month
  targetStatementId : String
  targetStatementMonth : Month
  invoiceId : Option String
  appliedAmountCent : Int
deriving DecidableEq

structure Projection where
  currentStoreId : Option String := none
  pending : Tally (String × Month) := ⟨[], []⟩
  periods : List Period := []
  applications : List ProjectedApplication := []

def Billing.managementBills (b : Billing) (scope : ProjectionScope) : List ConfirmedBill :=
  b.confirmedBills .management scope.covers

def InvoiceRecord.isCompleted (r : InvoiceRecord) : Bool :=
  r.feeDirection = .management && r.isCurrent && !r.isTombstone &&
  r.invoiceStatus = .approvedSettled && decide (0 < r.invoiceAmountCent)

/-- `current_invoices`. -/
def Billing.scopedInvoices (b : Billing) (scope : ProjectionScope) : List InvoiceRecord :=
  let ids := (b.managementBills scope).map fun row => row.1.statementId
  b.invoiceRecords.rows.filter fun r => ids.contains r.statementId && r.isCompleted &&
    !scope.excludedInvoiceIds.contains r.invoiceId

/-- `locked_application_rows`: what went into one of those invoices. -/
def Billing.lockedApplications (b : Billing) (scope : ProjectionScope) :
    List ManagementApplication :=
  let ids := (b.scopedInvoices scope).map InvoiceRecord.invoiceId
  b.managementApplications.rows.filter fun a => a.isCurrent && a.invoiceId.any ids.contains

/-- `invoices_by_statement`. -/
def invoiceOf (invoices : List InvoiceRecord) (statementId : String) : Option InvoiceRecord :=
  invoices.reverse.find? fun r => r.statementId = statementId

/-- `reserved_negative_by_statement`. -/
def reservedOf (locked : List ManagementApplication) (statementId : String) : Int :=
  ((locked.filter fun a => a.sourceStatementId = statementId).map
    ManagementApplication.appliedAmountCent).sum

def ManagementApplication.projected (a : ManagementApplication) : ProjectedApplication where
  storeId := a.storeId
  sourceStatementId := a.sourceStatementId
  sourceStatementMonth := a.sourceStatementMonth
  targetStatementId := a.targetStatementId
  targetStatementMonth := a.targetStatementMonth
  invoiceId := a.invoiceId
  appliedAmountCent := a.appliedAmountCent

def billKey (row : ConfirmedBill) : String × Month := (row.1.statementId, row.1.statementMonth)

def Period.key (p : Period) : String × Month := (p.statementId, p.statementMonth)

def openPeriod (invoices : List InvoiceRecord) (row : ConfirmedBill) : Period where
  storeId := row.1.storeId
  statementId := row.1.statementId
  statementMonth := row.1.statementMonth
  confirmedAmountCent := row.2.confirmedAmountCent
  invoiceId := (invoiceOf invoices row.1.statementId).map InvoiceRecord.invoiceId
  invoiceVersion := (invoiceOf invoices row.1.statementId).map InvoiceRecord.versionNo

def Projection.enter (p : Projection) (storeId : String) : Projection :=
  if p.currentStoreId = some storeId then p
  else { p with currentStoreId := some storeId, pending := ⟨[], []⟩ }

def application (storeId : String) (source target : String × Month) (applied : Int) :
    ProjectedApplication where
  storeId := storeId
  sourceStatementId := source.1
  sourceStatementMonth := source.2
  targetStatementId := target.1
  targetStatementMonth := target.2
  invoiceId := none
  appliedAmountCent := applied

def Period.reduce (r : Offset (String × Month)) (p : Period) : Period :=
  if r.taken.any fun t => t.1 = p.key then
    { p with invoiceableAmountCent := Tally.pendingOf r.queue p.key }
  else p

def projectBill (invoices : List InvoiceRecord) (locked : List ManagementApplication)
    (p : Projection) (row : ConfirmedBill) : Projection :=
  let p := p.enter row.1.storeId
  let amount := row.2.confirmedAmountCent
  let period := openPeriod invoices row
  if 0 < amount then
    if period.invoiceId.isSome then { p with periods := p.periods ++ [period] }
    else
      let r := offset amount p.pending.negatives
      { p with
        pending := ⟨Tally.join p.pending.positives (billKey row) r.left, r.queue⟩
        periods := p.periods ++ [{ period with invoiceableAmountCent := r.left }]
        applications := p.applications ++ r.taken.map fun (source, applied) =>
          application row.1.storeId source (billKey row) applied }
  else if amount < 0 then
    let r := offset (max (-amount - reservedOf locked row.1.statementId) 0) p.pending.positives
    { p with
      pending := ⟨r.queue, Tally.join p.pending.negatives (billKey row) r.left⟩
      periods := p.periods.map (Period.reduce r) ++
        [{ period with carryforwardBalanceCent := -r.left }]
      applications := p.applications ++ r.taken.map fun (target, applied) =>
        application row.1.storeId (billKey row) target applied }
  else { p with periods := p.periods ++ [period] }

def Billing.managementInvoiceableProjection (b : Billing) (scope : ProjectionScope) : Projection :=
  (b.managementBills scope).foldl
    (projectBill (b.scopedInvoices scope) (b.lockedApplications scope))
    { applications := (b.lockedApplications scope).map ManagementApplication.projected }

/-! ### The walk as netting -/

/-- What a bill brings: nothing when it is invoiced, and less what is reserved when negative. -/
def signedAmount (invoices : List InvoiceRecord) (locked : List ManagementApplication)
    (row : ConfirmedBill) : Int :=
  let amount := row.2.confirmedAmountCent
  if 0 < amount then
    if (invoiceOf invoices row.1.statementId).isSome then 0 else amount
  else if amount < 0 then -max (-amount - reservedOf locked row.1.statementId) 0
  else 0

/-- Two lists whose elements correspond have a partner for each element. -/
theorem exists_of_forall₂ {α β : Type*} {R : α → β → Prop} {l : List α} {l' : List β}
    (h : Forall₂ R l l') : (∀ a ∈ l, ∃ b ∈ l', R a b) ∧ ∀ b ∈ l', ∃ a ∈ l, R a b := by
  induction h with
  | nil => exact ⟨nofun, nofun⟩
  | @cons a b l l' hab _ ih =>
    constructor
    · intro c hc
      rcases mem_cons.mp hc with rfl | hc
      · exact ⟨b, mem_cons_self, hab⟩
      · obtain ⟨d, hd, hcd⟩ := ih.1 c hc
        exact ⟨d, mem_cons_of_mem _ hd, hcd⟩
    · intro d hd
      rcases mem_cons.mp hd with rfl | hd
      · exact ⟨a, mem_cons_self, hab⟩
      · obtain ⟨c, hc, hcd⟩ := ih.2 d hd
        exact ⟨c, mem_cons_of_mem _ hc, hcd⟩

section Walk

variable {invoices : List InvoiceRecord} {locked : List ManagementApplication}

theorem openPeriod_invoiceId_isSome (row : ConfirmedBill) :
    (openPeriod invoices row).invoiceId.isSome = (invoiceOf invoices row.1.statementId).isSome := by
  rw [openPeriod, Option.isSome_map]

theorem pending_projectBill (p : Projection) (row : ConfirmedBill) :
    (projectBill invoices locked p row).pending =
      (p.enter row.1.storeId).pending.step (billKey row, signedAmount invoices locked row) := by
  unfold projectBill signedAmount Tally.step
  dsimp only
  rw [openPeriod_invoiceId_isSome]
  by_cases hpos : 0 < row.2.confirmedAmountCent
  · rw [if_pos hpos, if_pos hpos]
    by_cases hinv : (invoiceOf invoices row.1.statementId).isSome = true
    · simp [hinv]
    · simp [hinv, hpos]
  · rw [if_neg hpos, if_neg hpos]
    by_cases hneg : row.2.confirmedAmountCent < 0
    · rw [if_pos hneg, if_pos hneg]
      by_cases hleft : 0 < max (-row.2.confirmedAmountCent - reservedOf locked row.1.statementId) 0
      · rw [if_neg (by omega), if_pos (by omega), neg_neg]
      · -- a fully reserved month takes nothing
        have hzero : max (-row.2.confirmedAmountCent -
            reservedOf locked row.1.statementId) 0 = 0 := by omega
        rw [hzero]
        simp [Tally.join]
    · rw [if_neg hneg, if_neg hneg]
      simp

theorem currentStoreId_projectBill (p : Projection) (row : ConfirmedBill) :
    (projectBill invoices locked p row).currentStoreId = some row.1.storeId := by
  have henter : (p.enter row.1.storeId).currentStoreId = some row.1.storeId := by
    unfold Projection.enter
    split
    · assumption
    · rfl
  unfold projectBill
  dsimp only
  split
  · split <;> exact henter
  · split <;> exact henter

def Projection.Within (p : Projection) (storeId : String) : Prop :=
  p.currentStoreId = some storeId ∨ p.pending = ⟨[], []⟩

theorem Projection.Within.enter (h : p.Within storeId) : (p.enter storeId).pending = p.pending := by
  unfold Projection.enter
  split
  · rfl
  · rcases h with h | h
    · contradiction
    · exact h.symm

/-- Over the bills of one store the walk nets their amounts. -/
theorem pending_foldl (hst : ∀ row ∈ rows, row.1.storeId = storeId) (hp : p.Within storeId) :
    (rows.foldl (projectBill invoices locked) p).pending =
      p.pending.run (rows.map fun row => (billKey row, signedAmount invoices locked row)) := by
  induction rows generalizing p with
  | nil => rfl
  | cons row rows ih =>
    have hrow := hst row mem_cons_self
    have hnext : (projectBill invoices locked p row).Within storeId :=
      .inl (by rw [currentStoreId_projectBill, hrow])
    rw [foldl_cons, ih (fun r hr => hst r (mem_cons_of_mem _ hr)) hnext,
      pending_projectBill, hrow, hp.enter]
    rfl

/-! ### What the periods say -/

structure PeriodOf (invoices : List InvoiceRecord) (positives : Queue (String × Month))
    (row : ConfirmedBill) (p : Period) : Prop where
  storeId : p.storeId = row.1.storeId
  statementId : p.statementId = row.1.statementId
  statementMonth : p.statementMonth = row.1.statementMonth
  confirmed : p.confirmedAmountCent = row.2.confirmedAmountCent
  invoice : p.invoiceId = (invoiceOf invoices row.1.statementId).map InvoiceRecord.invoiceId
  invoiceable : p.invoiceableAmountCent = Tally.pendingOf positives (billKey row)

theorem PeriodOf.key {p : Period} (h : PeriodOf invoices positives row p) :
    p.key = billKey row := by
  rw [Period.key, billKey, h.statementId, h.statementMonth]

theorem periodOf_openPeriod {x y : Int} (hx : x = Tally.pendingOf positives (billKey row)) :
    PeriodOf invoices positives row { openPeriod invoices row with
      invoiceableAmountCent := x, carryforwardBalanceCent := y } :=
  ⟨rfl, rfl, rfl, rfl, rfl, hx⟩

/-- What holds after the bills `done` of a store. -/
structure Walked (invoices : List InvoiceRecord) (storeId : String) (done : List ConfirmedBill)
    (p : Projection) : Prop where
  within : p.Within storeId
  sound : p.pending.Sound
  owners : ∀ i ∈ p.pending.positives.map Prod.fst, i ∈ done.map billKey
  periods : Forall₂ (PeriodOf invoices p.pending.positives) done p.periods

theorem forall₂_periodOf {positives' : Queue (String × Month)} {periods : List Period}
    (h : Forall₂ (PeriodOf invoices positives) done periods)
    (hsame : ∀ row ∈ done, Tally.pendingOf positives' (billKey row) = Tally.pendingOf positives
      (billKey row)) :
    Forall₂ (PeriodOf invoices positives') done periods := by
  induction h with
  | nil => exact .nil
  | cons hrow _ ih =>
    refine .cons { hrow with invoiceable := ?_ } (ih fun r hr => hsame r (mem_cons_of_mem _ hr))
    rw [hrow.invoiceable, hsame _ mem_cons_self]

theorem forall₂_reduce {amount : Int} {periods : List Period}
    (h : Forall₂ (PeriodOf invoices positives) done periods) :
    Forall₂ (PeriodOf invoices (offset amount positives).queue) done
      (periods.map (Period.reduce (offset amount positives))) := by
  induction h with
  | nil => exact .nil
  | @cons row p done periods hrow _ ih =>
    refine .cons ?_ ih
    unfold Period.reduce
    split
    · exact { hrow with invoiceable := by rw [hrow.key] }
    · rename_i htaken
      refine { hrow with invoiceable := ?_ }
      rw [hrow.invoiceable, Tally.pendingOf_offset]
      rw [← hrow.key]
      intro hmem
      obtain ⟨t, ht, htkey⟩ := mem_map.mp hmem
      exact htaken (any_eq_true.mpr ⟨t, ht, decide_eq_true htkey⟩)

theorem Walked.step (h : Walked invoices storeId done p) (hst : row.1.storeId = storeId)
    (hnew : billKey row ∉ done.map billKey) :
    Walked invoices storeId (done ++ [row]) (projectBill invoices locked p row) := by
  have henter := h.within.enter
  have hpendi : (projectBill invoices locked p row).pending =
      p.pending.step (billKey row, signedAmount invoices locked row) := by
    rw [pending_projectBill, hst, henter]
  have hsnd : (projectBill invoices locked p row).pending.Sound := by
    rw [hpendi]
    exact (h.sound.step _).1
  have hfr : billKey row ∉ p.pending.positives.map Prod.fst := fun hi => hnew (h.owners _ hi)
  have hoth : ∀ r ∈ done, billKey r ≠ billKey row :=
    fun r hr heq => hnew (heq ▸ mem_map_of_mem hr)
  have happ : ∀ {positives : Queue (String × Month)} {periods : List Period} {last : Period},
      Forall₂ (PeriodOf invoices positives) done periods →
      PeriodOf invoices positives row last →
      Forall₂ (PeriodOf invoices positives) (done ++ [row]) (periods ++ [last]) :=
    fun hdone hlast => rel_append hdone (.cons hlast .nil)
  refine ⟨.inl (by rw [currentStoreId_projectBill, hst]), hsnd, ?_, ?_⟩
  · intro i hi
    rw [hpendi] at hi
    rw [map_append, map_singleton, mem_append, mem_singleton]
    rcases Tally.owners_step _ _ i hi with hi | hi
    · exact .inl (h.owners i hi)
    · exact .inr hi.1
  · have hper : (p.enter row.1.storeId).periods = p.periods := by
      unfold Projection.enter
      split <;> rfl
    have hpend : (p.enter row.1.storeId).pending = p.pending := by rw [hst, henter]
    unfold projectBill
    dsimp only
    rw [hpend, hper]
    by_cases hpos : 0 < row.2.confirmedAmountCent
    · rw [if_pos hpos]
      split
      · exact happ h.periods (periodOf_openPeriod (Tally.pendingOf_eq_zero hfr).symm)
      · have hleft := (offset_spec hpos.le h.sound.negatives).1
        refine happ (forall₂_periodOf h.periods fun r hr => Tally.pendingOf_join (hoth r hr)) ?_
        exact periodOf_openPeriod (Tally.pendingOf_join_self (by omega) hfr).symm
    · rw [if_neg hpos]
      split
      · refine happ (forall₂_reduce h.periods) ?_
        refine periodOf_openPeriod (Tally.pendingOf_eq_zero fun hi => hfr ?_).symm
        exact (queue_keys_sublist _ _).subset hi
      · exact happ h.periods (periodOf_openPeriod (Tally.pendingOf_eq_zero hfr).symm)

theorem Walked.foldl (h : Walked invoices storeId done p)
    (hst : ∀ row ∈ rows, row.1.storeId = storeId) (hnd : ((done ++ rows).map billKey).Nodup) :
    Walked invoices storeId (done ++ rows) (rows.foldl (projectBill invoices locked) p) := by
  induction rows generalizing done p with
  | nil => simpa using h
  | cons row rows ih =>
    have hassoc : done ++ row :: rows = (done ++ [row]) ++ rows := by simp
    have hnew : billKey row ∉ done.map billKey := by
      rw [map_append] at hnd
      intro hmem
      exact (nodup_append.mp hnd).2.2 _ hmem _ mem_cons_self rfl
    rw [hassoc] at hnd ⊢
    exact ih (h.step (hst row mem_cons_self) hnew)
      (fun r hr => hst r (mem_cons_of_mem _ hr)) hnd

/-! ### Invoiced months are not offered -/

theorem signedAmount_pos (h : 0 < signedAmount invoices locked row) :
    0 < row.2.confirmedAmountCent ∧ invoiceOf invoices row.1.statementId = none := by
  unfold signedAmount at h
  dsimp only at h
  split at h
  · rename_i hpos
    split at h
    · omega
    · rename_i hinv
      exact ⟨hpos, Option.not_isSome_iff_eq_none.mp hinv⟩
  · split at h <;> omega

structure Period.IsOf (q : Period) (row : ConfirmedBill) : Prop where
  storeId : q.storeId = row.1.storeId
  statementId : q.statementId = row.1.statementId
  statementMonth : q.statementMonth = row.1.statementMonth

structure Offered (invoices : List InvoiceRecord) (done : List ConfirmedBill) (p : Projection) :
    Prop where
  owners : ∀ i ∈ p.pending.positives.map Prod.fst, ∃ row ∈ done, billKey row = i ∧
    0 < row.2.confirmedAmountCent ∧ invoiceOf invoices row.1.statementId = none
  periods : ∀ q ∈ p.periods, (∃ row ∈ done, q.IsOf row) ∧
    (q.invoiceableAmountCent ≠ 0 → invoiceOf invoices q.statementId = none)

section

variable (h : Offered invoices done p)
include h

theorem Offered.enter (storeId : String) : Offered invoices done (p.enter storeId) := by
  unfold Projection.enter
  split
  · exact h
  · exact ⟨nofun, h.periods⟩

theorem Offered.reduce (amount : Int) {q : Period}
    (hq : q ∈ p.periods.map (Period.reduce (offset amount p.pending.positives))) :
    (∃ row ∈ done, q.IsOf row) ∧
      (q.invoiceableAmountCent ≠ 0 → invoiceOf invoices q.statementId = none) := by
  obtain ⟨old, hold, rfl⟩ := mem_map.mp hq
  obtain ⟨⟨row, hrow, hof⟩, hnone⟩ := h.periods old hold
  unfold Period.reduce
  split
  · rename_i htaken
    refine ⟨⟨row, hrow, hof.storeId, hof.statementId, hof.statementMonth⟩, fun _ => ?_⟩
    obtain ⟨_, ht, hkey⟩ := any_eq_true.mp htaken
    have hpend : old.key ∈ p.pending.positives.map Prod.fst := by
      refine (taken_keys_sublist amount _).subset ?_
      rw [← of_decide_eq_true hkey]
      exact mem_map_of_mem ht
    obtain ⟨owner, _, hownerKey, _, hinv⟩ := h.owners _ hpend
    have hid : owner.1.statementId = old.statementId := congrArg Prod.fst hownerKey
    rw [hid] at hinv
    exact hinv
  · exact ⟨⟨row, hrow, hof⟩, hnone⟩

theorem Offered.step (row : ConfirmedBill) :
    Offered invoices (done ++ [row]) (projectBill invoices locked p row) := by
  have henter := h.enter row.1.storeId
  have hlast : row ∈ done ++ [row] := mem_append_right _ mem_cons_self
  have hopen (x y : Int) : (({ openPeriod invoices row with
      invoiceableAmountCent := x, carryforwardBalanceCent := y } : Period)).IsOf row :=
    ⟨rfl, rfl, rfl⟩
  constructor
  · intro i hi
    rw [pending_projectBill] at hi
    rcases Tally.owners_step _ _ i hi with hi | ⟨rfl, hpos⟩
    · obtain ⟨owner, hown, hrest⟩ := henter.owners i hi
      exact ⟨owner, mem_append_left _ hown, hrest⟩
    · exact ⟨row, hlast, rfl, signedAmount_pos hpos⟩
  · have hold : ∀ q ∈ (p.enter row.1.storeId).periods, (∃ r ∈ done ++ [row], q.IsOf r) ∧
        (q.invoiceableAmountCent ≠ 0 → invoiceOf invoices q.statementId = none) := by
      intro q hq
      obtain ⟨⟨r, hr, hof⟩, hnone⟩ := henter.periods q hq
      exact ⟨⟨r, mem_append_left _ hr, hof⟩, hnone⟩
    intro q hq
    unfold projectBill at hq
    dsimp only at hq
    rw [openPeriod_invoiceId_isSome] at hq
    by_cases hpos : 0 < row.2.confirmedAmountCent
    · rw [if_pos hpos] at hq
      split at hq
      · rcases mem_append.mp hq with hq | hq
        · exact hold q hq
        · rw [mem_singleton.mp hq]
          exact ⟨⟨row, hlast, hopen 0 0⟩, fun hne => absurd rfl hne⟩
      · rename_i hinv
        rcases mem_append.mp hq with hq | hq
        · exact hold q hq
        · rw [mem_singleton.mp hq]
          exact ⟨⟨row, hlast, hopen _ 0⟩, fun _ => Option.not_isSome_iff_eq_none.mp hinv⟩
    · rw [if_neg hpos] at hq
      split at hq
      · rcases mem_append.mp hq with hq | hq
        · obtain ⟨⟨r, hr, hof⟩, hnone⟩ := henter.reduce _ hq
          exact ⟨⟨r, mem_append_left _ hr, hof⟩, hnone⟩
        · rw [mem_singleton.mp hq]
          exact ⟨⟨row, hlast, hopen 0 _⟩, fun hne => absurd rfl hne⟩
      · rcases mem_append.mp hq with hq | hq
        · exact hold q hq
        · rw [mem_singleton.mp hq]
          exact ⟨⟨row, hlast, hopen 0 0⟩, fun hne => absurd rfl hne⟩

theorem Offered.foldl :
    Offered invoices (done ++ rows) (rows.foldl (projectBill invoices locked) p) := by
  induction rows generalizing done p with
  | nil => simpa using h
  | cons row rows ih =>
    have hassoc : done ++ row :: rows = (done ++ [row]) ++ rows := by simp
    rw [hassoc]
    exact ih (h.step row)

end

theorem offered_projection (b : Billing) (scope : ProjectionScope) :
    Offered (b.scopedInvoices scope) (b.managementBills scope)
      (b.managementInvoiceableProjection scope) := by
  have hst0 : Offered (b.scopedInvoices scope) []
      { applications := (b.lockedApplications scope).map ManagementApplication.projected } :=
    ⟨nofun, nofun⟩
  exact hst0.foldl

end Walk

end DyData.Settlement
