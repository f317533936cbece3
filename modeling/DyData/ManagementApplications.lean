import DyData.ManagementInvoices

/-!
What the projection newly applies, and what a synchronisation makes of it.  The part of a negative
month that no invoice has reserved is applied at most once in one projection.
-/

namespace DyData.Settlement

open Relational FifoNetting List

variable {t t' : ApplicationTable} {done : List ProjectedApplication} {a : ManagementApplication}

variable {p : Projection} {row : ConfirmedBill} {d : ProjectedApplication}

/-! ### New applications of a projection -/

def ProjectedApplication.source (a : ProjectedApplication) : String × Month :=
  (a.sourceStatementId, a.sourceStatementMonth)

def ProjectedApplication.target (a : ProjectedApplication) : String × Month :=
  (a.targetStatementId, a.targetStatementMonth)

def appliedFrom (applications : List ProjectedApplication) (source : String × Month) : Int :=
  ((applications.filter fun a => a.source = source).map ProjectedApplication.appliedAmountCent).sum

/-- The application that a part of a negative month is set off with. -/
def moved (storeId : String) (m : Tally.Move (String × Month)) : ProjectedApplication :=
  application storeId m.source m.target m.amount

theorem appliedFrom_moved (storeId : String) (log : List (Tally.Move (String × Month)))
    (source : String × Month) :
    appliedFrom (log.map (moved storeId)) source = heldBy (Tally.bySource log) source := by
  simp [appliedFrom, heldBy, Tally.bySource, filter_map, Function.comp_def, moved, application,
    ProjectedApplication.source]

section Walk

variable {invoices : List InvoiceRecord} {locked : List ManagementApplication} {storeId : String}

structure FreshApplication (invoices : List InvoiceRecord) (storeId : String)
    (done : List ConfirmedBill) (a : ProjectedApplication) : Prop where
  storeId : a.storeId = storeId
  invoiceId : a.invoiceId = none
  positive : 0 < a.appliedAmountCent
  source : ∃ row ∈ done, billKey row = a.source
  target : ∃ row ∈ done, billKey row = a.target ∧
    invoiceOf invoices row.1.statementId = none

theorem applications_projectBill (hp : p.Within row.1.storeId) :
    (projectBill invoices locked p row).applications = p.applications ++
      (p.pending.moves (billKey row, signedAmount invoices locked row)).map
        (moved row.1.storeId) := by
  have hpend := hp.enter
  have happs : (p.enter row.1.storeId).applications = p.applications := by
    unfold Projection.enter
    split <;> rfl
  have hnone : p.pending.moves (billKey row, 0) = [] := by simp [Tally.moves]
  unfold projectBill signedAmount
  dsimp only
  rw [openPeriod_invoiceId_isSome, hpend, happs]
  by_cases hpos : 0 < row.2.confirmedAmountCent
  · rw [if_pos hpos]
    split
    · rw [hnone, map_nil, append_nil]
    · rw [Tally.moves, if_pos hpos, map_map]
      rfl
  · rw [if_neg hpos, if_neg hpos]
    by_cases hneg : row.2.confirmedAmountCent < 0
    · rw [if_pos hneg, if_pos hneg, Tally.moves, if_neg (by omega), neg_neg, map_map]
      rfl
    · rw [if_neg hneg, if_neg hneg, hnone, map_nil, append_nil]

theorem applications_foldl {rows : List ConfirmedBill}
    (hst : ∀ row ∈ rows, row.1.storeId = storeId) (hp : p.Within storeId) :
    (rows.foldl (projectBill invoices locked) p).applications = p.applications ++
      (p.pending.log (rows.map fun row => (billKey row, signedAmount invoices locked row))).map
        (moved storeId) := by
  induction rows generalizing p with
  | nil => exact (append_nil _).symm
  | cons row rows ih =>
    have hrow := hst row mem_cons_self
    have hnext : (projectBill invoices locked p row).Within storeId :=
      .inl (by rw [currentStoreId_projectBill, hrow])
    rw [foldl_cons, ih (fun r hr => hst r (mem_cons_of_mem _ hr)) hnext,
      applications_projectBill (hrow ▸ hp), pending_projectBill, hrow, hp.enter, map_cons,
      Tally.log, map_append, append_assoc]

section Projection

variable {b : Billing} {scope : ProjectionScope}

/-- What a projection newly sets off. -/
def Billing.managementMoves (b : Billing) (scope : ProjectionScope) :
    List (Tally.Move (String × Month)) :=
  (⟨[], []⟩ : Tally (String × Month)).log
    ((b.managementBills scope).map fun row => (billKey row, b.signedAmount scope row))

theorem netted_projection (hb : b.Indexed) (hsc : scope.storeId = some storeId) :
    Tally.Netted Prod.snd
      ((b.managementBills scope).map fun row => (billKey row, b.signedAmount scope row))
      (b.managementInvoiceableProjection scope).pending (b.managementMoves scope) := by
  rw [pending_projection hsc]
  exact Tally.netted_empty.run (pairwise_map.mpr (managementBills_months hb hsc))

/-- The applications of a projection: those that are recorded, and new ones. -/
theorem applications_projection (hsc : scope.storeId = some storeId) :
    (b.managementInvoiceableProjection scope).applications =
      (b.lockedApplications scope).map ManagementApplication.projected ++
        (b.managementMoves scope).map (moved storeId) :=
  applications_foldl (managementBills_store hsc) (.inr rfl)

/-- The new applications are between bills of the projection, and a negative bill gives no more
than its invoices have left of it. -/
theorem exists_fresh (hb : b.Indexed) (hsc : scope.storeId = some storeId) :
    ∃ fresh, (b.managementInvoiceableProjection scope).applications =
        (b.lockedApplications scope).map ManagementApplication.projected ++ fresh ∧
      (∀ a ∈ fresh, FreshApplication (b.scopedInvoices scope) storeId (b.managementBills scope) a) ∧
      ∀ row ∈ b.managementBills scope, row.2.confirmedAmountCent < 0 →
        reservedOf (b.lockedApplications scope) row.1.statementId ≤ -row.2.confirmedAmountCent →
        reservedOf (b.lockedApplications scope) row.1.statementId + appliedFrom fresh (billKey row) ≤
          -row.2.confirmedAmountCent := by
  have hnett := netted_projection hb hsc
  refine ⟨_, applications_projection hsc, fun a ha => ?_, fun row hrow hneg hres => ?_⟩
  · obtain ⟨m, hm, rfl⟩ := mem_map.mp ha
    have hbetw := hnett.between m hm
    obtain ⟨_, he, htgt, hpos⟩ := hbetw.target
    obtain ⟨target, hrow, rfl⟩ := mem_map.mp he
    have hsrc := hbetw.source
    rw [map_map] at hsrc
    exact ⟨rfl, rfl, hbetw.amount, mem_map.mp hsrc, target, hrow, htgt, (signedAmount_pos hpos).2⟩
  · have hgiven := hnett.given _ (mem_map_of_mem hrow)
    dsimp only at hgiven
    have hheld := hnett.sound.negatives.heldBy_nonneg (billKey row)
    have hamt : b.signedAmount scope row = -max (-row.2.confirmedAmountCent -
        reservedOf (b.lockedApplications scope) row.1.statementId) 0 := by
      rw [Billing.signedAmount, signedAmount, if_neg (by omega), if_pos hneg]
    rw [appliedFrom_moved]
    omega

end Projection

end Walk

/-! ### What a synchronisation leaves -/

section Synchronize

variable {digest : ApplicationIdentity → String} {ids : InvoiceIds}

theorem mem_desiredByPair {applications : List ProjectedApplication}
    (h : d ∈ desiredByPair applications) : d ∈ applications := by
  have hfold : ∀ (rest desired : List ProjectedApplication), d ∈ rest.foldl desire desired →
      d ∈ desired ∨ d ∈ rest := by
    intro rest
    induction rest with
    | nil => exact fun desired hd => .inl hd
    | cons a rest ih =>
      intro desired hd
      rcases ih _ hd with hd | hd
      · unfold desire at hd
        split at hd
        · obtain ⟨_, hold, heq⟩ := mem_map.mp hd
          split at heq
          · exact .inr (heq ▸ mem_cons_self)
          · exact .inl (heq ▸ hold)
        · rcases mem_append.mp hd with hd | hd
          · exact .inl hd
          · exact .inr (mem_singleton.mp hd ▸ mem_cons_self)
      · exact .inr (mem_cons_of_mem _ hd)
  rcases hfold applications [] h with hd | hd
  · exact absurd hd not_mem_nil
  · exact hd

/-- `idx_management_carryforward_current`. -/
def CurrentPairs (t : ApplicationTable) : Prop :=
  ∀ a ∈ t.rows, ∀ a' ∈ t.rows, a.isCurrent = true → a'.isCurrent = true → a.pair = a'.pair →
    a = a'

def UpToRetirement (a a₀ : ManagementApplication) : Prop := a = a₀ ∨ a = a₀.retired

theorem mem_retired {p : ManagementApplication → Bool}
    (h : a ∈ (t.update p ManagementApplication.retired fun _ => rfl).rows) :
    ∃ a₀ ∈ t.rows, UpToRetirement a a₀ ∧ (a.isCurrent = true → a = a₀ ∧ p a₀ = false) := by
  obtain ⟨a₀, ha₀, heq⟩ := (Table.mem_update _ _ _ _).mp h
  refine ⟨a₀, ha₀, ?_⟩
  split at heq
  · exact ⟨.inr heq.symm, fun hcur => by rw [← heq] at hcur; cases hcur⟩
  · rename_i hp
    exact ⟨.inl heq.symm, fun _ => ⟨heq.symm, by simpa using hp⟩⟩

theorem CurrentPairs.retire (h : CurrentPairs t) (p : ManagementApplication → Bool) :
    CurrentPairs (t.update p ManagementApplication.retired fun _ => rfl) := by
  intro a ha a' ha' hcur hcur' hpair
  obtain ⟨_, ha₀, _, hkept⟩ := mem_retired ha
  obtain ⟨_, ha₀', _, hkept'⟩ := mem_retired ha'
  obtain ⟨rfl, _⟩ := hkept hcur
  obtain ⟨rfl, _⟩ := hkept' hcur'
  exact h a ha₀ a' ha₀' hcur hcur' hpair

theorem addManagementApplication_ok (h : addManagementApplication t a = .ok t') :
    t'.rows = t.rows ++ [a] ∧ 0 < a.appliedAmountCent ∧
      ∀ r ∈ t.rows, r.pair = a.pair → r.isCurrent = false := by
  unfold addManagementApplication at h
  split at h
  · cases h
  · rename_i hgrd
    split at h
    · cases h
    · rw [Except.ofOption_eq_ok_iff] at h
      refine ⟨Table.rows_insert? h, by omega, fun r hr hpair => ?_⟩
      by_contra hcur
      refine hgrd (any_eq_true.mpr ⟨r, hr, ?_⟩)
      rw [Bool.not_eq_false] at hcur
      simp [hpair, hcur]

theorem CurrentPairs.add (h : CurrentPairs t) (hadd : addManagementApplication t a = .ok t') :
    CurrentPairs t' := by
  obtain ⟨hrows, _, hnone⟩ := addManagementApplication_ok hadd
  intro x hx y hy hxc hyc hpair
  rw [hrows] at hx hy
  rcases mem_append.mp hx with hx | hx <;> rcases mem_append.mp hy with hy | hy
  · exact h x hx y hy hxc hyc hpair
  · rw [mem_singleton.mp hy] at hpair
    rw [hnone x hx hpair] at hxc
    cases hxc
  · rw [mem_singleton.mp hx] at hpair
    rw [hnone y hy hpair.symm] at hyc
    cases hyc
  · rw [mem_singleton.mp hx, mem_singleton.mp hy]

/-- The table after some of the desired applications.  Rows in scope whose pair came up stand only
with the digest that is desired. -/
structure Materialized (digest : ApplicationIdentity → String) (ids : InvoiceIds)
    (t₀ : ApplicationTable) (inScope : ManagementApplication → Bool)
    (done : List ProjectedApplication) (t : ApplicationTable) : Prop where
  current : ∀ a ∈ t.rows, a.isCurrent = true →
    (a ∈ t₀.rows ∧ (inScope a = true → ∀ d ∈ done, d.pair = a.pair →
      a.projectionSha256 = digest d.identity)) ∨ ∃ d ∈ done, ∃ c, a = d.row digest ids c
  rows : ∀ a ∈ t.rows, (∃ a₀ ∈ t₀.rows, UpToRetirement a a₀) ∨
    ∃ d ∈ done, 0 < d.appliedAmountCent ∧ ∃ c, UpToRetirement a (d.row digest ids c)
  pairs : CurrentPairs t

theorem UpToRetirement.trans {a₁ a₀ : ManagementApplication} (h : UpToRetirement a a₁)
    (h' : UpToRetirement a₁ a₀) : UpToRetirement a a₀ := by
  rcases h with rfl | rfl
  · exact h'
  · rcases h' with rfl | rfl
    · exact .inr rfl
    · exact .inr rfl

variable {t₀ : ApplicationTable} {inScope : ManagementApplication → Bool}

section

variable (h : Materialized digest ids t₀ inScope done t)
include h

theorem Materialized.retire (p : ManagementApplication → Bool) :
    Materialized digest ids t₀ inScope done
      (t.update p ManagementApplication.retired fun _ => rfl) := by
  refine ⟨fun a ha hcur => ?_, fun a ha => ?_, h.pairs.retire p⟩
  · obtain ⟨a₀, ha₀, _, hkept⟩ := mem_retired ha
    obtain ⟨rfl, _⟩ := hkept hcur
    exact h.current a ha₀ hcur
  · obtain ⟨a₁, ha₁, hup, _⟩ := mem_retired ha
    rcases h.rows a₁ ha₁ with ⟨a₀, ha₀, hup'⟩ | ⟨d, hd, hpos, c, hup'⟩
    · exact .inl ⟨a₀, ha₀, hup.trans hup'⟩
    · exact .inr ⟨d, hd, hpos, c, hup.trans hup'⟩

/-- A new row for an application, once no row in scope stands for its pair. -/
theorem Materialized.add {c : Option ManagementApplication}
    (hadd : addManagementApplication t (d.row digest ids c) = .ok t') :
    Materialized digest ids t₀ inScope (done ++ [d]) t' := by
  obtain ⟨hrows, hpos, hnone⟩ := addManagementApplication_ok hadd
  have hlast : d ∈ done ++ [d] := mem_append_right _ mem_cons_self
  refine ⟨fun a ha hcur => ?_, fun a ha => ?_, h.pairs.add hadd⟩
  · rw [hrows] at ha
    rcases mem_append.mp ha with ha | ha
    · rcases h.current a ha hcur with ⟨ha₀, hdig⟩ | ⟨e, he, c', heq⟩
      · refine .inl ⟨ha₀, fun hsc e he hpair => ?_⟩
        rcases mem_append.mp he with he | he
        · exact hdig hsc e he hpair
        · rw [mem_singleton.mp he] at hpair
          rw [hnone a ha hpair.symm] at hcur
          cases hcur
      · exact .inr ⟨e, mem_append_left _ he, c', heq⟩
    · exact .inr ⟨d, hlast, c, mem_singleton.mp ha⟩
  · rw [hrows] at ha
    rcases mem_append.mp ha with ha | ha
    · rcases h.rows a ha with hold | ⟨e, he, hrest⟩
      · exact .inl hold
      · exact .inr ⟨e, mem_append_left _ he, hrest⟩
    · exact .inr ⟨d, hlast, hpos, c, .inl (mem_singleton.mp ha)⟩

theorem Materialized.step (hpairs : CurrentPairs t₀)
    (hsc : ∀ a, inScope a = true → a.isCurrent = true)
    (hstep : materializeApplication digest ids (t₀.rows.filter inScope) t d = .ok t') :
    Materialized digest ids t₀ inScope (done ++ [d]) t' := by
  unfold materializeApplication at hstep
  split at hstep
  · rename_i c hfind
    split at hstep
    · rename_i hsame
      cases hstep
      -- the row stands: no other row in scope has its pair
      obtain ⟨hc, hcsc⟩ := mem_filter.mp
        (mem_reverse.mp (mem_of_find?_eq_some hfind))
      have hcpair : c.pair = d.pair := by simpa using find?_some hfind
      refine ⟨fun a ha hcur => ?_, fun a ha => ?_, h.pairs⟩
      · rcases h.current a ha hcur with ⟨ha₀, hdig⟩ | ⟨e, he, c', heq⟩
        · refine .inl ⟨ha₀, fun hasc e he hpair => ?_⟩
          rcases mem_append.mp he with he | he
          · exact hdig hasc e he hpair
          · rw [mem_singleton.mp he] at hpair ⊢
            have hac : a = c := hpairs a ha₀ c hc hcur (hsc c hcsc)
              (hpair.symm.trans hcpair.symm)
            rw [hac]
            exact hsame
        · exact .inr ⟨e, mem_append_left _ he, c', heq⟩
      · rcases h.rows a ha with hold | ⟨e, he, hrest⟩
        · exact .inl hold
        · exact .inr ⟨e, mem_append_left _ he, hrest⟩
    · exact (h.retire _).add hstep
  · exact h.add hstep

end

/-- The rows after a synchronisation: rows out of scope, and rows that say what an application of
the projection says. -/
structure Synchronized (digest : ApplicationIdentity → String) (storeId : String) (month : Month)
    (applications : List ProjectedApplication) (t₀ t : ApplicationTable) : Prop where
  current : ∀ a ∈ t.rows, a.isCurrent = true →
    (a ∈ t₀.rows ∧ a.inScope storeId month = false) ∨
      ∃ d ∈ applications, a.identity = d.identity
  rows : ∀ a ∈ t.rows, (∃ a₀ ∈ t₀.rows, UpToRetirement a a₀) ∨
    ∃ d ∈ applications, 0 < d.appliedAmountCent ∧ ∃ ids c, UpToRetirement a (d.row digest ids c)
  pairs : CurrentPairs t

theorem synchronizeApplications_ok {b b' : Billing} (hinj : Function.Injective digest)
    (hpairs : CurrentPairs b.managementApplications)
    (hdig : ∀ a ∈ b.managementApplications.rows, a.projectionSha256 = digest a.identity)
    {applications : List ProjectedApplication} {statementId storeId : String} {month : Month}
    (h : b.synchronizeApplications digest ids applications statementId storeId month = .ok b') :
    Synchronized digest storeId month (applications.map (·.assign statementId ids.invoiceId))
      b.managementApplications b'.managementApplications := by
  obtain ⟨_, hfold, h⟩ := Except.of_bind h
  cases h
  have hsc : ∀ a : ManagementApplication, a.inScope storeId month = true → a.isCurrent = true := by
    intro a ha
    simp only [ManagementApplication.inScope, Bool.and_eq_true] at ha
    exact ha.1.1.1
  have hst0 : Materialized digest ids b.managementApplications
      (·.inScope storeId month) [] b.managementApplications :=
    ⟨fun a ha _ => .inl ⟨ha, nofun⟩,
      fun a ha => .inl ⟨a, ha, .inl rfl⟩, hpairs⟩
  have hmat := Except.foldlM_ok_seen (I := Materialized digest ids
    b.managementApplications (·.inScope storeId month)) hfold hst0
    fun _ _ _ _ _ ht hstep => ht.step hpairs hsc hstep
  have hfinal := hmat.retire fun a => (b.managementApplications.rows.filter
    (·.inScope storeId month)).any (fun c => decide (c.applicationId = a.applicationId)) &&
      !(desiredByPair (applications.map (·.assign statementId ids.invoiceId))).any
        fun d => decide (d.pair = a.pair)
  refine ⟨fun a ha hcur => ?_, fun a ha => ?_, hfinal.pairs⟩
  · rcases hfinal.current a ha hcur with ⟨ha₀, hkept⟩ | ⟨d, hd, c, heq⟩
    · by_cases hasc : a.inScope storeId month = true
      · -- its pair is desired, for otherwise it would be retired
        obtain ⟨_, _, _, hstan⟩ := mem_retired ha
        obtain ⟨rfl, hstan⟩ := hstan hcur
        have hlist : (b.managementApplications.rows.filter (·.inScope storeId month)).any
            (fun c => decide (c.applicationId = a.applicationId)) = true :=
          any_eq_true.mpr ⟨a, mem_filter.mpr ⟨ha₀, hasc⟩, decide_eq_true rfl⟩
        rw [hlist, Bool.true_and, Bool.not_eq_false', any_eq_true] at hstan
        obtain ⟨d, hd, hpair⟩ := hstan
        have hsame := hkept hasc d hd (of_decide_eq_true hpair)
        rw [hdig a ha₀] at hsame
        exact .inr ⟨d, mem_desiredByPair hd, hinj hsame⟩
      · exact .inl ⟨ha₀, by simpa using hasc⟩
    · exact .inr ⟨d, mem_desiredByPair hd, by rw [heq]; rfl⟩
  · rcases hfinal.rows a ha with hold | ⟨d, hd, hpos, c, hup⟩
    · exact .inl hold
    · exact .inr ⟨d, mem_desiredByPair hd, hpos, ids, c, hup⟩

end Synchronize

end DyData.Settlement
