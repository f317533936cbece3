import DyData.SettlementRefundRun

/-!
One settlement run over both directions of a coupon, from a ledger in which the events of the
earlier runs are posted to one in which all visible events are.
-/

namespace DyData.Settlement

open Relational List

variable {db db' : Db} {P : Db → Prop} {d : Direction}

/-- The postings of `db'` are those of `db` and those of more events. -/
structure Extended (env : Env) (original : FeeResult) (db : Db) (total : Int)
    (events : List RefundEvent) (db' : Db) : Prop where
  same : db.SameExceptPostings db'
  booked : Booked env db' original.feeResultId original.feeDirection
  uncancelled : Uncancelled db original.feeResultId → Uncancelled db' original.feeResultId
  posted : AllPosted env db' original total events
  effective : db'.effectiveAdjustmentTotals env original.feeResultId =
    db.effectiveAdjustmentTotals env original.feeResultId +
      (original.netAfter (refundedAfter original total events) - original.netAfter total)
  others : ∀ x, x ∉ events.map RefundEvent.refundEventId →
    db'.refundPosting env original.feeResultId original.feeDirection x =
      db.refundPosting env original.feeResultId original.feeDirection x

theorem Extended.of_rows {env : Env} {original : FeeResult} (total : Int)
    (hbook : Booked env db original.feeResultId original.feeDirection) (hrows : db.SameRows db') :
    Extended env original db total [] db' := by
  refine ⟨hrows.sameExceptPostings, ?_, ?_, trivial, ?_, ?_⟩
  · rw [hrows]
    exact hbook.of_rows rfl rfl rfl
  · rw [hrows]
    exact fun h => ⟨h.adjustments, h.sources⟩
  · rw [hrows, refundedAfter, foldl_nil, sub_self, add_zero]
    exact effectiveTotals_congr rfl rfl rfl
  · intro x _
    rw [hrows]
    rfl

section Fold

variable {env : Env} {original : FeeResult} {storeId : String} (runId : String)
  (events : List RefundEvent) (hdigest : Function.Injective env.digest40)
  (hstore : original.knownStore original.feeDirection = some storeId)
include hdigest hstore

theorem fold_fresh (hP : Stable env original P) {fresh : List RefundEvent} {s : RefundLoop}
    {total : Int} (hbook : Booked env s.db original.feeResultId original.feeDirection)
    (hacc : Accounted original s total)
    (hnone : ∀ e ∈ fresh, s.db.refundPosting env original.feeResultId original.feeDirection
      e.refundEventId = none) (hnd : (fresh.map RefundEvent.refundEventId).Nodup) (hPs : P s.db) :
    ∃ s', fresh.foldlM (refundStep env original original.feeDirection runId false false events) s =
        .ok s' ∧
      Extended env original s.db total fresh s'.db ∧ P s'.db := by
  induction fresh generalizing s total with
  | nil => exact ⟨s, rfl, .of_rows total hbook rfl, hPs⟩
  | cons e fresh ih =>
    rw [map_cons, nodup_cons] at hnd
    obtain ⟨s', hok, htot, hsame, heffe⟩ :=
      refundStep_exists runId hstore hbook false false events e
    have htot' : s'.eventRefundTotal = addRefund original.sourceAmountCent total e := by
      rw [htot, hacc.events]
    obtain ⟨hext, hacc', hPs'⟩ : Extended env original s.db total [e] s'.db ∧
        Accounted original s' (addRefund original.sourceAmountCent total e) ∧ P s'.db := by
      cases heffe with
      | skipped reason adjustments sources cumulative applied =>
        rcases reason with hcov | hfalse
        · have hrows := hsame.sameRows adjustments sources
          have hnoth := Extended.of_rows total hbook hrows
          have hacc' := hacc.skip htot hcov cumulative applied
          rw [htot'] at hcov
          have heq := addRefund_eq_of_covered hacc.snapshot hacc.bounded hcov
          refine ⟨⟨hsame, hnoth.booked, hnoth.uncancelled, ⟨.inl hcov, trivial⟩, ?_,
            fun x _ => hnoth.others x not_mem_nil⟩, hacc', hP.rows _ _ hrows hPs⟩
          rw [hnoth.effective, refundedAfter, refundedAfter, foldl_cons, heq]
        · cases hfalse
      | known delta hopen posting adjustments sources cumulative applied =>
        rw [hnone e mem_cons_self] at posting
        cases posting
      | posted hopen posting row cumulative applied =>
        rw [refundDelta_eq hacc] at row applied
        refine ⟨⟨hsame, row.booked hsame hdigest (.inr ⟨rfl, rfl⟩) hbook, row.uncancelled,
          ⟨.inr (row.posting_self posting), trivial⟩, row.effective_self hsame hbook posting,
          fun x hx => row.posting_other hdigest (.inr ⟨rfl, rfl, ?_⟩)⟩,
          hacc.account htot cumulative applied, hP.posted _ _ _ _ hsame row hPs⟩
        exact fun h => hx (mem_singleton.mpr h)
    have hnone' : ∀ e' ∈ fresh, s'.db.refundPosting env original.feeResultId
        original.feeDirection e'.refundEventId = none := by
      intro e' he'
      rw [hext.others]
      · exact hnone e' (mem_cons_of_mem _ he')
      · intro hmem
        rw [map_singleton, mem_singleton] at hmem
        exact hnd.1 (hmem ▸ mem_map_of_mem he')
    obtain ⟨s'', hrest, hext', hPs''⟩ := ih hext.booked hacc' hnone' hnd.2 hPs'
    refine ⟨s'', ?_, ⟨hext.same.trans hext'.same, hext'.booked,
      fun h => hext'.uncancelled (hext.uncancelled h), ⟨?_, hext'.posted⟩, ?_, ?_⟩, hPs''⟩
    · rw [foldlM_cons, hok]
      exact hrest
    · rw [hext'.others _ hnd.1]
      exact hext.posted.1
    · have heff := hext.effective
      rw [refundedAfter, foldl_cons, foldl_nil] at heff
      rw [hext'.effective, heff, refundedAfter, refundedAfter]
      abel
    · intro x hx
      rw [map_cons, mem_cons, not_or] at hx
      rw [hext'.others x hx.2, hext.others]
      exact fun hmem => hx.1 (mem_singleton.mp hmem)

/-- Whatever the events, the loop goes through and keeps what it does not touch. -/
theorem fold_stable (hP : Stable env original P) (manualBasis manualAmountOverride : Bool)
    (list : List RefundEvent) {s : RefundLoop}
    (hbook : Booked env s.db original.feeResultId original.feeDirection) (hPs : P s.db) :
    ∃ s', list.foldlM (refundStep env original original.feeDirection runId manualBasis
        manualAmountOverride events) s = .ok s' ∧
      s.db.SameExceptPostings s'.db ∧
      Booked env s'.db original.feeResultId original.feeDirection ∧ P s'.db := by
  induction list generalizing s with
  | nil => exact ⟨s, rfl, rfl, hbook, hPs⟩
  | cons e list ih =>
    obtain ⟨s', hok, -, hsame, heff⟩ :=
      refundStep_exists runId hstore hbook manualBasis manualAmountOverride events e
    obtain ⟨hbook', hPs'⟩ : Booked env s'.db original.feeResultId original.feeDirection ∧
        P s'.db := by
      cases heff with
      | skipped _ adjustments sources _ _ =>
        have hrows := hsame.sameRows adjustments sources
        exact ⟨(Extended.of_rows 0 hbook hrows).booked, hP.rows _ _ hrows hPs⟩
      | known _ _ _ adjustments sources _ _ =>
        have hrows := hsame.sameRows adjustments sources
        exact ⟨(Extended.of_rows 0 hbook hrows).booked, hP.rows _ _ hrows hPs⟩
      | posted _ _ row _ _ =>
        exact ⟨row.booked hsame hdigest (.inr ⟨rfl, rfl⟩) hbook, hP.posted _ _ _ _ hsame row hPs⟩
    obtain ⟨s'', hrest, hsame', hbook'', hPs''⟩ := ih hbook' hPs'
    refine ⟨s'', ?_, hsame.trans hsame', hbook'', hPs''⟩
    rw [foldlM_cons, hok]
    exact hrest

end Fold

/-- The runs so far have seen the events of the snapshot and the later ones, and posted them. -/
structure Settled (env : Env) (original : FeeResult) (contained later : List RefundEvent)
    (db : Db) : Prop where
  booked : Booked env db original.feeResultId original.feeDirection
  uncancelled : Uncancelled db original.feeResultId
  posted : AllPosted env db original original.refundedAmountCent later
  effective : original.amounts + db.effectiveAdjustmentTotals env original.feeResultId =
    original.netAfter (refundedAfter original original.refundedAmountCent later)
  unseen : ∀ x, x ∉ (contained ++ later).map RefundEvent.refundEventId →
    db.refundPosting env original.feeResultId original.feeDirection x = none

theorem Settled.of_rows {env : Env} {original : FeeResult} {contained later : List RefundEvent}
    (h : Settled env original contained later db) (ha : db'.adjustments = db.adjustments)
    (hs : db'.carryforwardSources = db.carryforwardSources)
    (hp : db'.carryforwardApplications = db.carryforwardApplications) :
    Settled env original contained later db' := by
  have hpost : ∀ x, db'.refundPosting env original.feeResultId original.feeDirection x =
      db.refundPosting env original.feeResultId original.feeDirection x := by
    intro x
    simp only [Db.refundPosting, Db.carryforwardSource, ha, hs]
  refine ⟨h.booked.of_rows ha hs hp, ⟨?_, ?_⟩, h.posted.congr fun e _ => hpost _, ?_, ?_⟩
  · rw [ha]
    exact h.uncancelled.adjustments
  · rw [hs]
    exact h.uncancelled.sources
  · rw [effectiveTotals_congr (congrArg Table.rows hp) (congrArg Table.rows ha)
      (congrArg Table.rows hs)]
    exact h.effective
  · intro x hx
    rw [hpost]
    exact h.unseen x hx

theorem Settled.stable {env : Env} (hdigest : Function.Injective env.digest40)
    {original other : FeeResult} (hid : original.feeResultId ≠ other.feeResultId)
    (hdir : original.feeDirection ≠ other.feeDirection) (contained later : List RefundEvent) :
    Stable env other (Settled env original contained later) := by
  constructor
  · intro db db' hrows h
    rw [hrows]
    exact h.of_rows rfl rfl rfl
  · intro db db' e delta hsame hpost h
    have hposti : ∀ x, db'.refundPosting env original.feeResultId original.feeDirection x =
        db.refundPosting env original.feeResultId original.feeDirection x :=
      fun x => hpost.posting_other hdigest (.inl hdir)
    refine ⟨hpost.booked hsame hdigest (.inl ⟨hid, hdir⟩) h.booked,
      hpost.uncancelled h.uncancelled, h.posted.congr fun e _ => hposti _, ?_, ?_⟩
    · rw [hpost.effective_other hsame hid]
      exact h.effective
    · intro x hx
      rw [hposti]
      exact h.unseen x hx

theorem Booked.stable {env : Env} (hdigest : Function.Injective env.digest40) {other : FeeResult}
    {r : String} (hid : r ≠ other.feeResultId) (hdir : d ≠ other.feeDirection) :
    Stable env other fun db => Booked env db r d := by
  constructor
  · intro db db' hrows h
    rw [hrows]
    exact h.of_rows rfl rfl rfl
  · intro db db' e delta hsame hpost h
    exact hpost.booked hsame hdigest (.inl ⟨hid, hdir⟩) h

/-- The events of the snapshot were observed before the result was calculated, and make up its
refunded amount. -/
structure Contained (original : FeeResult) (contained : List RefundEvent) : Prop where
  observed : ∀ e ∈ contained, e.observedAt ≤ original.calculatedAt
  total : refundedAfter original 0 contained = original.refundedAmountCent

section Direction

variable {env : Env} {original : FeeResult} {storeId couponId : String} (runId : String)
  (hdigest : Function.Injective env.digest40)
  (hstore : original.knownStore original.feeDirection = some storeId)
include hdigest hstore

theorem Settled.materialize {contained later fresh : List RefundEvent}
    (h : Settled env original contained later db) (hprc : Priced original)
    (hcont : Contained original contained)
    (hcur : db.currentFeeResult couponId original.feeDirection = some original)
    (hman : db.hasHistoricalFeeCorrection original.feeResultId = false)
    (hnd : ((contained ++ later ++ fresh).map RefundEvent.refundEventId).Nodup)
    (hP : Stable env original P) (hPdb : P db) :
    ∃ db' count, materializeDirectionRefunds env runId couponId (contained ++ later ++ fresh) db
        original.feeDirection = .ok (db', count) ∧
      db.SameExceptPostings db' ∧ Settled env original contained (later ++ fresh) db' ∧ P db' := by
  set events := contained ++ later ++ fresh with hevs
  have hzero : (0 : Int) ≤ original.sourceAmountCent := original.amountCheck.1
  -- the events of the snapshot bring the loop to the refunded amount of the result
  set s₀ : RefundLoop :=
    { db, cumulativeRefund := original.refundedAmountCent,
      eventRefundTotal := refundedAfter original 0 contained } with hs₀
  have hcov : contained.foldlM (refundStep env original original.feeDirection runId false
      false events) { db, cumulativeRefund := original.refundedAmountCent } = .ok s₀ :=
    fold_covered runId events false false hcont.observed hzero (Int.le_of_eq hcont.total)
  have hacc : Accounted original s₀ original.refundedAmountCent :=
    ⟨rfl, hcont.total, by rw [add_zero]; exact hprc.amounts, Int.le_refl _, hprc.snapshot⟩
  obtain ⟨s₁, hknown, hrows, hacc₁⟩ :=
    fold_known runId events hstore (s := s₀) h.booked hacc h.posted
  have h₁ : Settled env original contained later s₁.db := by
    rw [hrows]
    exact h.of_rows rfl rfl rfl
  have hnone : ∀ e ∈ fresh, s₁.db.refundPosting env original.feeResultId original.feeDirection
      e.refundEventId = none := by
    intro e he
    rw [map_append, nodup_append] at hnd
    exact h₁.unseen _ fun hmem => hnd.2.2 _ hmem _ (mem_map_of_mem he) rfl
  have hfr : (fresh.map RefundEvent.refundEventId).Nodup := by
    rw [hevs, map_append, nodup_append] at hnd
    exact hnd.2.1
  obtain ⟨s₂, hfold, hext, hPs₂⟩ := fold_fresh runId events hdigest hstore hP
    h₁.booked hacc₁ hnone hfr (hP.rows _ _ hrows hPdb)
  refine ⟨s₂.db, s₂.manualReviewCount, ?_, hrows.sameExceptPostings.trans hext.same, ?_, hPs₂⟩
  · have hloop : events.foldlM (refundStep env original original.feeDirection runId false false
        events) { db, cumulativeRefund := original.refundedAmountCent } = .ok s₂ := by
      conv_lhs => rw [hevs]
      rw [foldlM_append, foldlM_append, hcov]
      change (later.foldlM _ s₀ >>= _) = _
      rw [hknown]
      exact hfold
    simp only [materializeDirectionRefunds, hcur, h.uncancelled.hasVerifyCancellation,
      hman, Bool.false_and, Bool.false_eq_true, if_false, hloop]
    rfl
  · refine ⟨hext.booked, hext.uncancelled h₁.uncancelled, ?_, ?_, ?_⟩
    · refine AllPosted.append (h₁.posted.congr fun e he => hext.others _ fun hmem => ?_) hext.posted
      rw [hevs, map_append, nodup_append] at hnd
      exact hnd.2.2 _ (mem_map_of_mem (mem_append_right _ he)) _ hmem rfl
    · rw [hext.effective, ← add_assoc, h₁.effective, refundedAfter, refundedAfter, refundedAfter,
        foldl_append, add_sub_cancel]
    · intro x hx
      rw [← append_assoc, map_append, mem_append, not_or] at hx
      rw [hext.others x hx.2]
      exact h₁.unseen x hx.1

end Direction

/-- The results of a coupon are results the settlement wrote: they stand for their direction, they
have a store to bill, and their rows are booked. -/
def CouponBooked (env : Env) (couponId : String) (db : Db) : Prop :=
  ∀ d original, db.currentFeeResult couponId d = some original →
    original.feeDirection = d ∧ (original.knownStore d).isSome = true ∧
      Booked env db original.feeResultId d

theorem currentFeeResult_mem {couponId : String} {original : FeeResult}
    (h : db.currentFeeResult couponId d = some original) : original ∈ db.feeResults.rows := by
  obtain ⟨_, -, hres⟩ := Option.bind_eq_some_iff.mp h
  exact (mem_filter.mp (argmax_mem hres)).1

theorem feeResultId_ne {couponId : String} {d' : Direction} {original other : FeeResult}
    (h : db.currentFeeResult couponId d = some original)
    (h' : db.currentFeeResult couponId d' = some other)
    (hdir : original.feeDirection ≠ other.feeDirection) :
    original.feeResultId ≠ other.feeResultId := by
  intro hid
  have heq := db.feeResults.eq_of_key_eq (currentFeeResult_mem h) (currentFeeResult_mem h') hid
  exact hdir (congrArg FeeResult.feeDirection heq)

theorem Db.SameExceptPostings.currentFeeResult (h : db.SameExceptPostings db') (couponId : String)
    (d : Direction) : db'.currentFeeResult couponId d = db.currentFeeResult couponId d := by
  rw [h]
  rfl

theorem Db.SameExceptPostings.hasHistoricalFeeCorrection (h : db.SameExceptPostings db')
    (r : String) : db'.hasHistoricalFeeCorrection r = db.hasHistoricalFeeCorrection r := by
  rw [h]
  rfl

/-- The run of a direction goes through and keeps what it does not touch. -/
theorem materializeDirection_stable {env : Env} (hdigest : Function.Injective env.digest40)
    (runId : String) {couponId : String} (events : List RefundEvent)
    (hcoup : CouponBooked env couponId db) (d : Direction)
    (hP : ∀ other, db.currentFeeResult couponId d = some other → Stable env other P) (hPdb : P db) :
    ∃ db' count, materializeDirectionRefunds env runId couponId events db d = .ok (db', count) ∧
      db.SameExceptPostings db' ∧ P db' ∧
      ∀ other, db.currentFeeResult couponId d = some other →
        Booked env db' other.feeResultId d := by
  unfold materializeDirectionRefunds
  cases hcur : db.currentFeeResult couponId d with
  | none => exact ⟨db, 0, rfl, rfl, hPdb, fun other h => by cases h⟩
  | some other =>
    obtain ⟨rfl, hstore, hbook⟩ := hcoup d other hcur
    obtain ⟨_, hstore⟩ := Option.isSome_iff_exists.mp hstore
    by_cases hcanc : db.hasVerifyCancellation other = true
    · simp only [hcanc, if_true]
      refine ⟨db, 0, rfl, rfl, hPdb, fun other' h => ?_⟩
      cases h
      exact hbook
    · obtain ⟨s, hfold, hsame, hbook', hPs⟩ := fold_stable runId events hdigest hstore
        (hP other hcur) (db.hasHistoricalFeeCorrection other.feeResultId)
        (db.hasHistoricalFeeCorrection other.feeResultId &&
          db.hasHistoricalFeeAmountOverride other.feeResultId) events
        (s := { db, cumulativeRefund := other.refundedAmountCent }) hbook hPdb
      refine ⟨s.db, s.manualReviewCount, ?_, hsame, hPs, fun other' h => ?_⟩
      · simp only [hcanc, Bool.false_eq_true, if_false, hfold]
        rfl
      · cases h
        exact hbook'

end DyData.Settlement
