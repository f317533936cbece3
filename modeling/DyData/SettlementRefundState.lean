import DyData.SettlementCarryforwardSpec

/-!
One settlement run over both directions of a coupon.  The run of a direction leaves the postings of
the other one alone, so a result that was settled for the events seen so far is settled for the
events seen now.
-/

namespace DyData.Settlement

open Relational List

/-! ### Visible events -/

theorem resolvedRefundEvents_nodup (db : Db) (coupon : RawCoupon) :
    ((db.resolvedRefundEvents coupon).map RefundEvent.refundEventId).Nodup := by
  have hsort := (perm_insertionSort RefundEvent.before
    (db.refundEvents.rows.filter (fun e => e.couponId = some coupon.couponId &&
      e.orderId = coupon.orderId && e.refundStatus = .succeeded) ++
      if db.couponCount coupon = 1 then db.orderRefundEvents coupon else [])).map
    RefundEvent.refundEventId
  refine hsort.nodup_iff.mpr ?_
  rw [map_append, nodup_append]
  have hdir := db.refundEvents.nodup.sublist
    ((filter_sublist (p := fun e => e.couponId = some coupon.couponId &&
      e.orderId = coupon.orderId && e.refundStatus = .succeeded)).map RefundEvent.refundEventId)
  refine ⟨hdir, ?_, ?_⟩
  · split
    · exact db.refundEvents.nodup.sublist (filter_sublist.map _)
    · exact nodup_nil
  · -- an event names this coupon or none
    intro x hx y hy hxy
    obtain ⟨_, he, rfl⟩ := mem_map.mp hx
    obtain ⟨_, he', rfl⟩ := mem_map.mp hy
    split at he'
    · obtain ⟨hmem, hcond⟩ := mem_filter.mp he
      obtain ⟨hmem', hcond'⟩ := mem_filter.mp he'
      rw [db.refundEvents.eq_of_key_eq hmem hmem' hxy] at hcond
      simp only [bool_to_prop] at hcond hcond'
      rw [hcond.1.1] at hcond'
      simp at hcond'
    · cases he'

theorem resolvedRefundEvents_congr {db db' : Db} (hevs : db'.refundEvents = db.refundEvents)
    (hcoup : db'.coupons = db.coupons) (coupon : RawCoupon) :
    db'.resolvedRefundEvents coupon = db.resolvedRefundEvents coupon := by
  unfold Db.resolvedRefundEvents Db.couponCount Db.orderRefundEvents
  rw [hevs, hcoup]

theorem recordAmbiguousRefunds_sameRows (db : Db) (coupon : RawCoupon) :
    db.SameRows (db.recordAmbiguousRefunds coupon) := by
  unfold Db.recordAmbiguousRefunds
  split
  · rfl
  · have hfold : ∀ (events : List RefundEvent) (issue : RefundEvent → Issue) (db : Db),
        db.SameRows (events.foldl (fun db e => db.recordIssue (issue e)) db) := by
      intro events issue
      induction events with
      | nil => exact fun db => rfl
      | cons e events ih =>
        intro db
        have hissue : db.SameRows (db.recordIssue (issue e)) := rfl
        exact hissue.trans (ih _)
    exact hfold _ _ _

/-! ### States between runs -/

structure RefundState (env : Env) (coupon : RawCoupon) (original : FeeResult)
    (contained later : List RefundEvent) (db : Db) : Prop where
  booked : CouponBooked env coupon.couponId db
  current : db.currentFeeResult coupon.couponId original.feeDirection = some original
  uncorrected : db.hasHistoricalFeeCorrection original.feeResultId = false
  settled : Settled env original contained later db

section State

variable {env : Env} {coupon : RawCoupon} {original : FeeResult}
  {contained later : List RefundEvent} {db db' : Db}

section

variable (h : RefundState env coupon original contained later db)
include h

theorem RefundState.of_rows (hress : db'.feeResults = db.feeResults)
    (hcurr : db'.currents = db.currents) (haud : db'.audits = db.audits)
    (ha : db'.adjustments = db.adjustments) (hs : db'.carryforwardSources = db.carryforwardSources)
    (hp : db'.carryforwardApplications = db.carryforwardApplications) :
    RefundState env coupon original contained later db' := by
  have hcur : ∀ d, db'.currentFeeResult coupon.couponId d =
      db.currentFeeResult coupon.couponId d := by
    intro d
    rw [Db.currentFeeResult, Db.currentFeeResult, hcurr, hress]
  refine ⟨?_, (hcur _).trans h.current, ?_, h.settled.of_rows ha hs hp⟩
  · intro d result hres
    rw [hcur] at hres
    obtain ⟨hdir, hst, hbook⟩ := h.booked d result hres
    exact ⟨hdir, hst, hbook.of_rows ha hs hp⟩
  · rw [Db.hasHistoricalFeeCorrection, Db.historicalCorrections, haud]
    exact h.uncorrected

theorem RefundState.of_sameRows (hrows : db.SameRows db') :
    RefundState env coupon original contained later db' := by
  rw [hrows]
  exact h.of_rows rfl rfl rfl rfl rfl rfl

theorem RefundState.carried {source : CarryforwardSource} (hcarr : Carried env source db db') :
    RefundState env coupon original contained later db' := by
  refine ⟨hcarr.couponBooked h.booked, ?_, ?_, hcarr.settled h.settled⟩
  · rw [hcarr.same]
    exact h.current
  · rw [hcarr.same]
    exact h.uncorrected

/-- New postings keep the state: the result settles and the other direction stays booked. -/
theorem RefundState.of_settled {later' : List RefundEvent} (hsame : db.SameExceptPostings db')
    (hsett : Settled env original contained later' db')
    (hoth : ∀ d other, d ≠ original.feeDirection →
      db.currentFeeResult coupon.couponId d = some other → Booked env db' other.feeResultId d) :
    RefundState env coupon original contained later' db' := by
  refine ⟨?_, (hsame.currentFeeResult _ _).trans h.current,
    (hsame.hasHistoricalFeeCorrection _).trans h.uncorrected, hsett⟩
  intro d result hres
  rw [hsame.currentFeeResult] at hres
  obtain ⟨hdir, hknown, -⟩ := h.booked d result hres
  refine ⟨hdir, hknown, ?_⟩
  by_cases hd : d = original.feeDirection
  · subst hd
    obtain rfl : result = original := Option.mem_unique hres h.current
    exact hsett.booked
  · exact hoth d result hd hres

end

theorem Direction.eq_of_ne {d d' d'' : Direction} (h : d ≠ d'') (h' : d' ≠ d'') : d = d' := by
  revert h h'
  cases d <;> cases d' <;> cases d'' <;> decide

variable (runId : String) (hdigest : Function.Injective env.digest40)
include hdigest

variable (h : RefundState env coupon original contained later db)
include h

theorem RefundState.materializeOwn {fresh : List RefundEvent} (hprc : Priced original)
    (hcont : Contained original contained)
    (hnd : ((contained ++ later ++ fresh).map RefundEvent.refundEventId).Nodup) :
    ∃ db' count, materializeDirectionRefunds env runId coupon.couponId (contained ++ later ++ fresh)
        db original.feeDirection = .ok (db', count) ∧
      db.SameExceptPostings db' ∧ RefundState env coupon original contained (later ++ fresh) db' := by
  obtain ⟨-, hst, -⟩ := h.booked _ _ h.current
  obtain ⟨_, hst⟩ := Option.isSome_iff_exists.mp hst
  -- the other direction stays booked
  have hstab : Stable env original fun t => ∀ d other, d ≠ original.feeDirection →
      db.currentFeeResult coupon.couponId d = some other → Booked env t other.feeResultId d := by
    have hoth : ∀ d other, d ≠ original.feeDirection →
        db.currentFeeResult coupon.couponId d = some other →
        Stable env original fun t => Booked env t other.feeResultId d := by
      intro d other hd hcur
      have hdir : other.feeDirection ≠ original.feeDirection := by
        rw [(h.booked d other hcur).1]
        exact hd
      exact Booked.stable hdigest (feeResultId_ne hcur h.current hdir) hd
    constructor
    · intro t t' hrows ht d other hd hcur
      exact (hoth d other hd hcur).rows t t' hrows (ht d other hd hcur)
    · intro t t' e delta hsame hpost ht d other hd hcur
      exact (hoth d other hd hcur).posted t t' e delta hsame hpost (ht d other hd hcur)
  obtain ⟨db', count, hok, hsame, hsett, hothe⟩ := h.settled.materialize runId hdigest hst
    hprc hcont h.current h.uncorrected hnd hstab
    fun d other _ hcur => (h.booked d other hcur).2.2
  exact ⟨db', count, hok, hsame, h.of_settled hsame hsett hothe⟩

theorem RefundState.materializeOther (events : List RefundEvent) {d : Direction}
    (hd : d ≠ original.feeDirection) :
    ∃ db' count, materializeDirectionRefunds env runId coupon.couponId events db d =
        .ok (db', count) ∧
      db.SameExceptPostings db' ∧ RefundState env coupon original contained later db' := by
  have hstab : ∀ other, db.currentFeeResult coupon.couponId d = some other →
      Stable env other (Settled env original contained later) := by
    intro other hcur
    have hdir : original.feeDirection ≠ other.feeDirection := by
      rw [(h.booked d other hcur).1]
      exact hd.symm
    exact Settled.stable hdigest (feeResultId_ne h.current hcur hdir) hdir _ _
  obtain ⟨db', count, hok, hsame, hsett, hoth⟩ :=
    materializeDirection_stable hdigest runId events h.booked d hstab h.settled
  refine ⟨db', count, hok, hsame, h.of_settled hsame hsett fun d' result hd' hres => ?_⟩
  obtain rfl := Direction.eq_of_ne hd' hd
  exact hoth result hres

theorem RefundState.materialize {fresh : List RefundEvent} (hprc : Priced original)
    (hcont : Contained original contained)
    (hvis : db.resolvedRefundEvents coupon = contained ++ later ++ fresh) :
    ∃ db' count, materializeRefundAdjustments env db coupon runId = .ok (db', count) ∧
      db'.refundEvents = db.refundEvents ∧ db'.coupons = db.coupons ∧
      RefundState env coupon original contained (later ++ fresh) db' := by
  have hrows := recordAmbiguousRefunds_sameRows db coupon
  have hnd := resolvedRefundEvents_nodup db coupon
  have hnoted := h.of_sameRows hrows
  rw [hvis] at hnd
  unfold materializeRefundAdjustments
  rw [hvis]
  have hkept : ∀ {t : Db}, (db.recordAmbiguousRefunds coupon).SameExceptPostings t →
      t.refundEvents = db.refundEvents ∧ t.coupons = db.coupons := by
    intro t ht
    rw [ht, hrows]
    exact ⟨rfl, rfl⟩
  by_cases hnil : (contained ++ later ++ fresh).isEmpty = true
  · refine ⟨_, 0, if_pos hnil, (hkept (.refl _)).1, (hkept (.refl _)).2, ?_⟩
    obtain ⟨-, hfr⟩ := append_eq_nil_iff.mp (List.isEmpty_iff.mp hnil)
    rw [hfr, append_nil]
    exact hnoted
  · simp only [hnil, if_false, foldlM_cons, foldlM_nil, Bool.false_eq_true]
    -- the result's own direction is the first or the second of the two
    cases hdir : original.feeDirection with
    | promotion =>
      obtain ⟨db₁, count₁, hown, hsame₁, h₁⟩ :=
        hnoted.materializeOwn runId hdigest hprc hcont hnd
      obtain ⟨db₂, count₂, hoth, hsame₂, h₂⟩ := h₁.materializeOther runId hdigest
        (contained ++ later ++ fresh) (d := .management) (by rw [hdir]; decide)
      rw [hdir] at hown
      refine ⟨db₂, 0 + count₁ + count₂, ?_, (hkept (hsame₁.trans hsame₂)).1,
        (hkept (hsame₁.trans hsame₂)).2, h₂⟩
      rw [hown]
      change (materializeDirectionRefunds _ _ _ _ db₁ .management >>= _ >>= _) = _
      rw [hoth]
      rfl
    | management =>
      obtain ⟨db₁, count₁, hoth, hsame₁, h₁⟩ := hnoted.materializeOther runId hdigest
        (contained ++ later ++ fresh) (d := .promotion) (by rw [hdir]; decide)
      obtain ⟨db₂, count₂, hown, hsame₂, h₂⟩ :=
        h₁.materializeOwn runId hdigest hprc hcont hnd
      rw [hdir] at hown
      refine ⟨db₂, 0 + count₁ + count₂, ?_, (hkept (hsame₁.trans hsame₂)).1,
        (hkept (hsame₁.trans hsame₂)).2, h₂⟩
      rw [hoth]
      change (materializeDirectionRefunds _ _ _ _ db₁ .management >>= _ >>= _) = _
      rw [hown]
      rfl

end State

end DyData.Settlement
