import DyData.SettlementRefundState

/-!
Refunds that become visible one after another.  When every run sees the earlier events before the
new ones, in the order in which they occurred, the result is left with the source amount less all
refunds and with the commission of that; when an event is late, it need not be.
-/

namespace DyData.Settlement

open Relational List

/-- What happens around the refunds of a coupon: an event becomes visible, a settlement runs,
bills change, and a bill takes over deferred deltas. -/
inductive RefundAction
  | ingest (e : RefundEvent)
  | settle (runId : String)
  | bill (billing : Billing)
  | carryforward (statement : Statement) (runId : String)

/-- An action that raises is rolled back. -/
def Db.refundAct (env : Env) (coupon : RawCoupon) (db : Db) : RefundAction → Db
  | .ingest e => match db.refundEvents.insert? e with
    | some refundEvents => { db with refundEvents }
    | none => db
  | .settle runId => match materializeRefundAdjustments env db coupon runId with
    | .ok (db', _) => db'
    | .error _ => db
  | .bill billing => { db with billing }
  | .carryforward statement runId =>
    match db.applyCarryforwardSources env statement runId with
    | .ok db' => db'
    | .error _ => db

def Db.refundRun (env : Env) (coupon : RawCoupon) (db : Db) (actions : List RefundAction) : Db :=
  actions.foldl (Db.refundAct env coupon) db

/-- Every run sees the events that the runs before it saw, and the new ones occurred after
them.  Only ingested events matter. -/
def InOccurrenceOrder (env : Env) (coupon : RawCoupon) :
    Db → List RefundEvent → List RefundAction → Prop
  | _, _, [] => True
  | db, seen, .ingest e :: actions =>
    InOccurrenceOrder env coupon (db.refundAct env coupon (.ingest e)) seen actions
  | db, seen, .settle _ :: actions => seen <+: db.resolvedRefundEvents coupon ∧
    InOccurrenceOrder env coupon db (db.resolvedRefundEvents coupon) actions
  | db, seen, .bill _ :: actions => InOccurrenceOrder env coupon db seen actions
  | db, seen, .carryforward _ _ :: actions => InOccurrenceOrder env coupon db seen actions

def RefundEvent.refunded (sourceAmountCent : Int) (e : RefundEvent) : Int :=
  match e.refundType with
  | .inFull => sourceAmountCent
  | .inPart => e.refundAmountCent

def FeeResult.remaining (original : FeeResult) (events : List RefundEvent) : Int :=
  max (original.sourceAmountCent -
    (events.map (RefundEvent.refunded original.sourceAmountCent)).sum) 0

def Db.netAmounts (env : Env) (db : Db) (original : FeeResult) : Delta :=
  original.amounts + db.effectiveAdjustmentTotals env original.feeResultId

/-! ### Totals -/

theorem refunded_nonneg {source : Int} (hsrc : 0 ≤ source) (e : RefundEvent) :
    0 ≤ e.refunded source := by
  unfold RefundEvent.refunded
  split
  · exact hsrc
  · exact e.amountCheck

theorem addRefund_eq_min {source total : Int} (htot : 0 ≤ total) (e : RefundEvent) :
    addRefund source total e = min source (total + e.refunded source) := by
  unfold addRefund RefundEvent.refunded
  cases e.refundType with
  | inFull =>
    change source = min source (total + source)
    omega
  | inPart => rfl

theorem refundedAfter_eq_min {original : FeeResult} {total : Int} (htot : 0 ≤ total)
    (hbdd : total ≤ original.sourceAmountCent) (events : List RefundEvent) :
    refundedAfter original total events = min original.sourceAmountCent
      (total + (events.map (RefundEvent.refunded original.sourceAmountCent)).sum) := by
  have hsrc := original.amountCheck.1
  induction events generalizing total with
  | nil =>
    rw [refundedAfter, foldl_nil, map_nil, sum_nil]
    omega
  | cons e events ih =>
    have hnn := refunded_nonneg hsrc e
    have hrest : 0 ≤ (events.map (RefundEvent.refunded original.sourceAmountCent)).sum :=
      sum_nonneg fun x hx => by
        obtain ⟨e', -, rfl⟩ := mem_map.mp hx
        exact refunded_nonneg hsrc e'
    have hstep : addRefund original.sourceAmountCent total e =
        min original.sourceAmountCent (total + e.refunded original.sourceAmountCent) :=
      addRefund_eq_min htot e
    have hstepNonneg : 0 ≤ addRefund original.sourceAmountCent total e := by omega
    have htail := ih hstepNonneg (addRefund_le e)
    change refundedAfter original (addRefund original.sourceAmountCent total e) events = _
    rw [map_cons, sum_cons]
    omega

theorem netAfter_refundedAfter (original : FeeResult) (events : List RefundEvent) :
    original.netAfter (refundedAfter original 0 events) =
      (original.remaining events, commissionCent (original.remaining events) original.feeRate) := by
  have hrem : remainingAfter original.sourceAmountCent (refundedAfter original 0 events) =
      original.remaining events := by
    rw [refundedAfter_eq_min (Int.le_refl 0) original.amountCheck.1, remainingAfter,
      FeeResult.remaining]
    omega
  rw [FeeResult.netAfter, hrem]

theorem netAfter_nonneg (original : FeeResult) (total : Int) :
    0 ≤ (original.netAfter total).1 ∧ 0 ≤ (original.netAfter total).2 := by
  have hbase : 0 ≤ remainingAfter original.sourceAmountCent total := Int.le_max_right _ _
  exact ⟨hbase, commissionCent_nonneg hbase original.rateCheck.1⟩

theorem Settled.netAmounts {env : Env} {original : FeeResult} {contained later : List RefundEvent}
    {db : Db} (h : Settled env original contained later db)
    (hcontained : Contained original contained) :
    db.netAmounts env original = (original.remaining (contained ++ later),
      commissionCent (original.remaining (contained ++ later)) original.feeRate) := by
  have hall : refundedAfter original original.refundedAmountCent later =
      refundedAfter original 0 (contained ++ later) := by
    rw [← hcontained.total, refundedAfter, refundedAfter, refundedAfter, foldl_append]
  rw [Db.netAmounts, h.effective, hall, netAfter_refundedAfter]

/-! ### Runs -/

structure Unposted (env : Env) (original : FeeResult) (db : Db) : Prop where
  adjustments : ∀ a ∈ db.adjustments.rows, a.originalFeeResultId ≠ original.feeResultId ∧
    ∀ x, a.adjustmentId ≠ stableBusinessId env "refund-adjustment"
      [x, original.feeResultId, original.feeDirection.code]
  sources : ∀ s ∈ db.carryforwardSources.rows, s.originalFeeResultId ≠ original.feeResultId

theorem Unposted.settled {env : Env} {original : FeeResult} {db : Db} (h : Unposted env original db)
    (hpriced : Priced original) (hbook : Booked env db original.feeResultId original.feeDirection)
    (contained : List RefundEvent) : Settled env original contained [] db := by
  have hsrc : ∀ key, db.carryforwardSource key original.feeResultId original.feeDirection =
      none := by
    intro key
    refine find?_eq_none.mpr fun s hs hcond => ?_
    simp only [bool_to_prop] at hcond
    exact h.sources s hs hcond.1.2
  refine ⟨hbook, ⟨fun a ha heq => absurd heq (h.adjustments a ha).1,
    fun s hs heq => absurd heq (h.sources s hs)⟩, trivial, ?_, ?_⟩
  · have hdef : db.deferred original.feeResultId = [] := by
      refine filter_eq_nil_iff.mpr fun s hs hcond => ?_
      simp only [bool_to_prop] at hcond
      exact h.sources s hs hcond.1
    have hord : db.ordinary env original.feeResultId = [] := by
      refine filter_eq_nil_iff.mpr fun a ha hcond => ?_
      simp only [bool_to_prop] at hcond
      exact (h.adjustments a ha).1 hcond.1.1
    rw [Db.effectiveAdjustmentTotals, hdef, hord, map_nil, map_nil, sum_nil, add_zero, add_zero]
    exact hpriced.amounts
  · intro x _
    have hadj : db.adjustments.get? (stableBusinessId env "refund-adjustment"
        [x, original.feeResultId, original.feeDirection.code]) = none :=
      db.adjustments.get?_eq_none_iff.mpr fun a ha => (h.adjustments a ha).2 x
    rw [Db.refundPosting, hsrc, hadj]
    rfl

structure RefundProgress (env : Env) (coupon : RawCoupon) (original : FeeResult)
    (contained : List RefundEvent) (input : Db) (seen : List RefundEvent) (db : Db) : Prop where
  events : db.refundEvents = input.refundEvents
  coupons : db.coupons = input.coupons
  state : ∃ later, seen = contained ++ later ∧ RefundState env coupon original contained later db

section Run

variable {env : Env} {coupon : RawCoupon} {original : FeeResult} {contained seen : List RefundEvent}
  {input db : Db} {actions : List RefundAction} (hdigest : Function.Injective env.digest40)
  (hpriced : Priced original) (hcontained : Contained original contained)

theorem RefundProgress.ingest (h : RefundProgress env coupon original contained input seen db)
    (e : RefundEvent) : RefundProgress env coupon original contained
      (input.refundAct env coupon (.ingest e)) seen (db.refundAct env coupon (.ingest e)) := by
  obtain ⟨hevs, hcoup, later, hseen, hstt⟩ := h
  simp only [Db.refundAct, hevs]
  cases input.refundEvents.insert? e with
  | none => exact ⟨hevs, hcoup, later, hseen, hstt⟩
  | some refundEvents =>
    exact ⟨rfl, hcoup, later, hseen, hstt.of_rows rfl rfl rfl rfl rfl rfl⟩

theorem RefundProgress.carryforward
    (h : RefundProgress env coupon original contained input seen db) (statement : Statement)
    (runId : String) : RefundProgress env coupon original contained input seen
      (db.refundAct env coupon (.carryforward statement runId)) := by
  simp only [Db.refundAct]
  cases happly : db.applyCarryforwardSources env statement runId with
  | error _ => exact h
  | ok db' =>
    refine applyCarryforwardSources_ok happly
      (P := RefundProgress env coupon original contained input seen) ?_ ?_ h
    · rintro t t' hrows ⟨hevs, hcoup, later, hseen, hstt⟩
      refine ⟨?_, ?_, later, hseen, hstt.of_sameRows hrows⟩
      · rw [hrows]
        exact hevs
      · rw [hrows]
        exact hcoup
    · rintro source t t' hcarr ⟨hevs, hcoup, later, hseen, hstt⟩
      refine ⟨?_, ?_, later, hseen, hstt.carried hcarr⟩
      · rw [hcarr.same]
        exact hevs
      · rw [hcarr.same]
        exact hcoup

include hdigest hpriced hcontained

/-- A run that sees the earlier events first posts the new ones. -/
theorem RefundProgress.settle (h : RefundProgress env coupon original contained input seen db)
    (hseen : seen <+: input.resolvedRefundEvents coupon) (runId : String) :
    RefundProgress env coupon original contained input (input.resolvedRefundEvents coupon)
      (db.refundAct env coupon (.settle runId)) := by
  obtain ⟨hevs, hcoup, later, rfl, hstt⟩ := h
  obtain ⟨fresh, hfr⟩ := hseen
  have hvis : db.resolvedRefundEvents coupon = contained ++ later ++ fresh :=
    (resolvedRefundEvents_congr hevs hcoup coupon).trans hfr.symm
  obtain ⟨_, _, hok, hevs', hcoup', hstt'⟩ :=
    hstt.materialize runId hdigest hpriced hcontained hvis
  simp only [Db.refundAct, hok]
  refine ⟨hevs'.trans hevs, hcoup'.trans hcoup, later ++ fresh, ?_, hstt'⟩
  rw [← hfr, append_assoc]

/-- Any part of the run keeps the state, and what remains is in order. -/
theorem RefundProgress.run {before after : List RefundAction}
    (h : RefundProgress env coupon original contained input seen db)
    (hord : InOccurrenceOrder env coupon input seen (before ++ after)) :
    ∃ input' seen', RefundProgress env coupon original contained input' seen'
        (db.refundRun env coupon before) ∧
      InOccurrenceOrder env coupon input' seen' after := by
  induction before generalizing input seen db with
  | nil => exact ⟨input, seen, h, hord⟩
  | cons action before ih =>
    cases action with
    | ingest e => exact ih (h.ingest e) hord
    | settle runId => exact ih (h.settle hdigest hpriced hcontained hord.1 runId) hord.2
    | bill billing =>
      refine ih ⟨h.events, h.coupons, ?_⟩ hord
      obtain ⟨later, hseen, hstt⟩ := h.state
      exact ⟨later, hseen, hstt.of_rows rfl rfl rfl rfl rfl rfl⟩
    | carryforward statement runId => exact ih (h.carryforward statement runId) hord

end Run

/-- When every run sees the new events after the old ones, no amount is ever negative, and every
run leaves the source amount less all visible refunds and the commission of that. -/
theorem refunds_in_occurrence_order_settle {env : Env} (hdigest : Function.Injective env.digest40)
    {coupon : RawCoupon} {original : FeeResult} {contained : List RefundEvent} {db : Db}
    {actions : List RefundAction} (hbooked : CouponBooked env coupon.couponId db)
    (hcurrent : db.currentFeeResult coupon.couponId original.feeDirection = some original)
    (huncorrected : db.hasHistoricalFeeCorrection original.feeResultId = false)
    (hpriced : Priced original) (hcontained : Contained original contained)
    (hunposted : Unposted env original db)
    (horder : InOccurrenceOrder env coupon db contained actions) :
    (∀ before after, actions = before ++ after →
      0 ≤ ((db.refundRun env coupon before).netAmounts env original).1 ∧
      0 ≤ ((db.refundRun env coupon before).netAmounts env original).2) ∧
    ∀ before after runId, actions = before ++ .settle runId :: after →
      let settled := db.refundRun env coupon (before ++ [.settle runId])
      let remaining := original.remaining (settled.resolvedRefundEvents coupon)
      settled.netAmounts env original = (remaining, commissionCent remaining original.feeRate) := by
  have hstart : RefundProgress env coupon original contained db contained db :=
    ⟨rfl, rfl, [], (append_nil _).symm, hbooked, hcurrent, huncorrected,
      hunposted.settled hpriced (hbooked _ _ hcurrent).2.2 contained⟩
  constructor
  · rintro before after rfl
    obtain ⟨input, seen, hprogress, -⟩ := hstart.run hdigest hpriced hcontained horder
    obtain ⟨later, -, hstate⟩ := hprogress.state
    rw [Db.netAmounts, hstate.settled.effective]
    exact netAfter_nonneg original _
  · rintro before after runId rfl
    obtain ⟨_, _, hprogress, hrest⟩ := hstart.run hdigest hpriced hcontained horder
    have hsettle := hprogress.settle hdigest hpriced hcontained hrest.1 runId
    obtain ⟨_, hseen, hstate⟩ := hsettle.state
    have hrun : db.refundRun env coupon (before ++ [.settle runId]) =
        (db.refundRun env coupon before).refundAct env coupon (.settle runId) := by
      rw [Db.refundRun, foldl_append]
      rfl
    dsimp only
    rw [hrun, hstate.settled.netAmounts hcontained,
      resolvedRefundEvents_congr hsettle.events hsettle.coupons, hseen]

/-! ### A late refund -/

namespace LateRefund

def env : Env := { digest40 := id, businessMonth := fun _ => formalSettlementStart }

def coupon : RawCoupon := { couponId := "c", orderId := "o", rawOrderId := 1 }

theorem tenth_is_rate : 0 ≤ (1 / 10 : ℚ) ∧ (1 / 10 : ℚ) ≤ 1 := by decide +kernel

def original : FeeResult :=
  { feeResultId := "r", couponId := "c", orderId := "o", feeDirection := .promotion
    resultVersion := 1, originalBusinessMonth := formalSettlementStart
    saleStoreId := some "s", verifyStoreId := none
    sourceAmountCent := 1000, refundedAmountCent := 0, feeBaseCent := 1000, feeRate := 1 / 10
    feeAmountCent := 100, ruleVersion := "v1", calculationRunId := "run-0", calculatedAt := 0
    rateCheck := tenth_is_rate }

def start : Db :=
  { coupons := Table.empty.put coupon
    feeResults := Table.empty.put original
    currents := Table.empty.put { couponId := "c", feeDirection := .promotion, feeResultId := "r" } }

def inPart : RefundEvent :=
  { refundEventId := "in-part", orderId := "o", couponId := some "c", refundType := .inPart
    refundAmountCent := 200, occurredAt := 3, createdAt := 3 }

def inFull : RefundEvent :=
  { refundEventId := "in-full", orderId := "o", couponId := some "c", refundType := .inFull
    refundAmountCent := 1000, occurredAt := 5, createdAt := 5 }

theorem booked : CouponBooked env coupon.couponId start := by
  intro d result hcur
  cases d with
  | promotion =>
    obtain rfl : original = result := Option.some.inj (by rw [← hcur]; decide +kernel)
    refine ⟨rfl, by decide, ?_, ?_, ?_, ?_, ?_⟩ <;> exact fun _ h => absurd h not_mem_nil
  | management =>
    have hnone : start.currentFeeResult coupon.couponId .management = none := by decide +kernel
    cases hcur

end LateRefund

open LateRefund in
/-- The partial refund is seen before the full one. -/
theorem refunds_in_order_cancel_fee :
    (start.refundRun env coupon [.ingest inPart, .settle "run-1", .ingest inFull,
      .settle "run-2"]).netAmounts env original = (0, 0) := by
  have hpriced : Priced original := ⟨by decide +kernel, by decide⟩
  have hcontained : Contained original [] := ⟨by simp, by decide⟩
  have hunposted : Unposted env original start :=
    ⟨fun _ ha => absurd ha not_mem_nil, fun _ hs => absurd hs not_mem_nil⟩
  have horder : InOccurrenceOrder env coupon start []
      [.ingest inPart, .settle "run-1", .ingest inFull, .settle "run-2"] :=
    ⟨by decide +kernel, by decide +kernel, trivial⟩
  have hsettled := (refunds_in_occurrence_order_settle Function.injective_id booked
    (by decide +kernel) (by decide +kernel) hpriced hcontained hunposted horder).2
    [.ingest inPart, .settle "run-1", .ingest inFull] [] "run-2" rfl
  exact hsettled.trans (by decide +kernel)

open LateRefund in
/-- The full refund is settled first; the partial one, which occurred before it, is deducted from
what is no longer there. -/
theorem late_refund_deducted_twice :
    let run := start.refundRun env coupon
      [.ingest inFull, .settle "run-1", .ingest inPart, .settle "run-2"]
    start.currentFeeResult coupon.couponId original.feeDirection = some original ∧
      start.hasHistoricalFeeCorrection original.feeResultId = false ∧
      run.hasVerifyCancellation original = false ∧
      run.resolvedRefundEvents coupon = [inPart, inFull] ∧
      original.remaining [inPart, inFull] = 0 ∧
      run.netAmounts env original = (-200, -20) := by
  decide +kernel

end DyData.Settlement
