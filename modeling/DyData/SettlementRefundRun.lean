import DyData.SettlementRefundPostings

/-!
A whole run over the refund events of a result.  As long as the events a run sees extend those of
the earlier runs, the postings telescope: what the result is left with after the last event is the
source amount less everything refunded, and the commission of that.
-/

namespace DyData.Settlement

open Relational

variable {total : Int} {s : RefundLoop}

def FeeResult.netAfter (original : FeeResult) (refunded : Int) : Delta :=
  (remainingAfter original.sourceAmountCent refunded,
    commissionCent (remainingAfter original.sourceAmountCent refunded) original.feeRate)

def FeeResult.amounts (original : FeeResult) : Delta :=
  (original.feeBaseCent, original.feeAmountCent)

structure Priced (original : FeeResult) : Prop where
  amounts : original.amounts = original.netAfter original.refundedAmountCent
  snapshot : original.refundedAmountCent ≤ original.sourceAmountCent

theorem le_addRefund {source : Int} (e : RefundEvent) (h : total ≤ source) :
    total ≤ addRefund source total e := by
  unfold addRefund
  split
  · exact h
  · have hamt := e.amountCheck
    omega

theorem addRefund_le {source : Int} (e : RefundEvent) : addRefund source total e ≤ source := by
  unfold addRefund
  split
  · exact Int.le_refl _
  · omega

def refundedAfter (original : FeeResult) (total : Int) (events : List RefundEvent) : Int :=
  events.foldl (addRefund original.sourceAmountCent) total

theorem le_refundedAfter {original : FeeResult} (events : List RefundEvent)
    (h : total ≤ original.sourceAmountCent) : total ≤ refundedAfter original total events := by
  induction events generalizing total with
  | nil => exact Int.le_refl _
  | cons e events ih =>
    exact (le_addRefund e h).trans (ih (addRefund_le e))

def AllPosted (env : Env) (db : Db) (original : FeeResult) : Int → List RefundEvent → Prop
  | _, [] => True
  | total, e :: events =>
    (Covered original (addRefund original.sourceAmountCent total e) e ∨
      db.refundPosting env original.feeResultId original.feeDirection e.refundEventId =
        some (original.netAfter (addRefund original.sourceAmountCent total e) -
          original.netAfter total)) ∧
    AllPosted env db original (addRefund original.sourceAmountCent total e) events

section AllPosted

variable {env : Env} {db db' : Db} {original : FeeResult}

theorem AllPosted.congr {events : List RefundEvent} (h : AllPosted env db original total events)
    (hpost : ∀ e ∈ events,
      db'.refundPosting env original.feeResultId original.feeDirection e.refundEventId =
        db.refundPosting env original.feeResultId original.feeDirection e.refundEventId) :
    AllPosted env db' original total events := by
  induction events generalizing total with
  | nil => trivial
  | cons e events ih =>
    refine ⟨?_, ih h.2 fun e' he' => hpost e' (List.mem_cons_of_mem _ he')⟩
    rw [hpost e List.mem_cons_self]
    exact h.1

theorem AllPosted.append {events events' : List RefundEvent}
    (h : AllPosted env db original total events)
    (h' : AllPosted env db original (refundedAfter original total events) events') :
    AllPosted env db original total (events ++ events') := by
  induction events generalizing total with
  | nil => exact h'
  | cons e events ih => exact ⟨h.1, ih h.2 h'⟩

end AllPosted

structure Accounted (original : FeeResult) (s : RefundLoop) (total : Int) : Prop where
  cumulative : s.cumulativeRefund = total
  events : s.eventRefundTotal = total
  applied : original.amounts + s.applied = original.netAfter total
  snapshot : original.refundedAmountCent ≤ total
  bounded : total ≤ original.sourceAmountCent

/-- A covered event changes no total once the snapshot is reached. -/
theorem addRefund_eq_of_covered {original : FeeResult} {e : RefundEvent}
    (hsnap : original.refundedAmountCent ≤ total) (hbdd : total ≤ original.sourceAmountCent)
    (hcov : Covered original (addRefund original.sourceAmountCent total e) e) :
    addRefund original.sourceAmountCent total e = total := by
  have hle := le_addRefund e hbdd
  have hcov := hcov.2
  omega

theorem refundDelta_eq {env : Env} {original : FeeResult} (h : Accounted original s total)
    (e : RefundEvent) : refundDelta env original false s e =
      original.netAfter (addRefund original.sourceAmountCent total e) -
        original.netAfter total := by
  have happl := h.applied
  rw [refundDelta, h.cumulative, ← happl, Bool.false_and, sub_sub]
  rfl

theorem Accounted.skip {original : FeeResult} {s' : RefundLoop} (h : Accounted original s total)
    {e : RefundEvent}
    (htot : s'.eventRefundTotal = addRefund original.sourceAmountCent s.eventRefundTotal e)
    (hcov : Covered original s'.eventRefundTotal e)
    (hcum : s'.cumulativeRefund = s.cumulativeRefund) (happl : s'.applied = s.applied) :
    Accounted original s' (addRefund original.sourceAmountCent total e) := by
  rw [h.events] at htot
  rw [htot] at hcov
  have hsame := addRefund_eq_of_covered h.snapshot h.bounded hcov
  refine ⟨?_, htot, ?_, ?_, addRefund_le e⟩
  · rw [hcum, h.cumulative, hsame]
  · rw [happl, h.applied, hsame]
  · rw [hsame]
    exact h.snapshot

theorem Accounted.account {original : FeeResult} {s' : RefundLoop} (h : Accounted original s total)
    {e : RefundEvent}
    (htot : s'.eventRefundTotal = addRefund original.sourceAmountCent s.eventRefundTotal e)
    (hcum : s'.cumulativeRefund =
      addRefund original.sourceAmountCent s.cumulativeRefund e) (happl : s'.applied = s.applied +
      (original.netAfter (addRefund original.sourceAmountCent total e) - original.netAfter total)) :
    Accounted original s' (addRefund original.sourceAmountCent total e) := by
  refine ⟨?_, ?_, ?_, h.snapshot.trans (le_addRefund e h.bounded), addRefund_le e⟩
  · rw [hcum, h.cumulative]
  · rw [htot, h.events]
  · rw [happl, ← add_assoc, h.applied, add_sub_cancel]

/-! ### Runs of the loop -/

def Db.SameRows (db db' : Db) : Prop := db' = { db with issues := db'.issues }

theorem Db.SameRows.trans {db db' db'' : Db} (h : db.SameRows db') (h' : db'.SameRows db'') :
    db.SameRows db'' := by
  unfold Db.SameRows at *
  rw [h']
  conv_lhs => rw [h]

theorem Db.SameExceptPostings.sameRows {db db' : Db} (h : db.SameExceptPostings db')
    (ha : db'.adjustments = db.adjustments)
    (hs : db'.carryforwardSources = db.carryforwardSources) : db.SameRows db' := by
  unfold Db.SameExceptPostings at h
  rw [ha, hs] at h
  exact h

theorem Db.SameRows.sameExceptPostings {db db' : Db} (h : db.SameRows db') :
    db.SameExceptPostings db' := by
  unfold Db.SameExceptPostings at *
  rw [h]

structure Stable (env : Env) (original : FeeResult) (P : Db → Prop) : Prop where
  rows : ∀ db db', db.SameRows db' → P db → P db'
  posted : ∀ db db' e delta, db.SameExceptPostings db' →
    Posted env original original.feeDirection e delta db db' → P db → P db'

section Loop

variable {env : Env} {original : FeeResult} (runId : String) (events : List RefundEvent)

theorem fold_covered (manualBasis manualAmountOverride : Bool) {contained : List RefundEvent}
    (hobs : ∀ e ∈ contained, e.observedAt ≤ original.calculatedAt)
    (hbdd : s.eventRefundTotal ≤ original.sourceAmountCent)
    (hsnap : refundedAfter original s.eventRefundTotal contained ≤ original.refundedAmountCent) :
    contained.foldlM (refundStep env original original.feeDirection runId manualBasis
        manualAmountOverride events) s =
      .ok { s with eventRefundTotal := refundedAfter original s.eventRefundTotal contained } := by
  induction contained generalizing s with
  | nil => rfl
  | cons e contained ih =>
    have hle : addRefund original.sourceAmountCent s.eventRefundTotal e ≤
        original.refundedAmountCent :=
      (le_refundedAfter contained (addRefund_le e)).trans hsnap
    have hstep : refundStep env original original.feeDirection runId manualBasis
        manualAmountOverride events s e = .ok { s with
          eventRefundTotal := addRefund original.sourceAmountCent s.eventRefundTotal e } :=
      if_pos ⟨hobs e List.mem_cons_self, hle⟩
    rw [List.foldlM_cons, hstep]
    exact ih (s := { s with
        eventRefundTotal := addRefund original.sourceAmountCent s.eventRefundTotal e })
      (fun e' he' => hobs e' (List.mem_cons_of_mem _ he')) (addRefund_le e) hsnap

variable {storeId : String} (hstore : original.knownStore original.feeDirection = some storeId)
include hstore

/-- Events that earlier runs posted are accounted for and change nothing. -/
theorem fold_known {known : List RefundEvent}
    (hbook : Booked env s.db original.feeResultId original.feeDirection)
    (hacc : Accounted original s total) (hpost : AllPosted env s.db original total known) :
    ∃ s', known.foldlM (refundStep env original original.feeDirection runId false false events) s =
        .ok s' ∧
      s.db.SameRows s'.db ∧ Accounted original s' (refundedAfter original total known) := by
  induction known generalizing s total with
  | nil => exact ⟨s, rfl, rfl, hacc⟩
  | cons e known ih =>
    obtain ⟨s', hok, htot, hsame, heff⟩ :=
      refundStep_exists runId hstore hbook false false events e
    have htot' : s'.eventRefundTotal = addRefund original.sourceAmountCent total e := by
      rw [htot, hacc.events]
    obtain ⟨hrows, hacc'⟩ : s.db.SameRows s'.db ∧
        Accounted original s' (addRefund original.sourceAmountCent total e) := by
      cases heff with
      | skipped reason adjustments sources cumulative applied =>
        rcases reason with hcov | hfalse
        · exact ⟨hsame.sameRows adjustments sources, hacc.skip htot hcov cumulative applied⟩
        · cases hfalse
      | known delta hopen posting adjustments sources cumulative applied =>
        rcases hpost.1 with hcov | hdelta
        · rw [htot'] at hopen
          exact absurd hcov hopen
        · rw [Option.mem_unique posting hdelta] at applied
          exact ⟨hsame.sameRows adjustments sources, hacc.account htot cumulative applied⟩
      | posted hopen posting row cumulative applied =>
        rcases hpost.1 with hcov | hdelta
        · rw [htot'] at hopen
          exact absurd hcov hopen
        · rw [posting] at hdelta
          cases hdelta
    obtain ⟨s'', hrest, hrows', hacc''⟩ := ih (s := s')
      (by rw [hrows]; exact hbook.of_rows rfl rfl rfl) hacc'
      (hpost.2.congr fun e' _ => by rw [hrows]; rfl)
    refine ⟨s'', ?_, hrows.trans hrows', hacc''⟩
    rw [List.foldlM_cons, hok]
    exact hrest

end Loop

end DyData.Settlement
