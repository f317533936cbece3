import DyData.SettlementCarryforward
import DyData.SettlementRefundRounds

/-!
Posting a deferred delta to a bill moves it from one table to another: the effective totals of its
result and the postings of its events stay what they were.
-/

namespace DyData.Settlement

open Relational List

structure Carried (env : Env) (source : CarryforwardSource) (db db' : Db) : Prop where
  member : source ∈ db.carryforwardSources.rows
  same : db' = { db with
    adjustments := db'.adjustments
    carryforwardApplications := db'.carryforwardApplications
    issues := db'.issues }
  posted : ∃ version statement runId,
    db'.adjustments.rows = db.adjustments.rows ++
      [carryforwardAdjustment env source version statement runId] ∧
    db'.carryforwardApplications.rows = db.carryforwardApplications.rows ++
      [carryforwardApplication env source version statement runId]

theorem addApplication_ok {db db' : Db} {p : CarryforwardApplication}
    (h : db.addApplication p = .ok db') :
    db'.carryforwardApplications.rows = db.carryforwardApplications.rows ++ [p] ∧
      db' = { db with carryforwardApplications := db'.carryforwardApplications } := by
  unfold Db.addApplication at h
  split at h
  · cases h
  · split at h
    · cases h
    · rename_i hins
      cases h
      exact ⟨Table.rows_insert? hins, rfl⟩

theorem applyCarryforwardSource_ok {env : Env} {statement : Statement} {runId : String}
    {db db' : Db} {source : CarryforwardSource} (hmem : source ∈ db.carryforwardSources.rows)
    (h : db.applyCarryforwardSource env statement runId source = .ok db') :
    db.SameRows db' ∨ Carried env source db db' := by
  unfold Db.applyCarryforwardSource at h
  split at h
  · cases h
    exact .inl rfl
  split at h
  · cases h
    exact .inl rfl
  split at h
  · cases h
  · obtain ⟨_, hadj, h⟩ := Except.of_bind h
    obtain ⟨_, happ, h⟩ := Except.of_bind h
    cases h
    obtain ⟨hrows, hsame⟩ := addAdjustment_ok hadj
    obtain ⟨hrows', hsame'⟩ := addApplication_ok happ
    refine .inr ⟨hmem, ?_, db.nextApplicationVersion source.carryforwardSourceId, statement,
      runId, ?_, ?_⟩
    · rw [hsame', hsame]
      rfl
    · rw [← hrows, hsame']
      rfl
    · rw [hsame] at hrows'
      exact hrows'

section Carried

variable {env : Env} {source : CarryforwardSource} {db db' : Db}
  (h : Carried env source db db')
include h

theorem Carried.sources : db'.carryforwardSources = db.carryforwardSources := by
  rw [h.same]

theorem Carried.refundPosting (r : String) (d : Direction) (x : String) :
    db'.refundPosting env r d x = db.refundPosting env r d x := by
  obtain ⟨_, _, _, hrows, -⟩ := h.posted
  have hadj : db'.adjustments.get? (stableBusinessId env "refund-adjustment"
      [x, r, d.code]) =
      db.adjustments.get? (stableBusinessId env "refund-adjustment" [x, r, d.code]) := by
    rw [Table.get?, Table.get?, hrows, find?_append, find?_singleton, if_neg, Option.or_none]
    intro hid
    exact stableBusinessId_ne_of_kind env (n := 1) (by decide) (by decide) (by decide)
      (of_decide_eq_true hid)
  rw [Db.refundPosting, Db.refundPosting, hadj]
  simp only [Db.carryforwardSource, h.sources]

theorem Carried.effective (r : String) :
    db'.effectiveAdjustmentTotals env r = db.effectiveAdjustmentTotals env r := by
  obtain ⟨version, statement, runId, hrows, happs⟩ := h.posted
  set a := carryforwardAdjustment env source version statement runId with ha
  have hnew : ∀ b ∈ db.adjustments.rows, b.adjustmentId ≠ a.adjustmentId := by
    intro b hb hid
    have hnd := db'.adjustments.nodup
    rw [hrows, map_append, nodup_append] at hnd
    exact hnd.2.2 _ (mem_map_of_mem hb) _ (mem_map_of_mem (mem_singleton_self a))
      hid
  have hmat : ∀ id, db'.materialized r id =
      (db.materialized r id || (a.adjustmentId = id && source.originalFeeResultId = r)) := by
    intro id
    rw [Db.materialized, happs, any_append, h.sources]
    congr 1
    rw [any_cons, any_nil, Bool.or_false]
    by_cases hid : a.adjustmentId = id
    · have happ : (carryforwardApplication env source version statement
          runId).targetAdjustmentId = id := hid
      rw [decide_eq_true happ, decide_eq_true hid, Bool.true_and, Bool.true_and]
      rw [Bool.eq_iff_iff, any_eq_true, decide_eq_true_eq]
      constructor
      · rintro ⟨s, hs, hcond⟩
        simp only [bool_to_prop] at hcond
        rw [← db.carryforwardSources.eq_of_key_eq hs h.member hcond.2]
        exact hcond.1
      · intro hr
        exact ⟨source, h.member, by simp [hr, carryforwardApplication]⟩
    · have happ : (carryforwardApplication env source version statement
          runId).targetAdjustmentId ≠ id := hid
      rw [decide_eq_false happ, decide_eq_false hid, Bool.false_and, Bool.false_and]
  have hord : db'.ordinary env r = db.ordinary env r := by
    rw [Db.ordinary, Db.ordinary, hrows, filter_append]
    have hlast : [a].filter (fun b => b.originalFeeResultId = r &&
        !db'.materialized r b.adjustmentId &&
        b.adjustmentId ≠ stableBusinessId env "reverification" [r]) = [] := by
      rw [filter_eq_nil_iff]
      intro b hb
      rw [mem_singleton.mp hb, hmat]
      by_cases hr : source.originalFeeResultId = r
      · simp [hr]
      · have : a.originalFeeResultId ≠ r := hr
        simp [this]
    rw [hlast, append_nil]
    refine filter_congr fun b hb => ?_
    rw [hmat, decide_eq_false (hnew b hb).symm, Bool.false_and, Bool.or_false]
  have hdef : db'.deferred r = db.deferred r := by
    rw [Db.deferred, Db.deferred, h.sources]
  rw [Db.effectiveAdjustmentTotals, Db.effectiveAdjustmentTotals, hord, hdef]

theorem Carried.booked {r : String} {d : Direction} (hbook : Booked env db r d) :
    Booked env db' r d := by
  obtain ⟨_, _, _, hrows, happs⟩ := h.posted
  refine hbook.append hrows (S := []) (by rw [h.sources, append_nil]) happs ?_
    (forall_mem_nil _) ?_
  · -- the delta is still found among the deferred ones
    intro a ha horig hdir x hx
    obtain rfl := mem_singleton.mp ha
    obtain ⟨hkey, -⟩ := hbook.sourceKeys source h.member horig x hx
    left
    rw [Db.carryforwardSource, h.sources, find?_isSome]
    refine ⟨source, h.member, ?_⟩
    have horig : source.originalFeeResultId = r := horig
    have hdir : source.feeDirection = d := hdir
    simp [hkey, horig, hdir]
  · intro p hp
    obtain rfl := mem_singleton.mp hp
    rw [h.sources, hrows]
    exact ⟨⟨source, h.member, rfl⟩, _, mem_append_right _ (mem_singleton_self _), rfl⟩

theorem Carried.uncancelled {r : String} (hunc : Uncancelled db r) : Uncancelled db' r := by
  obtain ⟨_, _, _, hrows, -⟩ := h.posted
  refine ⟨fun a ha horig => ?_, by rw [h.sources]; exact hunc.sources⟩
  rw [hrows, mem_append, mem_singleton] at ha
  rcases ha with ha | rfl
  · exact hunc.adjustments a ha horig
  · exact hunc.sources source h.member horig

theorem Carried.settled {original : FeeResult} {contained later : List RefundEvent}
    (hsett : Settled env original contained later db) :
    Settled env original contained later db' := by
  refine ⟨h.booked hsett.booked, h.uncancelled hsett.uncancelled,
    hsett.posted.congr fun e _ => h.refundPosting _ _ _, ?_, ?_⟩
  · rw [h.effective]
    exact hsett.effective
  · intro x hx
    rw [h.refundPosting]
    exact hsett.unseen x hx

theorem Carried.couponBooked {couponId : String} (hcoup : CouponBooked env couponId db) :
    CouponBooked env couponId db' := by
  intro d original hcur
  have hcur' : db.currentFeeResult couponId d = some original := by
    rw [← hcur, h.same]
    rfl
  obtain ⟨hdir, hst, hbook⟩ := hcoup d original hcur'
  exact ⟨hdir, hst, h.booked hbook⟩

end Carried

theorem applyCarryforwardSources_ok {env : Env} {statement : Statement} {runId : String}
    {db db' : Db} (h : db.applyCarryforwardSources env statement runId = .ok db') {P : Db → Prop}
    (hrows : ∀ db db', Db.SameRows db db' → P db → P db')
    (hcarr : ∀ source db db', Carried env source db db' → P db → P db') (hP : P db) : P db' := by
  refine (Except.foldlM_ok (P := fun t => t.carryforwardSources = db.carryforwardSources ∧ P t) h
    ⟨rfl, hP⟩ ?_).2
  rintro source hsrc t t' ⟨hsrcs, ht⟩ hstep
  have hmem : source ∈ t.carryforwardSources.rows := by
    rw [hsrcs]
    exact (mem_filter.mp ((mem_insertionSort _).mp hsrc)).1
  rcases applyCarryforwardSource_ok hmem hstep with hsame | hstep
  · refine ⟨?_, hrows _ _ hsame ht⟩
    rw [hsame]
    exact hsrcs
  · exact ⟨hstep.sources.trans hsrcs, hcarr _ _ _ hstep ht⟩

end DyData.Settlement
