import DyData.SettlementRefundSpec

/-!
What a posted refund delta changes: the posting of its own event and the totals of its own result,
and nothing else.  The rows stay rows that the settlement could have written.
-/

namespace DyData.Settlement

open Relational List Option

structure Uncancelled (db : Db) (r : String) : Prop where
  adjustments : ∀ a ∈ db.adjustments.rows, a.originalFeeResultId = r →
    a.adjustmentType ≠ .verifyCancellation
  sources : ∀ s ∈ db.carryforwardSources.rows, s.originalFeeResultId = r →
    s.adjustmentType ≠ .verifyCancellation

theorem Uncancelled.hasVerifyCancellation {db : Db} {original : FeeResult}
    (h : Uncancelled db original.feeResultId) : db.hasVerifyCancellation original = false := by
  rw [Db.hasVerifyCancellation, Bool.or_eq_false_iff, List.any_eq_false, List.any_eq_false]
  constructor
  · intro a ha hcond
    simp only [bool_to_prop] at hcond
    exact h.adjustments a ha hcond.1 hcond.2
  · intro s hs hcond
    simp only [bool_to_prop] at hcond
    exact h.sources s hs hcond.1.1 hcond.2

theorem RefundType.adjustmentType_ne (t : RefundType) : t.adjustmentType ≠ .verifyCancellation := by
  cases t <;> decide

theorem refundPosting_eq_none {env : Env} {db : Db} {r x : String} {d : Direction}
    (h : db.refundPosting env r d x = none) : db.carryforwardSource ("refund:" ++ x) r d = none ∧
      db.adjustments.get? (stableBusinessId env "refund-adjustment" [x, r, d.code]) = none := by
  unfold Db.refundPosting at h
  split at h
  · cases h
  · rename_i hnone
    exact ⟨hnone, map_eq_none_iff.mp h⟩

theorem Db.SameExceptPostings.applications {db db' : Db} (h : db.SameExceptPostings db') :
    db'.carryforwardApplications = db.carryforwardApplications := by
  rw [h]

section Posted

variable {env : Env} {db db' : Db} {original : FeeResult} {e : RefundEvent} {delta : Delta}
  (hposted : Posted env original original.feeDirection e delta db db')
include hposted

theorem Posted.posting_self
    (hpost : db.refundPosting env original.feeResultId original.feeDirection
      e.refundEventId = none) :
    db'.refundPosting env original.feeResultId original.feeDirection e.refundEventId =
      some delta := by
  obtain ⟨hsrc, -⟩ := refundPosting_eq_none hpost
  cases hposted with
  | adjusted runId adjustments sources =>
    have hsrc' : db'.carryforwardSource ("refund:" ++ e.refundEventId) original.feeResultId
        original.feeDirection = none := by
      rw [Db.carryforwardSource, sources]
      exact hsrc
    have hrow : db'.adjustments.get? (stableBusinessId env "refund-adjustment"
        [e.refundEventId, original.feeResultId, original.feeDirection.code]) =
        some (refundAdjustment env original original.feeDirection runId e delta) := by
      refine db'.adjustments.get?_eq_some_iff.mpr ⟨?_, rfl⟩
      rw [adjustments]
      exact mem_append_right _ (mem_singleton_self _)
    rw [Db.refundPosting, hsrc', hrow]
    rfl
  | deferred runId storeId adjustments sources =>
    have hrow : db'.carryforwardSource ("refund:" ++ e.refundEventId) original.feeResultId
        original.feeDirection =
        some (refundCarryforward env original runId storeId e delta) := by
      rw [Db.carryforwardSource] at hsrc
      rw [Db.carryforwardSource, sources, find?_append, hsrc, none_or,
        find?_singleton]
      simp [refundCarryforward, refundEventKey]
    rw [Db.refundPosting, hrow]
    rfl

theorem Posted.posting_other (hdig : Function.Injective env.digest40) {r x : String}
    {d : Direction} (hoth : d ≠ original.feeDirection ∨
      (d = original.feeDirection ∧ r = original.feeResultId ∧ x ≠ e.refundEventId)) :
    db'.refundPosting env r d x = db.refundPosting env r d x := by
  have hadj : db'.adjustments.get? (stableBusinessId env "refund-adjustment"
      [x, r, d.code]) =
      db.adjustments.get? (stableBusinessId env "refund-adjustment" [x, r, d.code]) := by
    cases hposted with
    | deferred _ _ adjustments _ => rw [adjustments]
    | adjusted runId adjustments _ =>
      rw [Table.get?, Table.get?, adjustments, find?_append, find?_singleton, if_neg,
        or_none]
      intro hid
      have hid := of_decide_eq_true hid
      have hdir := direction_of_stableBusinessId hdig hid
      rcases hoth with hne | ⟨hd, hr, hx⟩
      · exact hne hdir.symm
      · rw [hd, hr] at hid
        exact hx (refundEventId_of_adjustmentId hdig hid).symm
  have hsrc : db'.carryforwardSource ("refund:" ++ x) r d =
      db.carryforwardSource ("refund:" ++ x) r d := by
    cases hposted with
    | adjusted _ _ sources => rw [Db.carryforwardSource, Db.carryforwardSource, sources]
    | deferred runId storeId _ sources =>
      rw [Db.carryforwardSource, Db.carryforwardSource, sources, find?_append,
        find?_singleton, if_neg, or_none]
      intro hkey
      simp only [refundCarryforward, refundEventKey, Bool.and_eq_true] at hkey
      obtain ⟨⟨hkey, -⟩, hdir⟩ := hkey
      rcases hoth with hne | ⟨-, -, hx⟩
      · exact hne (of_decide_eq_true hdir).symm
      · exact hx ((String.append_right_inj _).mp (of_decide_eq_true hkey)).symm
  rw [Db.refundPosting, Db.refundPosting, hsrc, hadj]

theorem Posted.effective_self (hsame : db.SameExceptPostings db')
    (hbook : Booked env db original.feeResultId original.feeDirection)
    (hpost : db.refundPosting env original.feeResultId original.feeDirection
      e.refundEventId = none) :
    db'.effectiveAdjustmentTotals env original.feeResultId =
      db.effectiveAdjustmentTotals env original.feeResultId + delta := by
  obtain ⟨hsrc, hadj⟩ := refundPosting_eq_none hpost
  have happ := congrArg Table.rows hsame.applications
  cases hposted with
  | adjusted runId adjustments sources =>
    rw [effectiveTotals_addAdjustment happ adjustments (congrArg Table.rows sources), if_pos]
    · rfl
    refine ⟨rfl, ?_, stableBusinessId_ne_of_kind env (n := 3) (by decide) (by decide) (by decide)⟩
    rw [Db.materialized, List.any_eq_false]
    intro p hp hcond
    rw [Bool.and_eq_true, decide_eq_true_eq] at hcond
    -- an application of the new adjustment would name a row that does not exist yet
    obtain ⟨a, ha, hid⟩ := hbook.targets p hp
    exact db.adjustments.get?_eq_none_iff.mp hadj a ha (hid.trans hcond.1)
  | deferred runId storeId adjustments sources =>
    rw [effectiveTotals_addSource happ (congrArg Table.rows adjustments) sources, if_pos]
    · rfl
    · exact ⟨rfl, refundKey_ne_reverification _ _⟩
    intro _ p hp hid
    obtain ⟨s, hs, hids⟩ := hbook.origins p hp
    obtain ⟨hkey, horig, hdir⟩ := hbook.sourceIds s hs _ (hids.trans hid)
    have hnone := find?_eq_none.mp hsrc s hs
    simp [hkey, horig, hdir] at hnone

theorem Posted.effective_other (hsame : db.SameExceptPostings db') {r : String}
    (hr : r ≠ original.feeResultId) :
    db'.effectiveAdjustmentTotals env r = db.effectiveAdjustmentTotals env r := by
  have happ := congrArg Table.rows hsame.applications
  cases hposted with
  | adjusted runId adjustments sources =>
    rw [effectiveTotals_addAdjustment happ adjustments (congrArg Table.rows sources), if_neg,
      add_zero]
    exact fun h => hr h.1.symm
  | deferred runId storeId adjustments sources =>
    rw [effectiveTotals_addSource happ (congrArg Table.rows adjustments) sources, if_neg, add_zero]
    · exact fun h => hr h.1.symm
    · exact fun h => absurd h.symm hr

theorem Posted.uncancelled {r : String} (h : Uncancelled db r) : Uncancelled db' r := by
  cases hposted with
  | adjusted runId adjustments sources =>
    refine ⟨fun a ha hr => ?_, by rw [sources]; exact h.sources⟩
    rw [adjustments, mem_append, mem_singleton] at ha
    rcases ha with ha | rfl
    · exact h.adjustments a ha hr
    · exact e.refundType.adjustmentType_ne
  | deferred runId storeId adjustments sources =>
    refine ⟨by rw [adjustments]; exact h.adjustments, fun s hs hr => ?_⟩
    rw [sources, mem_append, mem_singleton] at hs
    rcases hs with hs | rfl
    · exact h.sources s hs hr
    · exact e.refundType.adjustmentType_ne

end Posted

/-- The rows stay booked, those of the result and those of any result of the other direction. -/
theorem Posted.booked {env : Env} {db db' : Db} {original : FeeResult} {e : RefundEvent}
    {delta : Delta} (hposted : Posted env original original.feeDirection e delta db db')
    (hsame : db.SameExceptPostings db') (hdig : Function.Injective env.digest40) {r : String}
    {d : Direction} (hslot : (r ≠ original.feeResultId ∧ d ≠ original.feeDirection) ∨
      (r = original.feeResultId ∧ d = original.feeDirection))
    (h : Booked env db r d) : Booked env db' r d := by
  have happ : db'.carryforwardApplications.rows = db.carryforwardApplications.rows ++ [] := by
    rw [hsame.applications, append_nil]
  cases hposted with
  | adjusted runId adjustments sources =>
    refine h.append adjustments (S := []) (by rw [sources, append_nil]) happ ?_ (forall_mem_nil _)
      (forall_mem_nil _)
    intro a ha horig hdir x hx
    obtain rfl := mem_singleton.mp ha
    cases hx
    rcases hslot with ⟨hr, -⟩ | ⟨rfl, rfl⟩
    · exact absurd horig.symm hr
    · exact .inr rfl
  | deferred runId storeId adjustments sources =>
    refine h.append (A := []) (by rw [adjustments, append_nil]) sources happ (forall_mem_nil _) ?_
      (forall_mem_nil _)
    intro s hs
    obtain rfl := mem_singleton.mp hs
    refine ⟨fun x hid => ?_, fun horig x hx => ?_⟩
    · rcases hslot with ⟨-, hd⟩ | ⟨rfl, rfl⟩
      · exact absurd (direction_of_stableBusinessId hdig hid).symm hd
      · obtain rfl : e.refundEventId = x := refundEventId_of_sourceId hdig hid
        exact ⟨rfl, rfl, rfl⟩
    · rcases hslot with ⟨hr, -⟩ | ⟨rfl, rfl⟩
      · exact absurd horig.symm hr
      · cases hx
        exact ⟨rfl, rfl⟩

end DyData.Settlement
