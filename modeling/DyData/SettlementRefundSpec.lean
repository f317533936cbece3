import DyData.SettlementRefunds

/-!
What one step of the refund loop does to the ledger: an event is covered by the snapshot, or its
delta is known from an earlier run, or exactly one row is added that carries the new delta.
-/

namespace DyData.Settlement

open Relational List

variable {d : Direction} {original : FeeResult} {e : RefundEvent}

/-! ### Identifiers -/

theorem Direction.code_injective : Function.Injective Direction.code := by
  intro d d' h
  cases d <;> cases d' <;> first | rfl | exact absurd h (by decide)

theorem joinParts_concat (kind : String) (parts : List String) (part : String) :
    joinParts kind (parts ++ [part]) = joinParts kind parts ++ "\x1f" ++ part := by
  rw [joinParts, foldl_append]
  rfl

/-- The direction is the last character of what an identifier joins. -/
theorem direction_of_joinParts {kind kind' : String} (parts parts' : List String) {d' : Direction}
    (h : joinParts kind (parts ++ [d.code]) = joinParts kind' (parts' ++ [d'.code])) : d = d' := by
  rw [joinParts_concat, joinParts_concat] at h
  have hlist := congrArg String.toList h
  simp only [String.toList_append] at hlist
  have hlen : d.code.toList.length = d'.code.toList.length := by
    cases d <;> cases d' <;> decide
  exact Direction.code_injective (String.toList_inj.mp (append_inj_right' hlist hlen))

section Identifiers

variable {env : Env} (hdigest : Function.Injective env.digest40)
include hdigest

theorem refundEventId_of_adjustmentId {x x' r : String}
    (h : stableBusinessId env "refund-adjustment" [x, r, d.code] =
      stableBusinessId env "refund-adjustment" [x', r, d.code]) : x = x' := by
  have hjoin := joinParts_of_stableBusinessId_eq hdigest h
  simpa [joinParts] using hjoin

theorem refundEventId_of_sourceId {x x' r : String}
    (h : stableBusinessId env "carryforward-source" ["refund:" ++ x, r, d.code] =
      stableBusinessId env "carryforward-source" ["refund:" ++ x', r, d.code]) : x = x' := by
  have hjoin := joinParts_of_stableBusinessId_eq hdigest h
  simpa [joinParts] using hjoin

theorem direction_of_stableBusinessId {kind : String} {x x' r r' : String} {d' : Direction}
    (h : stableBusinessId env kind [x, r, d.code] = stableBusinessId env kind [x', r', d'.code]) :
    d = d' :=
  direction_of_joinParts [x, r] [x', r'] (joinParts_of_stableBusinessId_eq hdigest h)

end Identifiers

theorem refundKey_ne_reverification (x y : String) : "refund:" ++ x ≠ "reverification:" ++ y := by
  intro h
  have hlist := congrArg String.toList h
  simp at hlist

/-! ### Effective totals -/

section Totals

variable {env : Env} {db db' : Db} {r : String}
  (hp : db'.carryforwardApplications.rows = db.carryforwardApplications.rows)
include hp

theorem materialized_congr (hs : db'.carryforwardSources.rows = db.carryforwardSources.rows)
    (id : String) : db'.materialized r id = db.materialized r id := by
  rw [Db.materialized, Db.materialized, hp, hs]

theorem materialized_addSource {s : CarryforwardSource}
    (hs : db'.carryforwardSources.rows = db.carryforwardSources.rows ++ [s])
    (hfr : s.originalFeeResultId = r → ∀ p ∈ db.carryforwardApplications.rows,
      p.carryforwardSourceId ≠ s.carryforwardSourceId) (id : String) :
    db'.materialized r id = db.materialized r id := by
  rw [Db.materialized, Db.materialized, hp, hs]
  rw [Bool.eq_iff_iff, any_eq_true, any_eq_true]
  refine exists_congr fun p => and_congr_right fun hmem => ?_
  have hnot : (s.originalFeeResultId = r && s.carryforwardSourceId = p.carryforwardSourceId) =
      false := by
    rw [Bool.and_eq_false_iff]
    by_cases hr : s.originalFeeResultId = r
    · exact .inr (decide_eq_false fun h => hfr hr p hmem h.symm)
    · exact .inl (decide_eq_false hr)
  rw [any_append, any_cons, any_nil, hnot, Bool.or_false, Bool.or_false]

theorem effectiveTotals_addSource {s : CarryforwardSource}
    (ha : db'.adjustments.rows = db.adjustments.rows)
    (hs : db'.carryforwardSources.rows = db.carryforwardSources.rows ++ [s])
    (hfr : s.originalFeeResultId = r → ∀ p ∈ db.carryforwardApplications.rows,
      p.carryforwardSourceId ≠ s.carryforwardSourceId) :
    db'.effectiveAdjustmentTotals env r = db.effectiveAdjustmentTotals env r +
      if s.originalFeeResultId = r ∧ s.sourceEventKey ≠ "reverification:" ++ r then s.delta
      else 0 := by
  have hord : db'.ordinary env r = db.ordinary env r := by
    rw [Db.ordinary, ha]
    refine filter_congr fun a _ => ?_
    rw [materialized_addSource hp hs hfr]
  have hdef : db'.deferred r = db.deferred r ++
      if s.originalFeeResultId = r ∧ s.sourceEventKey ≠ "reverification:" ++ r then [s] else [] := by
    rw [Db.deferred, Db.deferred, hs, filter_append]
    congr 1
    split
    · rename_i h
      simp [h.1, h.2]
    · rename_i h
      rw [filter_eq_nil_iff]
      intro x hx
      rw [mem_singleton.mp hx]
      simpa using h
  rw [Db.effectiveAdjustmentTotals, Db.effectiveAdjustmentTotals, hord, hdef,
    map_append, sum_append]
  split
  · rw [map_singleton, sum_singleton]
    abel
  · rw [map_nil, sum_nil, add_zero, add_zero]

theorem effectiveTotals_addAdjustment {a : FeeAdjustment}
    (ha : db'.adjustments.rows = db.adjustments.rows ++ [a])
    (hs : db'.carryforwardSources.rows = db.carryforwardSources.rows) :
    db'.effectiveAdjustmentTotals env r = db.effectiveAdjustmentTotals env r +
      if a.originalFeeResultId = r ∧ db.materialized r a.adjustmentId = false ∧
        a.adjustmentId ≠ stableBusinessId env "reverification" [r] then a.delta else 0 := by
  have hdef : db'.deferred r = db.deferred r := by
    rw [Db.deferred, Db.deferred, hs]
  have hord : db'.ordinary env r = db.ordinary env r ++
      if a.originalFeeResultId = r ∧ db.materialized r a.adjustmentId = false ∧
        a.adjustmentId ≠ stableBusinessId env "reverification" [r] then [a] else [] := by
    rw [Db.ordinary, ha, filter_append]
    simp only [materialized_congr hp hs]
    congr 1
    split
    · rename_i h
      simp [h.1, h.2.1, h.2.2]
    · rename_i h
      rw [filter_eq_nil_iff]
      intro x hx
      rw [mem_singleton.mp hx]
      simpa [and_assoc] using h
  rw [Db.effectiveAdjustmentTotals, Db.effectiveAdjustmentTotals, hord, hdef,
    map_append, sum_append, ← add_assoc]
  split
  · rw [map_singleton, sum_singleton]
  · rw [map_nil, sum_nil]

theorem effectiveTotals_congr (ha : db'.adjustments.rows = db.adjustments.rows)
    (hs : db'.carryforwardSources.rows = db.carryforwardSources.rows) :
    db'.effectiveAdjustmentTotals env r = db.effectiveAdjustmentTotals env r := by
  simp only [Db.effectiveAdjustmentTotals, Db.deferred, Db.ordinary, ha, hs,
    materialized_congr hp hs]

end Totals

/-! ### Postings -/

def Db.refundPosting (env : Env) (db : Db) (r : String) (d : Direction) (x : String) :
    Option Delta :=
  match db.carryforwardSource ("refund:" ++ x) r d with
  | some source => some source.delta
  | none => (db.adjustments.get?
      (stableBusinessId env "refund-adjustment" [x, r, d.code])).map FeeAdjustment.delta

/-- The rows of a result are rows that the settlement wrote: identifiers are minted from what
they identify, and applications name rows that exist. -/
structure Booked (env : Env) (db : Db) (r : String) (d : Direction) : Prop where
  refunds : ∀ a ∈ db.adjustments.rows, a.originalFeeResultId = r → a.feeDirection = d →
    ∀ x, a.refundEventId = some x → (db.carryforwardSource ("refund:" ++ x) r d).isSome = true ∨
      a.adjustmentId = stableBusinessId env "refund-adjustment" [x, r, d.code]
  sourceIds : ∀ s ∈ db.carryforwardSources.rows, ∀ x, s.carryforwardSourceId =
    stableBusinessId env "carryforward-source" ["refund:" ++ x, r, d.code] →
    s.sourceEventKey = "refund:" ++ x ∧ s.originalFeeResultId = r ∧ s.feeDirection = d
  sourceKeys : ∀ s ∈ db.carryforwardSources.rows, s.originalFeeResultId = r →
    ∀ x, s.refundEventId = some x → s.sourceEventKey = "refund:" ++ x ∧ s.feeDirection = d
  origins : ∀ p ∈ db.carryforwardApplications.rows, ∃ s ∈ db.carryforwardSources.rows,
    s.carryforwardSourceId = p.carryforwardSourceId
  targets : ∀ p ∈ db.carryforwardApplications.rows, ∃ a ∈ db.adjustments.rows,
    a.adjustmentId = p.targetAdjustmentId

/-- Rows are booked once those that are added are. -/
theorem Booked.append {env : Env} {db db' : Db} {r : String} (h : Booked env db r d)
    {A : List FeeAdjustment} {S : List CarryforwardSource} {P : List CarryforwardApplication}
    (ha : db'.adjustments.rows = db.adjustments.rows ++ A)
    (hs : db'.carryforwardSources.rows = db.carryforwardSources.rows ++ S)
    (hp : db'.carryforwardApplications.rows = db.carryforwardApplications.rows ++ P)
    (hA : ∀ a ∈ A, a.originalFeeResultId = r → a.feeDirection = d → ∀ x,
      a.refundEventId = some x → (db'.carryforwardSource ("refund:" ++ x) r d).isSome = true ∨
        a.adjustmentId = stableBusinessId env "refund-adjustment" [x, r, d.code])
    (hS : ∀ s ∈ S, (∀ x, s.carryforwardSourceId =
        stableBusinessId env "carryforward-source" ["refund:" ++ x, r, d.code] →
        s.sourceEventKey = "refund:" ++ x ∧ s.originalFeeResultId = r ∧ s.feeDirection = d) ∧
      (s.originalFeeResultId = r → ∀ x, s.refundEventId = some x →
        s.sourceEventKey = "refund:" ++ x ∧ s.feeDirection = d))
    (hP : ∀ p ∈ P, (∃ s ∈ db'.carryforwardSources.rows,
        s.carryforwardSourceId = p.carryforwardSourceId) ∧
      ∃ a ∈ db'.adjustments.rows, a.adjustmentId = p.targetAdjustmentId) :
    Booked env db' r d := by
  constructor
  · intro a hmem horig hdir x hx
    rcases mem_append.mp (ha ▸ hmem) with hmem | hmem
    · refine (h.refunds a hmem horig hdir x hx).imp_left fun hsome => ?_
      rw [Db.carryforwardSource, hs, find?_append, Option.isSome_or]
      exact Bool.or_eq_true_iff.mpr (.inl hsome)
    · exact hA a hmem horig hdir x hx
  · intro s hmem
    rcases mem_append.mp (hs ▸ hmem) with hmem | hmem
    · exact h.sourceIds s hmem
    · exact (hS s hmem).1
  · intro s hmem
    rcases mem_append.mp (hs ▸ hmem) with hmem | hmem
    · exact h.sourceKeys s hmem
    · exact (hS s hmem).2
  · intro p hmem
    rcases mem_append.mp (hp ▸ hmem) with hmem | hmem
    · obtain ⟨s, hsrc, hid⟩ := h.origins p hmem
      exact ⟨s, hs ▸ mem_append_left _ hsrc, hid⟩
    · exact (hP p hmem).1
  · intro p hmem
    rcases mem_append.mp (hp ▸ hmem) with hmem | hmem
    · obtain ⟨a, hadj, hid⟩ := h.targets p hmem
      exact ⟨a, ha ▸ mem_append_left _ hadj, hid⟩
    · exact (hP p hmem).2

theorem Booked.of_rows {env : Env} {db db' : Db} {r : String} (h : Booked env db r d)
    (ha : db'.adjustments = db.adjustments) (hs : db'.carryforwardSources = db.carryforwardSources)
    (hp : db'.carryforwardApplications = db.carryforwardApplications) : Booked env db' r d :=
  h.append (A := []) (S := []) (P := []) (by simp [ha]) (by simp [hs]) (by simp [hp]) (forall_mem_nil _)
    (forall_mem_nil _) (forall_mem_nil _)

def Db.SameExceptPostings (db db' : Db) : Prop :=
  db' = { db with
    adjustments := db'.adjustments
    carryforwardSources := db'.carryforwardSources
    issues := db'.issues }

inductive Posted (env : Env) (original : FeeResult) (d : Direction) (e : RefundEvent)
    (delta : Delta) (db db' : Db) : Prop
  | adjusted (runId : String)
      (adjustments : db'.adjustments.rows = db.adjustments.rows ++
        [refundAdjustment env original d runId e delta])
      (sources : db'.carryforwardSources = db.carryforwardSources)
  | deferred (runId storeId : String) (adjustments : db'.adjustments = db.adjustments)
      (sources : db'.carryforwardSources.rows = db.carryforwardSources.rows ++
        [refundCarryforward env original runId storeId e delta])

def Covered (original : FeeResult) (total : Int) (e : RefundEvent) : Prop :=
  e.observedAt ≤ original.calculatedAt ∧ total ≤ original.refundedAmountCent

inductive StepEffect (env : Env) (original : FeeResult) (d : Direction)
    (manualBasis manualAmountOverride : Bool) (s : RefundLoop) (e : RefundEvent)
    (s' : RefundLoop) : Prop
  | skipped
      (reason : Covered original s'.eventRefundTotal e ∨ manualAmountOverride = true)
      (adjustments : s'.db.adjustments = s.db.adjustments)
      (sources : s'.db.carryforwardSources = s.db.carryforwardSources)
      (cumulative : s'.cumulativeRefund = s.cumulativeRefund)
      (applied : s'.applied = s.applied)
  | known (delta : Delta)
      (open_ : ¬ Covered original s'.eventRefundTotal e)
      (posting : s.db.refundPosting env original.feeResultId d e.refundEventId = some delta)
      (adjustments : s'.db.adjustments = s.db.adjustments)
      (sources : s'.db.carryforwardSources = s.db.carryforwardSources)
      (cumulative : s'.cumulativeRefund =
        addRefund original.sourceAmountCent s.cumulativeRefund e)
      (applied : s'.applied = s.applied + delta)
  | posted
      (open_ : ¬ Covered original s'.eventRefundTotal e)
      (posting : s.db.refundPosting env original.feeResultId d e.refundEventId = none)
      (row : Posted env original d e (refundDelta env original manualBasis s e) s.db s'.db)
      (cumulative : s'.cumulativeRefund =
        addRefund original.sourceAmountCent s.cumulativeRefund e)
      (applied : s'.applied = s.applied + refundDelta env original manualBasis s e)

theorem refundAdjustment_exists {env : Env} {db : Db}
    (hbook : Booked env db original.feeResultId d) (runId : String) (delta : Delta)
    (hpost : db.refundPosting env original.feeResultId d e.refundEventId = none) :
    ∃ db', db.addAdjustment (refundAdjustment env original d runId e delta) = .ok db' ∧
      db.SameExceptPostings db' ∧ Posted env original d e delta db db' := by
  obtain ⟨hsrc, hadj⟩ :
      db.carryforwardSource ("refund:" ++ e.refundEventId) original.feeResultId d = none ∧
      db.adjustments.get? (refundAdjustmentId env original d e) = none := by
    unfold Db.refundPosting at hpost
    split at hpost
    · cases hpost
    · rename_i hnone
      exact ⟨hnone, Option.map_eq_none_iff.mp hpost⟩
  obtain ⟨db', hok⟩ := addAdjustment_exists (a := refundAdjustment env original d runId e delta)
    hadj (by
      intro a ha _ hevent horig hdir
      rcases hbook.refunds a ha horig hdir _ hevent with hsome | hid
      · rw [hsrc] at hsome
        cases hsome
      · exact db.adjustments.get?_eq_none_iff.mp hadj a ha hid)
  obtain ⟨hrows, hrest⟩ := addAdjustment_ok hok
  refine ⟨db', hok, ?_, .adjusted runId hrows ?_⟩
  · rw [Db.SameExceptPostings, hrest]
  · rw [hrest]

theorem createCarryforwardSource_exists {env : Env} {db : Db}
    (hbook : Booked env db original.feeResultId original.feeDirection) (runId storeId : String)
    (delta : Delta) (hpost : db.refundPosting env original.feeResultId original.feeDirection
      e.refundEventId = none) :
    ∃ db', db.createCarryforwardSource (refundCarryforward env original runId storeId e delta) =
        .ok (db', refundCarryforward env original runId storeId e delta) ∧
      db.SameExceptPostings db' ∧ Posted env original original.feeDirection e delta db db' := by
  have hsrc : db.carryforwardSource (refundEventKey e) original.feeResultId
      original.feeDirection = none := by
    unfold Db.refundPosting at hpost
    split at hpost
    · cases hpost
    · assumption
  have hnew : db.carryforwardSources.get?
      (refundCarryforward env original runId storeId e delta).carryforwardSourceId = none := by
    refine db.carryforwardSources.get?_eq_none_iff.mpr fun s hs hid => ?_
    obtain ⟨hkey, horig, hdir⟩ := hbook.sourceIds s hs _ hid
    have hnone := find?_eq_none.mp hsrc s hs
    simp [hkey, horig, hdir, refundEventKey] at hnone
  obtain ⟨sources, hins⟩ := Table.exists_insert? hnew
  refine ⟨{ db with carryforwardSources := sources }, ?_, rfl,
    .deferred runId storeId rfl (Table.rows_insert? hins)⟩
  simp only [Db.createCarryforwardSource, refundCarryforward] at hins ⊢
  rw [hsrc]
  simp only [hins]

theorem Db.SameExceptPostings.refl (db : Db) : db.SameExceptPostings db := rfl

theorem Db.SameExceptPostings.trans {db db' db'' : Db} (h : db.SameExceptPostings db')
    (h' : db'.SameExceptPostings db'') : db.SameExceptPostings db'' := by
  unfold Db.SameExceptPostings at *
  rw [h']
  conv_lhs => rw [h]

theorem postRefund_exists {env : Env} (runId storeId : String) {s : RefundLoop}
    (hbook : Booked env s.db original.feeResultId original.feeDirection) (delta : Delta)
    (hposti : s.db.refundPosting env original.feeResultId original.feeDirection
      e.refundEventId = none) :
    ∃ s', postRefund env original original.feeDirection runId s storeId e delta = .ok s' ∧
      s'.eventRefundTotal = s.eventRefundTotal ∧ s.db.SameExceptPostings s'.db ∧
      Posted env original original.feeDirection e delta s.db s'.db ∧
      s'.cumulativeRefund = addRefund original.sourceAmountCent s.cumulativeRefund e ∧
      s'.applied = s.applied + delta := by
  unfold postRefund
  split
  · obtain ⟨db', hok, hsame, hpost⟩ := createCarryforwardSource_exists hbook
      runId storeId delta hposti
    rw [hok]
    refine ⟨_, rfl, rfl, ?_, ?_, rfl, rfl⟩
    · exact hsame.trans rfl
    · cases hpost with
      | adjusted runId adjustments sources => exact .adjusted runId adjustments sources
      | deferred runId storeId adjustments sources =>
        exact .deferred runId storeId adjustments sources
  · obtain ⟨_, hok, hsame, hpost⟩ := refundAdjustment_exists hbook runId
      delta hposti
    rw [hok]
    exact ⟨_, rfl, rfl, hsame, hpost, rfl, rfl⟩

/-- One step of the loop goes through, and does one of three things. -/
theorem refundStep_exists {env : Env} (runId : String) {storeId : String}
    (hst : original.knownStore original.feeDirection = some storeId) {s : RefundLoop}
    (hbook : Booked env s.db original.feeResultId original.feeDirection)
    (manualBasis manualAmountOverride : Bool) (events : List RefundEvent) (e : RefundEvent) :
    ∃ s', refundStep env original original.feeDirection runId manualBasis manualAmountOverride
        events s e = .ok s' ∧
      s'.eventRefundTotal = addRefund original.sourceAmountCent s.eventRefundTotal e ∧
      s.db.SameExceptPostings s'.db ∧
      StepEffect env original original.feeDirection manualBasis manualAmountOverride s e s' := by
  set total := addRefund original.sourceAmountCent s.eventRefundTotal e with htot
  simp only [refundStep, ← htot]
  by_cases hcov : e.observedAt ≤ original.calculatedAt ∧ total ≤ original.refundedAmountCent
  · rw [if_pos hcov]
    exact ⟨_, rfl, rfl, rfl, .skipped (.inl hcov) rfl rfl rfl rfl⟩
  rw [if_neg hcov]
  by_cases hman : (manualAmountOverride && e.refundType ≠ .inFull) = true
  · have hover : manualAmountOverride = true := (Bool.and_eq_true_iff.mp hman).1
    rw [if_pos hman]
    refine ⟨_, rfl, ?_, ?_, ?_⟩
    · rw [reviewManualRefund]
      split <;> rfl
    · rw [reviewManualRefund]
      split <;> rfl
    · rw [reviewManualRefund]
      split <;> exact .skipped (.inr hover) rfl rfl rfl rfl
  · rw [if_neg hman]
    cases hsrc : s.db.carryforwardSource (refundEventKey e) original.feeResultId
        original.feeDirection with
    | some source =>
      have hpost : s.db.refundPosting env original.feeResultId original.feeDirection
          e.refundEventId = some source.delta := by
        rw [Db.refundPosting]
        rw [refundEventKey] at hsrc
        rw [hsrc]
      exact ⟨_, rfl, rfl, rfl, .known _ hcov hpost rfl rfl rfl rfl⟩
    | none =>
      cases hadj : s.db.adjustments.get?
          (refundAdjustmentId env original original.feeDirection e) with
      | some existing =>
        have hpost : s.db.refundPosting env original.feeResultId original.feeDirection
            e.refundEventId = some existing.delta := by
          rw [Db.refundPosting]
          rw [refundEventKey] at hsrc
          rw [refundAdjustmentId] at hadj
          rw [hsrc, hadj]
          rfl
        exact ⟨_, rfl, rfl, rfl, .known _ hcov hpost rfl rfl rfl rfl⟩
      | none =>
        have hpost : s.db.refundPosting env original.feeResultId original.feeDirection
            e.refundEventId = none := by
          rw [Db.refundPosting]
          rw [refundEventKey] at hsrc
          rw [refundAdjustmentId] at hadj
          rw [hsrc, hadj]
          rfl
        obtain ⟨s', hok, htot', hsame, hrow, hcum, happl⟩ :=
          postRefund_exists runId storeId
            (s := { s with eventRefundTotal := total }) hbook
            (refundDelta env original manualBasis s e) hpost
        refine ⟨s', ?_, htot', hsame, .posted ?_ hpost hrow hcum happl⟩
        · simp only [hst]
          exact hok
        · rw [htot']
          exact hcov

end DyData.Settlement
