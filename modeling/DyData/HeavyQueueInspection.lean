import DyData.HeavyQueueBudget

/-!
What the control-plane inspection says about a healthy job: it has nothing to object until the
history reaches the safety limit of the inspection itself.
-/

namespace DyData.HeavyQueue

open Relational List

@[simp] theorem reasonIf_false (reason : ControlReason) : reasonIf false reason = [] := rfl

theorem reasonIf_eq_nil_iff {condition : Bool} {reason : ControlReason} :
    reasonIf condition reason = [] ↔ condition = false := by
  cases condition <;> simp [reasonIf]

section Sorted

theorem sequenceTo_pairwise (n : Int) : (sequenceTo n).Pairwise (· < ·) := by
  unfold sequenceTo
  rw [pairwise_map]
  refine pairwise_lt_range.imp fun {i j} hij => ?_
  omega

/-- Attempts that are recorded in the order of their numbers are listed in that order. -/
theorem insertionSort_of_numbers {attempts : List JobAttempt} {n : Int}
    (h : attempts.map (fun a => a.identity.attemptNumber) = sequenceTo n) :
    attempts.insertionSort attemptOrder = attempts := by
  have hsort : (attempts.map fun a => a.identity.attemptNumber).Pairwise (· < ·) := by
    rw [h]
    exact sequenceTo_pairwise n
  rw [pairwise_map] at hsort
  exact (hsort.imp fun hlt => .inl hlt).insertionSort_eq

theorem insertionSort_sequenceTo (n : Int) : (sequenceTo n).insertionSort (· ≤ ·) = sequenceTo n :=
  ((sequenceTo_pairwise n).imp fun hlt => le_of_lt hlt).insertionSort_eq

end Sorted

section Inspection

variable {db : Db} {job : JobRun} {bound : AttemptIdentity → Prop} {attempts : List JobAttempt}

section

variable (h : Healthy True bound attempts job)
include h

theorem Healthy.contiguous : contiguousHistory attempts job.attempts = true := by
  have hnumb : attempts.map JobAttempt.attemptNumber = sequenceTo job.attempts := h.numbers
  have hepoc : attempts.map JobAttempt.leaseEpoch = sequenceTo job.attempts := h.epochs
  have hexp : ((range job.attempts.toNat).map fun i : Nat => (i : Int) + 1) =
      sequenceTo job.attempts := rfl
  have hequal : ∀ a ∈ attempts, a.attemptNumber = a.leaseEpoch :=
    map_inj_left.mp (hnumb.trans hepoc.symm)
  unfold contiguousHistory
  simp only [hexp, hnumb, hepoc, insertionSort_sequenceTo, Bool.and_eq_true,
    beq_self_eq_true, all_eq_true, beq_iff_eq, true_and]
  exact hequal

/-- The counters of a healthy job pass, up to the bound on the history. -/
theorem Healthy.counterReasons_eq :
    counterReasons job attempts =
      reasonIf (maxControlHistoryRows < job.attempts + 1) .attemptHistoryExceedsSafetyLimit := by
  obtain ⟨_, _, -⟩ := h.limit
  have hbud := h.budget
  have hquo := h.quota.1
  have hle := h.quota_le
  have hwork : (attempts.any fun a => a.componentType != .worker) = false := by
    rw [any_eq_false]
    intro a ha
    simp [h.workers a ha]
  have hpaus : (schedulerPauses attempts : Int) =
      if isPriorityResourceConfig job.configVersion then job.quotaPauseCount else 0 := by
    cases hprio : isPriorityResourceConfig job.configVersion with
    | true => simpa using h.marked trivial
    | false => simpa [h.owned hprio] using h.marked trivial
  have hnn : ¬ job.quotaPauseCount < 0 := by omega
  have hrange : ¬ job.attemptLimit < 1 ∧ ¬ 3 < job.attemptLimit := by omega
  have hmax : max job.quotaPauseCount 0 = job.quotaPauseCount := max_eq_left hquo
  have hcnt : ¬ job.attempts < 0 ∧
      ¬ job.attemptLimit + job.quotaPauseCount < job.attempts := by omega
  have hsmall : ¬ job.attempts < job.quotaPauseCount := by omega
  unfold counterReasons
  simp only [hnn, hrange, hmax, hcnt, hsmall, h.epoch, h.length, h.contiguous, hwork,
    hpaus, decide_false, Bool.or_false, bne_self_eq_false, Bool.not_true, Bool.and_false,
    reasonIf_false, nil_append, append_nil]

theorem Healthy.leaseReasons_eq :
    leaseReasons job (attempts.filter JobAttempt.unfinished) = [] := by
  have hcnt := h.counted
  have hep := h.epoch
  have hnn : ¬ job.epoch < 0 := by omega
  unfold leaseReasons
  simp only [hnn, if_false, append_nil]
  by_cases hrun : job.status = .running
  · obtain ⟨⟨_, hown, hnonb⟩, a, ha, -, -⟩ := h.running hrun
    have hpos : ¬ job.epoch ≤ 0 := by
      have hmem : a ∈ attempts.filter JobAttempt.unfinished := by
        rw [ha]
        exact mem_singleton_self a
      have hlen : 0 < attempts.length := length_pos_of_mem (mem_filter.mp hmem).1
      have hsame := h.length
      omega
    simp [hrun, hown, hnonb, hpos, ha]
  · have hidle := h.idle hrun
    have hlease : ((job.status == .pending || job.status == .retryWait) &&
        (job.leaseOwner.isSome || job.leaseExpiresAt.isSome)) = false := by
      by_cases hwait : job.status = .pending ∨ job.status = .retryWait
      · obtain ⟨hown, hexp, -⟩ := h.waiting hwait
        simp [hown, hexp]
      · rw [not_or] at hwait
        simp [hwait.1, hwait.2]
    simp only [hrun, if_false, hidle, isEmpty_nil, Bool.not_true, Bool.false_eq_true,
      hlease, reasonIf_false]

theorem Healthy.current_eq :
    (job.status = .running ∧ ∃ a ∈ attempts, a.unfinished = true ∧ bound a.identity ∧
      (attempts.filter JobAttempt.unfinished).find? (fun a => a.leaseEpoch == job.epoch) = some a) ∨
    (job.status ≠ .running ∧
      (attempts.filter JobAttempt.unfinished).find? (fun a => a.leaseEpoch == job.epoch) =
        none) := by
  by_cases hrun : job.status = .running
  · obtain ⟨-, a, ha, hep, hbd⟩ := h.running hrun
    have hmem : a ∈ attempts.filter JobAttempt.unfinished := by
      rw [ha]
      exact mem_singleton_self a
    obtain ⟨hrow, hopen⟩ := mem_filter.mp hmem
    refine .inl ⟨hrun, a, hrow, hopen, hbd, ?_⟩
    rw [ha]
    simp [hep]
  · refine .inr ⟨hrun, ?_⟩
    rw [h.idle hrun]
    rfl

end

theorem Healthy.bindingReasons_eq (h : Healthy True (Bound db) attempts job) :
    bindingReasons db attempts
      ((attempts.filter JobAttempt.unfinished).find? fun a => a.leaseEpoch == job.epoch) = [] := by
  have hfin : ((attempts.filter fun a => !a.unfinished).flatMap fun a =>
      reasonIf ((attemptComponent db a).any (boundTo a)) .finishedAttemptComponentBindingStale) =
        [] := by
    rw [flatMap_eq_nil_iff]
    intro a ha
    obtain ⟨hrow, hcls⟩ := mem_filter.mp ha
    rw [reasonIf_eq_nil_iff, ← Bool.not_eq_true, attemptComponent_any_boundTo]
    exact h.released a hrow (by simpa using hcls)
  unfold bindingReasons
  rw [hfin, append_nil]
  rcases h.current_eq with ⟨-, a, hrow, -, hbd, hcur⟩ | ⟨-, hcur⟩
  · obtain ⟨_, hc, hboundTo⟩ := attemptComponent_isSome_of_bound hbd
    have hwork := h.workers a hrow
    simp only [hcur, hc, hwork, ne_eq, not_true_eq_false, if_false, hboundTo, Bool.not_true,
      reasonIf_false]
  · simp only [hcur]

/-- The inspection of a healthy job reports nothing but, from the limit on, its own bound on
the length of a history. -/
theorem Healthy.inspection (h : Healthy True (Bound db) (attemptsOf db job.jobId) job) :
    (inspectExpiredRunningControl db job).reasons = [] ↔ job.attempts < maxControlHistoryRows := by
  by_cases hlim : job.attempts < maxControlHistoryRows
  · refine iff_of_true ?_ hlim
    have hrows : (jobAttempts db job.jobId).take
        (min (max (job.attempts + 1) 1) maxControlHistoryRows).toNat = attemptsOf db job.jobId := by
      have hlen := h.length
      have hsort : jobAttempts db job.jobId = attemptsOf db job.jobId :=
        insertionSort_of_numbers h.numbers
      rw [hsort]
      refine take_of_length_le ?_
      omega
    have hcnts := h.counterReasons_eq
    have hins : ¬ maxControlHistoryRows < job.attempts + 1 := by omega
    rw [decide_eq_false hins] at hcnts
    have hcur : (job.status == .running && ((attemptsOf db job.jobId).filter
        JobAttempt.unfinished |>.find? fun a => a.leaseEpoch == job.epoch).isNone) = false := by
      rcases h.current_eq with ⟨-, a, -, -, -, hcur⟩ | ⟨hstat, -⟩
      · rw [hcur]
        simp
      · simp [hstat]
    unfold inspectExpiredRunningControl
    simp only [hrows, hcnts, h.leaseReasons_eq, hcur, h.bindingReasons_eq, reasonIf_false,
      append_nil, eraseDups_nil]
  · refine iff_of_false ?_ hlim
    -- the bound of the history is checked on the counter alone
    have hover : decide (maxControlHistoryRows < job.attempts + 1) = true := by
      rw [decide_eq_true_eq]
      omega
    have hmem : ControlReason.attemptHistoryExceedsSafetyLimit ∈
        (inspectExpiredRunningControl db job).reasons := by
      unfold inspectExpiredRunningControl counterReasons
      rw [mem_eraseDups]
      simp only [hover, reasonIf, if_true, mem_append, mem_singleton, true_or, or_true]
    intro hnil
    rw [hnil] at hmem
    cases hmem

/-- A healthy job has exactly one unfinished attempt if and only if it is running. -/
theorem Healthy.running_iff {strict : Prop} (h : Healthy strict bound attempts job) :
    job.status = .running ↔ (attempts.filter JobAttempt.unfinished).length = 1 := by
  constructor
  · intro hrun
    obtain ⟨-, _, ha, -⟩ := h.running hrun
    rw [ha, length_singleton]
  · intro hone
    by_contra hidle
    rw [h.idle hidle] at hone
    cases hone

/-- The unfinished attempt of a healthy job is the one its token is bound to. -/
theorem Healthy.bound_of_unfinished {strict : Prop} (h : Healthy strict bound attempts job) :
    ∀ a ∈ attempts, a.unfinished = true → a.leaseEpoch = job.epoch ∧ bound a.identity := by
  intro a ha hopen
  have hmem : a ∈ attempts.filter JobAttempt.unfinished := mem_filter.mpr ⟨ha, hopen⟩
  by_cases hrun : job.status = .running
  · obtain ⟨-, _, hb, hep, hbd⟩ := h.running hrun
    rw [hb] at hmem
    obtain rfl := mem_singleton.mp hmem
    exact ⟨hep, hbd⟩
  · rw [h.idle hrun] at hmem
    cases hmem

end Inspection

/-- Over every run in which no real failure reports a pause marker as its code, the inspection of a
job that was enqueued fresh has nothing to object exactly while its history is shorter than the
limit of the inspection, and the facts it checks hold whatever the length. -/
theorem healthy_jobs_pass_inspection (planner : PlannerIdentity) (start : Db) (jobId : String)
    (hfresh : FreshJob start jobId) (ops : List ControlOperation)
    (hplain : ∀ op ∈ ops, op.plain = true) :
    ∃ row, (start.controlRun planner ops).jobs.get? jobId = some row ∧
      ((inspectExpiredRunningControl (start.controlRun planner ops) row).reasons = [] ↔
        row.attempts < maxControlHistoryRows) ∧
      row.epoch = row.attempts ∧
      ((attemptsOf (start.controlRun planner ops) jobId).length : Int) = row.attempts ∧
      (attemptsOf (start.controlRun planner ops) jobId).map JobAttempt.attemptNumber =
        sequenceTo row.attempts ∧
      (row.status = .running ↔ ((attemptsOf (start.controlRun planner ops) jobId).filter
        JobAttempt.unfinished).length = 1) ∧
      (∀ a ∈ attemptsOf (start.controlRun planner ops) jobId, a.unfinished = true →
        a.leaseEpoch = row.epoch ∧ Bound (start.controlRun planner ops) a.identity) ∧
      (schedulerPauses (attemptsOf (start.controlRun planner ops) jobId) : Int) =
        row.quotaPauseCount := by
  obtain ⟨row, hrow, h⟩ := JobHealthy.controlRun planner ops (fun _ => hplain)
    (hfresh.healthy True)
  obtain rfl : row.jobId = jobId := (start.controlRun planner ops).jobs.key_of_get? hrow
  exact ⟨row, hrow, h.inspection, h.epoch, h.length, h.numbers, h.running_iff,
    h.bound_of_unfinished, h.marked trivial⟩

/-- A pause passes the inspection. -/
theorem paused_job_passes_inspection : FreshJob samplePriorityQueue "finalize-1" ∧
      (∀ op ∈ samplePausedRun, op.plain = true) ∧
      ∃ row, (samplePriorityQueue.controlRun samplePlanner samplePausedRun).jobs.get?
          "finalize-1" = some row ∧
        ((inspectExpiredRunningControl
          (samplePriorityQueue.controlRun samplePlanner samplePausedRun) row).reasons = [] ↔
            row.attempts < maxControlHistoryRows) := by
  have hplain : ∀ op ∈ samplePausedRun, op.plain = true := by
    intro op hop
    simp only [samplePausedRun, mem_cons, not_mem_nil, or_false] at hop
    rcases hop with rfl | rfl <;> rfl
  obtain ⟨row, hrow, hreasons, -⟩ := healthy_jobs_pass_inspection samplePlanner
    samplePriorityQueue "finalize-1" freshJob_samplePriorityQueue samplePausedRun hplain
  exact ⟨freshJob_samplePriorityQueue, hplain, row, hrow, hreasons⟩

def markedFailureRun : List ControlOperation :=
  [.claim sampleRequest sampleEnvironment,
    .fail sampleToken ⟨10, 11, 12⟩
      { kind := .transient, errorCode := "priority_budget_pause", errorSummary := "failed" }]

/-- The attempt counts as a pause for the inspection and not for the counter of the row. -/
theorem marked_failure_is_objected : FreshJob samplePriorityQueue "finalize-1" ∧
      ((samplePriorityQueue.controlRun samplePlanner markedFailureRun).jobs.get?
        "finalize-1").map (fun row => (inspectExpiredRunningControl
          (samplePriorityQueue.controlRun samplePlanner markedFailureRun) row).reasons) =
        some [.quotaPauseCountHistoryMismatch] :=
  ⟨freshJob_samplePriorityQueue, by decide +kernel⟩

end DyData.HeavyQueue
