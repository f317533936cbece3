import DyData.HeavyQueueHealth

/-!
The retry budget of a job: pauses of the scheduler are credited, every other end of an attempt
is charged, and a waiting job always has an attempt left.
-/

namespace DyData.HeavyQueue

open Option
open Relational

structure FreshJob (db : Db) (jobId : String) : Prop where
  row : ∃ job, db.jobs.get? jobId = some job ∧ job.status = .pending ∧ job.attempts = 0 ∧
    job.epoch = 0 ∧ job.quotaPauseCount = 0 ∧ job.leaseOwner = none ∧
    job.leaseExpiresAt = none ∧ job.attemptBounds = true
  attempts : attemptsOf db jobId = []

/-- The attempt limit of a row that passes the check constraint. -/
theorem attemptLimit_of_attemptBounds {job : JobRun} (h : job.attemptBounds = true) :
    1 ≤ job.attemptLimit ∧ job.attemptLimit ≤ 3 ∧ job.maxAttempts.getD 3 = job.attemptLimit := by
  simp only [JobRun.attemptBounds, Bool.and_eq_true] at h
  obtain ⟨⟨⟨-, hmax⟩, -⟩, -⟩ := h
  unfold JobRun.attemptLimit
  cases hm : job.maxAttempts with
  | none => simp [orDefault]
  | some m =>
    rw [hm, all_some, decide_eq_true_eq] at hmax
    have hval : orDefault (some m) 3 = m := by
      unfold orDefault
      split
      · rename_i hnone
        cases hnone
      · rename_i hzero
        cases hzero
        omega
      · rename_i hn
        exact (some.inj hn).symm
    rw [hval]
    exact ⟨hmax.1, hmax.2, rfl⟩

theorem FreshJob.healthy {db : Db} {jobId : String} (h : FreshJob db jobId) (strict : Prop) :
    JobHealthy strict jobId db := by
  obtain ⟨row, hrow, hpend, hatts, hep, hquo, hown, hexp, hboun⟩ := h.row
  have hlim := attemptLimit_of_attemptBounds hboun
  refine ⟨row, hrow, ?_⟩
  rw [h.attempts]
  have hpaus : schedulerPauses [] = 0 := rfl
  exact
    { counted := hatts.ge
      numbers := by rw [hatts]; rfl
      epochs := by rw [hatts]; rfl
      epoch := hep.trans hatts.symm
      workers := fun a ha => by cases ha
      limit := hlim
      quota := by rw [hpaus]; omega
      marked := fun _ => by rw [hpaus]; omega
      owned := fun _ => hquo
      budget := by omega
      waiting := fun _ => ⟨hown, hexp, by omega⟩
      idle := fun _ => rfl
      running := fun hrun => by rw [hpend] at hrun; cases hrun
      released := fun a ha => by cases ha }

section Charged

variable {strict : Prop} {bound : AttemptIdentity → Prop} {attempts : List JobAttempt}
  {job : JobRun}

def chargedAttempts (attempts : List JobAttempt) : Nat :=
  attempts.countP fun a => a.finishedAt.isSome && !a.isPause

def endedAttempts (attempts : List JobAttempt) : Nat :=
  attempts.countP fun a => a.finishedAt.isSome

theorem chargedAttempts_add_schedulerPauses (attempts : List JobAttempt) :
    chargedAttempts attempts + schedulerPauses attempts = endedAttempts attempts := by
  unfold chargedAttempts endedAttempts
  rw [schedulerPauses_eq]
  induction attempts with
  | nil => rfl
  | cons a attempts ih =>
    rw [List.countP_cons, List.countP_cons, List.countP_cons]
    -- a pause is an attempt that ended, so each attempt adds the same on both sides
    have hrow : (if (a.finishedAt.isSome && !a.isPause) = true then 1 else 0) +
        (if a.isPause = true then 1 else 0) = if a.finishedAt.isSome = true then 1 else 0 := by
      unfold JobAttempt.isPause
      cases a.finishedAt.isSome with
      | false => rfl
      | true => cases a.errorCode.any fun code => schedulerPauseMarkers.contains code <;> rfl
    omega

variable (h : Healthy strict bound attempts job)
include h

theorem Healthy.ended_le :
    (endedAttempts attempts : Int) ≤ job.attemptLimit + job.quotaPauseCount := by
  have hcnt : endedAttempts attempts ≤ attempts.length := List.countP_le_length
  have hlen := h.length
  have hbud := h.budget
  omega

theorem Healthy.charged_le : (chargedAttempts attempts : Int) ≤ job.attemptLimit := by
  have hspl := chargedAttempts_add_schedulerPauses attempts
  have hended := h.ended_le
  have hquo := h.quota.2
  omega

theorem Healthy.attemptAvailable (hwait : job.status = .pending ∨ job.status = .retryWait) :
    HeavyQueue.attemptAvailable job = true := by
  obtain ⟨-, -, hroom⟩ := h.waiting hwait
  obtain ⟨-, -, hlim⟩ := h.limit
  have hatts : job.attemptCount.getD 0 = job.attempts := by
    unfold JobRun.attempts
    cases job.attemptCount with
    | none => rfl
    | some n => rw [orDefault_zero, getD_some]
  simp only [HeavyQueue.attemptAvailable, decide_eq_true_eq]
  rw [hatts, hlim]
  exact hroom

end Charged

/-- A scheduler pause puts its job back into the queue and writes no other row. -/
theorem pause_row {planner : PlannerIdentity} {db : Db} {token : ClaimToken} {clock : FailureClock}
    {report : FailureReport} (hpause : report.kind.isSchedulerPause = true) {id : String}
    {row row' : JobRun} (hrow : db.jobs.get? id = some row)
    (hrow' : (db.control planner (.fail token clock report)).jobs.get? id = some row') :
    row' = row ∨ row'.status = .retryWait := by
  unfold Db.control at hrow'
  dsimp only at hrow'
  split at hrow'
  · exact .inl (mem_unique hrow' hrow)
  · rename_i decision hcall
    rcases failJob_ok hcall with rfl | ⟨⟨state, decision, -, hdec, _, hfail⟩, -⟩
    · exact .inl (mem_unique hrow' hrow)
    have hretry : decision.status = .retryWait := by
      rcases hdec with ⟨hretry, -⟩ | ⟨-, hreal⟩
      · exact hretry
      · rw [hpause] at hreal
        cases hreal
    rcases finishClaim_effect hfail with ⟨-, rfl⟩ | ⟨-, -, hfin⟩
    · exact .inl (mem_unique hrow' hrow)
    rw [hfin.jobs, Table.get?_update, hrow, map_some] at hrow'
    rw [← some.inj hrow']
    split
    · exact .inr hretry
    · exact .inl rfl

/-- From the moment a job is enqueued, over every run of claims, heartbeats, completions,
failures, pauses, cancellations and reclaims of this and of any other job: at most
`max_attempts` attempts of it ended otherwise than by a pause, whether the pauses are told by
the codes of the attempts or by the counter of the row; while it waits, it has an attempt
left; and a pause takes no job into a terminal status. -/
theorem retry_budget_is_kept (planner : PlannerIdentity) (start : Db) (jobId : String)
    (hfresh : FreshJob start jobId) (ops : List ControlOperation) :
    (∃ row, (start.controlRun planner ops).jobs.get? jobId = some row ∧
      (chargedAttempts (attemptsOf (start.controlRun planner ops) jobId) : Int) ≤ row.attemptLimit ∧
      (endedAttempts (attemptsOf (start.controlRun planner ops) jobId) : Int) -
        row.quotaPauseCount ≤ row.attemptLimit ∧
      (row.status = .pending ∨ row.status = .retryWait → attemptAvailable row = true)) ∧
    ∀ (token : ClaimToken) (clock : FailureClock) (report : FailureReport),
      report.kind.isSchedulerPause = true → ∀ (id : String) (row row' : JobRun),
        (start.controlRun planner ops).jobs.get? id = some row →
        ((start.controlRun planner ops).control planner (.fail token clock report)).jobs.get? id =
          some row' →
        row.status.terminal = false → row'.status.terminal = false := by
  have hrun : JobHealthy False jobId (start.controlRun planner ops) :=
    JobHealthy.controlRun planner ops (fun hstrict => hstrict.elim) (hfresh.healthy False)
  obtain ⟨row, hrow, hhealthy⟩ := hrun
  refine ⟨⟨row, hrow, hhealthy.charged_le, ?_, hhealthy.attemptAvailable⟩, ?_⟩
  · have hended := hhealthy.ended_le
    omega
  · intro token clock report hpause id row row' hbefore hafter hopen
    rcases pause_row hpause hbefore hafter with rfl | hretry
    · exact hopen
    · rw [hretry]
      rfl

def samplePriorityQueue : Db :=
  sampleQueue.updateJobs (fun _ => true)
    (fun job => { job with configVersion := some priorityDailyConfigVersion }) fun _ => rfl

def samplePausedRun : List ControlOperation :=
  [.claim sampleRequest sampleEnvironment,
    .fail sampleToken ⟨10, 11, 12⟩
      { kind := .budgetPause, errorCode := "paused", errorSummary := "paused"
        fixedDelaySeconds := some 60 }]

theorem freshJob_samplePriorityQueue : FreshJob samplePriorityQueue "finalize-1" where
  row := ⟨_, rfl, rfl, rfl, rfl, rfl, rfl, rfl, rfl⟩
  attempts := rfl

/-- A paused job waits with its whole budget: one attempt has ended, none is charged. -/
theorem paused_job_keeps_budget : FreshJob samplePriorityQueue "finalize-1" ∧
      ∃ row, (samplePriorityQueue.controlRun samplePlanner samplePausedRun).jobs.get?
          "finalize-1" = some row ∧
        row.status = .retryWait ∧ row.quotaPauseCount = 1 ∧ row.attempts = 1 ∧
        attemptAvailable row = true := by
  refine ⟨freshJob_samplePriorityQueue, ?_⟩
  obtain ⟨⟨row, hrow, -, -, havailable⟩, -⟩ := retry_budget_is_kept samplePlanner
    samplePriorityQueue "finalize-1" freshJob_samplePriorityQueue samplePausedRun
  have hfacts : ((samplePriorityQueue.controlRun samplePlanner samplePausedRun).jobs.get?
      "finalize-1").all (fun row => row.status = .retryWait && row.quotaPauseCount = 1 &&
        row.attempts = 1) = true := by decide +kernel
  rw [hrow, all_some] at hfacts
  simp only [bool_to_prop] at hfacts
  exact ⟨row, hrow, hfacts.1.1, hfacts.1.2, hfacts.2, havailable (.inr hfacts.1.1)⟩

end DyData.HeavyQueue
