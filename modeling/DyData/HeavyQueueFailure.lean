import DyData.HeavyQueueFencing

/-!
The control API over the queue: claims with validated inputs, and `fail_job`, which turns the
kind of a failure into a retry, a scheduler pause or a terminal failure and applies it under
the token.
-/

namespace DyData.HeavyQueue

open Relational
open PythonText (strip)

inductive FailureKind
  | transient | browser | dataIntegrity | memoryGuard | crashed | budgetPause | resourcePause
deriving DecidableEq

def FailureKind.pauseMarker? : FailureKind → Option String
  | .budgetPause => some "priority_budget_pause"
  | .resourcePause => some "worker_resource_pause"
  | .transient | .browser | .dataIntegrity | .memoryGuard | .crashed => none

def FailureKind.isSchedulerPause (kind : FailureKind) : Bool := kind.pauseMarker?.isSome

structure RetryDecision where
  status : JobStatus
  delaySeconds : Option Int
deriving DecidableEq

inductive TaskError
  | valueError (message : String)
  | queue (error : QueueError)
deriving DecidableEq

def maxBudgetPauseDelaySeconds : Int := 172800

def retryPolicy (kind : FailureKind) (attemptNumber maxAttempts quotaPauseCount : Int)
    (previousExitType : Option ExitType) (baseDelaySeconds : Int)
    (fixedDelaySeconds : Option Int) : Except TaskError RetryDecision := do
  .ensure (0 < attemptNumber) (.valueError "attempt_number must be positive")
  .ensure (0 < maxAttempts && maxAttempts ≤ 3)
    (.valueError "max_attempts must be between 1 and 3")
  .ensure (0 ≤ quotaPauseCount) (.valueError "quota_pause_count cannot be negative")
  .ensure (0 < baseDelaySeconds) (.valueError "base_delay_seconds must be positive")
  .ensure (fixedDelaySeconds.all fun delay => 0 < delay)
    (.valueError "fixed_delay_seconds must be positive")
  if kind.isSchedulerPause then
    return ⟨.retryWait,
      some (min (fixedDelaySeconds.getD baseDelaySeconds) maxBudgetPauseDelaySeconds)⟩
  else
    let effectiveAttemptNumber := attemptNumber - quotaPauseCount
    let fatal := kind = .dataIntegrity ||
      (kind = .memoryGuard && previousExitType = some .resourceGuard) ||
      decide (maxAttempts ≤ effectiveAttemptNumber)
    if fatal then return ⟨.failed, none⟩
    else return ⟨.retryWait, some (fixedDelaySeconds.getD
      (baseDelaySeconds * 2 ^ (max 1 effectiveAttemptNumber - 1).toNat))⟩

def previousAttemptExitType (db : Db) (jobId : String) (attemptNumber : Int) : Option ExitType :=
  if attemptNumber ≤ 1 then none
  else (db.attempts.rows.find? fun a =>
    a.jobId = jobId && a.attemptNumber = attemptNumber - 1).bind JobAttempt.exitType

def attemptExitType (kind : FailureKind) (decision : RetryDecision) : ExitType :=
  match kind with
  | .budgetPause | .resourcePause => .retryableFailure
  | .memoryGuard => .resourceGuard
  | .crashed => .crashed
  | .transient | .browser | .dataIntegrity =>
    if decision.status = .retryWait then .retryableFailure else .fatalFailure

/-- The keyword arguments of `fail_job`. -/
structure FailureReport where
  kind : FailureKind
  errorCode : String
  errorSummary : String
  baseDelaySeconds : Int := 30
  fixedDelaySeconds : Option Int := none
deriving DecidableEq

def pauseAllowed (db : Db) (jobId : String) : Bool :=
  (db.jobs.get? jobId).any fun job => isPriorityResourceConfig job.configVersion

/-- What `fail_claim` is called with. -/
def FailureReport.arguments (report : FailureReport) (decision : RetryDecision) :
    FailureArguments where
  status := decision.status
  delaySeconds := decision.delaySeconds
  attemptExitType := attemptExitType report.kind decision
  errorCode := strip (report.kind.pauseMarker?.getD report.errorCode)
  errorSummary := strip report.errorSummary
  incrementQuotaPauseCount := report.kind.isSchedulerPause
  incrementFailedCount := !report.kind.isSchedulerPause

/-- The clock readings of one `fail_job`: of its own lock, of the lock of `fail_claim` and of
the writing statement. -/
structure FailureClock where
  stateNow : Timestamp
  lockNow : Timestamp
  statementNow : Timestamp
deriving DecidableEq

def failJob (db : Db) (token : ClaimToken) (clock : FailureClock) (report : FailureReport) :
    Except TaskError (Db × Option RetryDecision) := do
  .ensure (strip report.errorCode ≠ "") (.valueError "error_code is required")
  .ensure (strip report.errorSummary ≠ "") (.valueError "error_summary is required")
  .ensure (!report.kind.isSchedulerPause || report.fixedDelaySeconds.any fun delay => 0 < delay)
    (.valueError "scheduler pause requires a positive fixed delay")
  if report.kind.isSchedulerPause && !pauseAllowed db token.jobId then return (db, none)
  else match lockActiveExecutionState db token clock.stateNow false with
  | none => return (db, none)
  | some state => do
    let decision ← retryPolicy report.kind state.attemptNumber state.maxAttempts
      state.quotaPauseCount (previousAttemptExitType db token.jobId state.attemptNumber)
      report.baseDelaySeconds report.fixedDelaySeconds
    let (failed, updated) ← (failClaim db token clock.lockNow clock.statementNow
      (report.arguments decision)).mapError .queue
    return (failed, if updated then some decision else none)

def validateClaimInputs (request : ClaimRequest) : Except TaskError Unit := do
  .ensure (strip request.leaseOwner ≠ "") (.valueError "lease_owner is required")
  .ensure (strip request.componentInstanceId ≠ "")
    (.valueError "component_instance_id is required")
  .ensure (0 < request.leaseSeconds) (.valueError "lease_seconds must be positive")

/-- `claim_next_job` and `claim_job`. -/
def claimJob (planner : PlannerIdentity) (db : Db) (request : ClaimRequest)
    (env : ClaimEnvironment) : Except TaskError (Db × Option ClaimedJobRecord) := do
  validateClaimInputs request
  (claimNextHeavyJob planner db request env).mapError .queue

/-- A retry of a real failure leaves an attempt of the budget, a pause is always a retry, and
nothing else is decided. -/
theorem retryPolicy_ok {kind : FailureKind} {attemptNumber maxAttempts quotaPauseCount : Int}
    {previousExitType : Option ExitType} {baseDelaySeconds : Int} {fixedDelaySeconds : Option Int}
    {decision : RetryDecision}
    (h : retryPolicy kind attemptNumber maxAttempts quotaPauseCount previousExitType
      baseDelaySeconds fixedDelaySeconds = .ok decision) :
    (decision.status = .retryWait ∧
      (kind.isSchedulerPause = true ∨ attemptNumber < maxAttempts + quotaPauseCount)) ∨
    (decision.status = .failed ∧ kind.isSchedulerPause = false) := by
  unfold retryPolicy at h
  iterate 5 obtain ⟨_, -, h⟩ := Except.of_bind h
  split at h
  · rename_i hpause
    cases h
    exact .inl ⟨rfl, .inl hpause⟩
  · rename_i hreal
    dsimp only at h
    split at h
    · cases h
      exact .inr ⟨rfl, by simpa using hreal⟩
    · rename_i hretry
      cases h
      refine .inl ⟨rfl, .inr ?_⟩
      simp only [bool_to_prop, not_or, not_le] at hretry
      omega

/-- How a failure was applied: through `fail_claim`, with the decision of the policy. -/
structure FailureApplied (db : Db) (token : ClaimToken) (clock : FailureClock)
    (report : FailureReport) (db' : Db) : Prop where
  decided : ∃ state decision,
    lockActiveExecutionState db token clock.stateNow false = some state ∧
      ((decision.status = .retryWait ∧ (report.kind.isSchedulerPause = true ∨
          state.attemptNumber < state.maxAttempts + state.quotaPauseCount)) ∨
        (decision.status = .failed ∧ report.kind.isSchedulerPause = false)) ∧
      ∃ updated, failClaim db token clock.lockNow clock.statementNow
        (report.arguments decision) = .ok (db', updated)
  allowed : report.kind.isSchedulerPause = true → pauseAllowed db token.jobId = true

theorem failJob_ok {db db' : Db} {token : ClaimToken} {clock : FailureClock}
    {report : FailureReport} {result : Option RetryDecision}
    (h : failJob db token clock report = .ok (db', result)) :
    db' = db ∨ FailureApplied db token clock report db' := by
  iterate 3 obtain ⟨_, -, h⟩ := Except.of_bind h
  split at h
  · cases h
    exact .inl rfl
  · rename_i href
    split at h
    · cases h
      exact .inl rfl
    · rename_i state hstt
      obtain ⟨decision, hdec, h⟩ := Except.of_bind h
      obtain ⟨⟨_, updated⟩, hfail, h⟩ := Except.of_bind h
      cases h
      rw [Except.mapError_eq_ok_iff] at hfail
      refine .inr ⟨⟨state, decision, hstt, retryPolicy_ok hdec, updated, hfail⟩, ?_⟩
      intro hpause
      simpa [hpause] using href

end DyData.HeavyQueue
