import DyData.HeavyQueueRecovery

/-!
The operations of a claimed job: heartbeat, completion, failure and cancellation.  Each one
first locks and validates the token's job, attempt and component rows with one reading of the
database clock, then writes under the lease conditions of a later statement.
-/

namespace DyData.HeavyQueue

open Relational

variable {db db' : Db} {token : ClaimToken} {now lockNow statementNow : Timestamp} {done : Bool}

structure ClaimToken where
  jobId : String
  leaseOwner : String
  leaseEpoch : Int
  attemptId : String
  componentInstanceId : String
deriving DecidableEq

structure ActiveExecutionState where
  attemptNumber : Int
  maxAttempts : Int
  quotaPauseCount : Int
deriving DecidableEq

/-- The row of `job_runs` that carries the token's lease, expired or not. -/
def leaseRow (token : ClaimToken) (job : JobRun) : Bool :=
  job.jobId = token.jobId && job.status = .running && job.leaseOwner = some token.leaseOwner &&
    job.leaseEpoch = some token.leaseEpoch && job.leaseExpiresAt.isSome

def attemptRow (token : ClaimToken) (a : JobAttempt) : Bool :=
  a.jobId = token.jobId && a.attemptId = token.attemptId && a.leaseEpoch = token.leaseEpoch &&
    a.componentType = .worker && a.componentInstanceId = token.componentInstanceId && a.unfinished

def componentRow (token : ClaimToken) (c : ComponentHeartbeat) : Bool :=
  c.componentInstanceId = token.componentInstanceId && c.componentType = .worker &&
    c.currentJobId = some token.jobId && c.currentAttemptId = some token.attemptId

/-- `_active_lease_conditions` at the statement's timestamp. -/
def activeLease (token : ClaimToken) (statementNow : Timestamp) (job : JobRun) : Bool :=
  leaseRow token job && job.leaseExpiresAt.any fun expires => statementNow < expires

/-- `lock_active_execution_state`: validate job, attempt, then component. -/
def lockActiveExecutionState (db : Db) (token : ClaimToken) (databaseNow : Timestamp)
    (requireCancelIntent : Bool) : Option ActiveExecutionState := do
  let job ← db.jobs.rows.find? (leaseRow token)
  let expires ← job.leaseExpiresAt
  if expires ≤ databaseNow then none
  else if requireCancelIntent && job.cancelRequestedAt.isNone then none
  else
    let _ ← db.attempts.rows.find? (attemptRow token)
    let _ ← db.components.rows.find? (componentRow token)
    return ⟨job.attempts, job.attemptLimit, job.quotaPauseCount⟩

def JobAttempt.finish (finishedAt : Timestamp) (exitType : ExitType)
    (errorCode errorSummary : Option String) (a : JobAttempt) : JobAttempt :=
  { a with finishedAt := some finishedAt, exitType := some exitType, errorCode, errorSummary }

theorem JobAttempt.finish_identity (finishedAt : Timestamp) (exitType : ExitType)
    (errorCode errorSummary : Option String) (a : JobAttempt) :
    (a.finish finishedAt exitType errorCode errorSummary).identity = a.identity := rfl

/-- `_finish_attempt`, under the time-order check of `job_attempts`. -/
def finishAttempt (db : Db) (token : ClaimToken) (finishedAt : Timestamp) (exitType : ExitType)
    (errorCode errorSummary : Option String) : Except QueueError Db :=
  let open_ := fun a : JobAttempt =>
    a.jobId = token.jobId && a.leaseEpoch = token.leaseEpoch && a.attemptId = token.attemptId &&
      a.unfinished
  if db.attempts.rows.countP open_ ≠ 1 then
    .error (.runtimeError "active lease has no matching unfinished attempt")
  else if db.attempts.rows.any fun a => open_ a && decide (finishedAt < a.startedAt) then
    .error (.integrityError "ck_job_attempts_time_order")
  else .ok (db.updateAttempts open_ (.finish finishedAt exitType errorCode errorSummary)
    (JobAttempt.finish_identity finishedAt exitType errorCode errorSummary))

def releaseComponentAttempt (db : Db) (token : ClaimToken) (databaseNow : Timestamp)
    (status : ComponentStatus) : Except QueueError Db :=
  if db.components.rows.countP (componentRow token) ≠ 1 then
    .error (.runtimeError "active attempt is not bound to the claimed worker component")
  else .ok (db.updateComponents (componentRow token) (.release status databaseNow)
    (ComponentHeartbeat.release_id status databaseNow))

def JobRun.renew (now : Timestamp) (leaseSeconds : Int) (job : JobRun) : JobRun :=
  { job with heartbeatAt := some now, leaseExpiresAt := some (now + seconds leaseSeconds) }

theorem JobRun.renew_jobId (now : Timestamp) (leaseSeconds : Int) (job : JobRun) :
    (job.renew now leaseSeconds).jobId = job.jobId := rfl

/-- `heartbeat_claim`: renew a lease that has not expired. -/
def heartbeatClaim (db : Db) (token : ClaimToken) (lockNow statementNow : Timestamp)
    (leaseSeconds : Int) : Except QueueError (Db × Bool) :=
  if (lockActiveExecutionState db token lockNow false).isNone then .ok (db, false)
  else if !db.jobs.rows.any (activeLease token statementNow) then .ok (db, false)
  else
    let renewed := db.updateJobs (activeLease token statementNow)
      (.renew statementNow leaseSeconds) (JobRun.renew_jobId statementNow leaseSeconds)
    if renewed.components.rows.countP (componentRow token) ≠ 1 then
      .error (.runtimeError "active attempt is not bound to the claimed worker component")
    else .ok (renewed.updateComponents (componentRow token)
      (fun c => { c with lastHeartbeatAt := statementNow, updatedAt := statementNow })
      (fun _ => rfl), true)

structure ClaimFinish where
  requireCancelIntent : Bool
  write : Timestamp → JobRun → JobRun
  keepsJobId : ∀ now job, (write now job).jobId = job.jobId
  clearsLease : ∀ now job, (write now job).leaseOwner = none
  keepsEpoch : ∀ now job, (write now job).leaseEpoch = job.leaseEpoch
  keepsParent : ∀ now job, (write now job).parentJobId = job.parentJobId
  exitType : ExitType
  errorCode : Option String
  errorSummary : Option String
  componentStatus : ComponentStatus
  eventType : EventType
  toStatus : JobStatus
  reason : Option String
  payload : List (String × JsonValue)

/-- Lock, write the job row under the lease conditions, close the attempt, release the
component and record the event, all in one savepoint. -/
def finishClaim (db : Db) (token : ClaimToken) (lockNow statementNow : Timestamp)
    (finish : ClaimFinish) : Except QueueError (Db × Bool) :=
  if (lockActiveExecutionState db token lockNow finish.requireCancelIntent).isNone then
    .ok (db, false)
  else
    let target := fun job : JobRun => activeLease token statementNow job &&
      (!finish.requireCancelIntent || job.cancelRequestedAt.isSome)
    if !db.jobs.rows.any target then .ok (db, false)
    else if db.jobs.rows.any fun job =>
        target job && !(finish.write statementNow job).attemptBounds then
      .error (.integrityError "ck_job_runs_attempt_bounds")
    else do
      let written := db.updateJobs target (finish.write statementNow)
        (finish.keepsJobId statementNow)
      let closed ← finishAttempt written token statementNow finish.exitType finish.errorCode
        finish.errorSummary
      let released ← releaseComponentAttempt closed token statementNow finish.componentStatus
      return (addJobEvent released token.jobId (some token.attemptId) finish.eventType .running
        finish.toStatus (some token.leaseOwner) statementNow finish.reason finish.payload, true)

def completion (successCount : Int) : ClaimFinish where
  requireCancelIntent := false
  write now job :=
    { job with
      status := .success
      successCount
      failedCount := 0
      finishedAt := some now
      leaseOwner := none
      leaseExpiresAt := none
      nextRetryAt := none
      errorCode := none
      errorSummary := none
      errorMessage := none }
  keepsJobId _ _ := rfl
  clearsLease _ _ := rfl
  keepsEpoch _ _ := rfl
  keepsParent _ _ := rfl
  exitType := .success
  errorCode := none
  errorSummary := none
  componentStatus := .healthy
  eventType := .jobSucceeded
  toStatus := .success
  reason := none
  payload := []

def completeClaim (db : Db) (token : ClaimToken) (lockNow statementNow : Timestamp)
    (successCount : Int) : Except QueueError (Db × Bool) :=
  finishClaim db token lockNow statementNow (completion successCount)

/-- The keyword arguments of `fail_claim`. -/
structure FailureArguments where
  status : JobStatus
  delaySeconds : Option Int
  attemptExitType : ExitType
  errorCode : String
  errorSummary : String
  incrementQuotaPauseCount : Bool := false
  incrementFailedCount : Bool := true
deriving DecidableEq

def failure (args : FailureArguments) : ClaimFinish where
  requireCancelIntent := false
  write now job :=
    { job with
      status := args.status
      finishedAt := if args.status = .failed then some now else none
      leaseOwner := none
      leaseExpiresAt := none
      nextRetryAt := args.delaySeconds.map fun delay => now + seconds delay
      errorCode := some args.errorCode
      errorSummary := some args.errorSummary
      errorMessage := some args.errorSummary
      failedCount := if args.incrementFailedCount then 1 else job.failedCount
      quotaPauseCount :=
        if args.incrementQuotaPauseCount then job.quotaPauseCount + 1 else job.quotaPauseCount }
  keepsJobId _ _ := rfl
  clearsLease _ _ := rfl
  keepsEpoch _ _ := rfl
  keepsParent _ _ := rfl
  exitType := args.attemptExitType
  errorCode := some args.errorCode
  errorSummary := some args.errorSummary
  componentStatus := if args.status = .retryWait then .degraded else .unhealthy
  eventType := if args.status = .retryWait then .jobRetryScheduled else .jobFailed
  toStatus := args.status
  reason := some args.errorSummary
  payload :=
    [("error_code", .str args.errorCode),
      ("delay_seconds", (args.delaySeconds.map JsonValue.num).getD .null)]

def failClaim (db : Db) (token : ClaimToken) (lockNow statementNow : Timestamp)
    (args : FailureArguments) : Except QueueError (Db × Bool) :=
  finishClaim db token lockNow statementNow (failure args)

def cancellation (reason : String) : ClaimFinish where
  requireCancelIntent := true
  write now job :=
    { job with
      status := .cancelled
      finishedAt := some now
      leaseOwner := none
      leaseExpiresAt := none
      nextRetryAt := none }
  keepsJobId _ _ := rfl
  clearsLease _ _ := rfl
  keepsEpoch _ _ := rfl
  keepsParent _ _ := rfl
  exitType := .cancelled
  errorCode := none
  errorSummary := none
  componentStatus := .healthy
  eventType := .jobCancelled
  toStatus := .cancelled
  reason := some reason
  payload := []

/-- `cancel_claim`: confirm a requested cancellation. -/
def cancelClaim (db : Db) (token : ClaimToken) (lockNow statementNow : Timestamp)
    (reason : String) : Except QueueError (Db × Bool) :=
  finishClaim db token lockNow statementNow (cancellation reason)

inductive TokenOperation
  | heartbeat (leaseSeconds : Int)
  | complete (successCount : Int)
  | fail (args : FailureArguments)
  | cancel (reason : String)
deriving DecidableEq

def TokenOperation.run (op : TokenOperation) (db : Db) (token : ClaimToken)
    (lockNow statementNow : Timestamp) : Except QueueError (Db × Bool) :=
  match op with
  | heartbeat leaseSeconds => heartbeatClaim db token lockNow statementNow leaseSeconds
  | complete successCount => completeClaim db token lockNow statementNow successCount
  | fail args => failClaim db token lockNow statementNow args
  | cancel reason => cancelClaim db token lockNow statementNow reason

def TokenOperation.requiresCancelIntent : TokenOperation → Bool
  | cancel _ => true
  | _ => false

/-- A locked token names its job row, with a lease still running, and its attempt row. -/
theorem lockActiveExecutionState_isSome {requireCancelIntent : Bool}
    (h : (lockActiveExecutionState db token now requireCancelIntent).isSome) :
    (∃ job, db.jobs.get? token.jobId = some job ∧ leaseRow token job = true ∧
      ∃ expires, job.leaseExpiresAt = some expires ∧ now < expires) ∧
    ∃ a ∈ db.attempts.rows, attemptRow token a = true := by
  obtain ⟨_, hstt⟩ := Option.isSome_iff_exists.mp h
  unfold lockActiveExecutionState at hstt
  obtain ⟨job, hjob, hstt⟩ := Option.bind_eq_some_iff.mp hstt
  obtain ⟨expires, hexp, hstt⟩ := Option.bind_eq_some_iff.mp hstt
  have hrow : leaseRow token job = true := by simpa using List.find?_some hjob
  split at hstt
  · cases hstt
  · rename_i hlive
    split at hstt
    · cases hstt
    · obtain ⟨a, ha, -⟩ := Option.bind_eq_some_iff.mp hstt
      refine ⟨⟨job, ?_, hrow, expires, hexp, not_le.mp hlive⟩, a, ?_, ?_⟩
      · have hid : job.jobId = token.jobId := by
          simp only [leaseRow, bool_to_prop] at hrow
          exact hrow.1.1.1.1
        exact db.jobs.get?_eq_some_iff.mpr ⟨List.mem_of_find?_eq_some hjob, hid⟩
      · exact List.mem_of_find?_eq_some ha
      · simpa using List.find?_some ha

structure TokenWrite (token : ClaimToken) (row row' : JobRun) : Prop where
  target : leaseRow token row = true
  epoch : row'.leaseEpoch = row.leaseEpoch
  lease : row'.leaseOwner = none ∨
    row'.leaseOwner = row.leaseOwner ∧ row'.status = row.status
  parent : row'.parentJobId = row.parentJobId

/-- A refused operation returns `False` and leaves the database alone; an accepted one held
the lease when it locked it, writes that job's row only and keeps every attempt. -/
def TokenOutcome (db : Db) (token : ClaimToken) (lockNow : Timestamp)
    (requireCancelIntent : Bool) (db' : Db) (done : Bool) : Prop :=
  (done = false ∧ db' = db) ∨
    (done = true ∧ (lockActiveExecutionState db token lockNow requireCancelIntent).isSome ∧
      db.jobs.RowWise (fun row row' => row' = row ∨ TokenWrite token row row') db'.jobs ∧
      db'.identities = db.identities)

theorem leaseRow_of_activeLease {job : JobRun} (h : activeLease token now job = true) :
    leaseRow token job = true := by
  exact (Bool.and_eq_true_iff.mp h).1

theorem running_of_leaseRow {job : JobRun} (h : leaseRow token job = true) :
    job.jobId = token.jobId ∧ job.status = .running := by
  simp only [leaseRow, bool_to_prop] at h
  exact ⟨h.1.1.1.1, h.1.1.1.2⟩

theorem TokenOperation.run_refused (op : TokenOperation) (statementNow : Timestamp)
    (h : ∀ intent, lockActiveExecutionState db token lockNow intent = none) :
    op.run db token lockNow statementNow = .ok (db, false) := by
  cases op with
  | heartbeat leaseSeconds => simp [run, heartbeatClaim, h]
  | complete successCount => simp [run, completeClaim, finishClaim, h]
  | fail args => simp [run, failClaim, finishClaim, h]
  | cancel reason => simp [run, cancelClaim, finishClaim, h]

end DyData.HeavyQueue
