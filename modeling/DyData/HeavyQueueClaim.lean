import DyData.HeavyQueueLease

/-!
`claim_next_heavy_job`: the ordered search for an executable heavy-slot row, with the
quarantine of malformed rows on the way, and the start of a new attempt.
-/

namespace DyData.HeavyQueue

open Relational

structure PlannerIdentity where
  parentSyncExecution : Db → JobRun → Bool
  parentSyncChild : Db → JobRun → Bool

inductive ResourceAction
  | allow | drain | stop | other
deriving DecidableEq

structure ClaimRequest where
  leaseOwner : String
  componentInstanceId : String
  leaseSeconds : Int
  jobKinds : List JobKind := [.parentSync, .dateSync, .finalize]
  jobId : Option String := none
  resourceDecision : Option ResourceAction := none
deriving DecidableEq

/-- What the database answers one claim: the advisory locks, the rows other transactions
hold locked at each query, the successive clock readings and the new attempt's uuid. -/
structure ClaimEnvironment where
  globalLock : Bool
  clock : Nat → Timestamp
  rowLocked : Nat → String → Bool
  dateLock : Nat → Bool
  uuid : String

structure ClaimedJobRecord where
  token : ClaimToken
  attemptNumber : Int
  businessDate : Option Int
  currentStage : Stage
deriving DecidableEq

def heavyWork (job : JobRun) : Bool :=
  job.executionSlot = some .heavySync || job.jobName = "settlement_rebuild"

def noOtherRunningHeavyJob (db : Db) (job : JobRun) : Bool :=
  !db.jobs.rows.any fun other =>
    other.jobId ≠ job.jobId && other.status = .running && heavyWork other

def heavySyncRateLimitCooldownActive (db : Db) (now : Timestamp) : Bool :=
  db.jobs.rows.any fun job =>
    heavyWork job && job.status = .retryWait && job.errorCode = some "douyin_rate_limited" &&
      job.nextRetryAt.any fun retry => now < retry

def resourceAdmissionAllowsJob (job : JobRun) (decision : Option ResourceAction) : Bool :=
  match decision with
  | none => true
  | some .allow => true
  | some .drain =>
    isPriorityResourceConfig job.configVersion &&
      ((job.metadataJson.get? "priority_purpose").bind JsonValue.asString?) =
        some dailyRequiredPurpose
  | some _ => false

/-- The `finalize` branch of the gate.  A decoded document that is no mapping has no `get`,
and an unhashable target cannot be looked up in a set. -/
def finalizeGate (db : Db) (job : JobRun) : Except QueueError Bool :=
  match job.parentJobId with
  | none => .ok false
  | some parentId =>
    if job.jobName ≠ "finalize" ∨ job.executionSlot ≠ some .heavySync ∨
        job.businessDate.isSome ∨ parentId = "" then .ok false
    else if job.metadataJson.truthy && !job.metadataJson.isObject then .error .attributeError
    else if ((job.metadataJson.get? "parent_job_id").bind JsonValue.asString?) ≠ some parentId
    then .ok false
    else match job.metadataJson.get? "target" with
    | some (.arr _) => .error .typeError
    | some (.obj _) => .error .typeError
    | target =>
      let stages := match job.metadataJson.get? "required_stages" with
        | some (.arr [.str "finalize"]) => true
        | _ => false
      let fences := (job.metadataJson.get? "settle_stage_fences").any JsonValue.isArray
      let known := match target with
        | some (.str t) => t == "all" || t == "settlement"
        | _ => false
      if !known || !stages || !fences then .ok false
      else match db.jobs.get? parentId with
      | none => .ok false
      | some parent => .ok (parent.jobKind = some .rangeSync &&
          !(parent.status = .success || parent.status = .failed || parent.status = .cancelled) &&
          parent.dataSource = job.dataSource && parent.configVersion = job.configVersion &&
          parent.windowStart = job.windowStart && parent.windowEnd = job.windowEnd)

/-- The `date_sync` branch of the gate: a declared parent plan needs one successful run. -/
def dateSyncGate (planner : PlannerIdentity) (db : Db) (job : JobRun) : Bool :=
  match job.parentJobId with
  | none => false
  | some parentId =>
    if parentId = "" || !planner.parentSyncChild db job then false
    else match (db.jobs.get? parentId).filter fun p => p.jobKind = some .rangeSync with
    | none => false
    | some range =>
      match range.metadataJson.get? "parent_targets" with
      | some (.arr targets) =>
        if !targets.all fun t => t.asString?.isSome then false
        else if targets.isEmpty then true
        else
          let parents := db.jobs.rows.filter fun p =>
            p.parentJobId = some range.jobId && p.jobKind = some .parentSync
          parents.length = 1 && parents.all fun p => p.status = .success
      | _ => false

def parentSyncGateAllowsClaim (planner : PlannerIdentity) (db : Db) (job : JobRun) :
    Except QueueError Bool :=
  match job.jobKind with
  | some .parentSync => .ok (planner.parentSyncExecution db job)
  | some .finalize => finalizeGate db job
  | some .dateSync => .ok (dateSyncGate planner db job)
  | _ => .ok true

/-- `_heavy_claim_order_key`. -/
structure ClaimOrderKey where
  kindPriority : Nat
  statusPriority : Nat
  dateNullPriority : Nat
  businessDate : Option Int
  jobId : String
deriving DecidableEq

def heavyClaimOrderKey (job : JobRun) : ClaimOrderKey where
  kindPriority := if job.jobKind = some .parentSync then 0 else 1
  statusPriority := if job.status = .running then 0 else 1
  dateNullPriority := if job.businessDate.isNone then 0 else 1
  businessDate := job.businessDate
  jobId := job.jobId

/-- `_heavy_claim_after_key`: the keyset continuation, with `last` the previous key. -/
def heavyClaimAfterKey (last : ClaimOrderKey) (job : JobRun) : Bool :=
  let key := heavyClaimOrderKey job
  let sameKind := key.kindPriority = last.kindPriority
  let sameStatus := sameKind && key.statusPriority = last.statusPriority
  let sameDateNull := sameStatus && key.dateNullPriority = last.dateNullPriority
  last.kindPriority < key.kindPriority ||
    (sameKind && decide (last.statusPriority < key.statusPriority)) ||
    (sameStatus && decide (last.dateNullPriority < key.dateNullPriority)) ||
    (match last.businessDate with
    | none => sameDateNull && job.businessDate.isNone && decide (last.jobId < job.jobId)
    | some lastDate => sameDateNull &&
        ((job.businessDate.any fun date => lastDate < date) ||
          ((job.businessDate.any fun date => date = lastDate) &&
            decide (last.jobId < job.jobId))))

def earliest (rows : List JobRun) : Option JobRun :=
  rows.foldl
    (fun best job => match best with
      | none => some job
      | some b => if heavyClaimAfterKey (heavyClaimOrderKey job) b then some job else some b)
    none

def attemptAvailable (job : JobRun) : Bool :=
  job.attemptCount.getD 0 < job.maxAttempts.getD 3 + job.quotaPauseCount

def readyToStart (now : Timestamp) (job : JobRun) : Bool :=
  (job.status = .pending ||
    (job.status = .retryWait && job.nextRetryAt.any fun retry => retry ≤ now)) &&
  attemptAvailable job

def parentTargetsClaimable (db : Db) (job : JobRun) : Bool :=
  match job.metadataJson.get? "parent_targets" with
  | none => true
  | some (.arr []) => true
  | some (.arr _) => db.jobs.rows.any fun parent =>
      parent.parentJobId.isSome && parent.parentJobId = job.parentJobId &&
        parent.jobKind = some .parentSync && parent.status = .success &&
        parent.executionSlot = some .heavySync && parent.businessDate.isNone &&
        parent.dataSource.isSome && parent.dataSource = job.dataSource &&
        parent.configVersion.isSome && parent.configVersion = job.configVersion
  | some _ => false

/-- The `WHERE` clause of the candidate query. -/
def claimCandidate (db : Db) (request : ClaimRequest) (now : Timestamp)
    (last : Option ClaimOrderKey) (job : JobRun) : Bool :=
  (job.jobKind.any fun kind => request.jobKinds.contains kind) &&
    job.executionSlot = some .heavySync &&
    (readyToStart now job || expiredRunning now job) &&
    noOtherRunningHeavyJob db job &&
    (job.jobKind ≠ some .dateSync || job.businessDate.isSome) &&
    (expiredRunning now job || job.jobKind ≠ some .dateSync || parentTargetsClaimable db job) &&
    (request.jobId.all fun id => job.jobId = id) &&
    (last.all fun key => heavyClaimAfterKey key job)

inductive ClaimVerdict
  | take
  | skip
  | quarantine (state : Option ControlState) (requireExpired : Bool)

/-- The checks of one candidate, in the source's order: control identity first, then the
planner gate, resource admission and the date's advisory lock. -/
def judgeCandidate (planner : PlannerIdentity) (request : ClaimRequest) (db : Db)
    (job : JobRun) (databaseNow : Timestamp) (dateLock : Bool) :
    Except QueueError ClaimVerdict :=
  let control := inspectExpiredRunningControl db job
  if expiredRunning databaseNow job && !control.reasons.isEmpty then
    .ok (.quarantine (some control) true)
  else if (job.status = .pending || job.status = .retryWait) && !control.reasons.isEmpty then
    .ok (.quarantine (some control) false)
  else match parentSyncGateAllowsClaim planner db job with
  | .error e => .error e
  | .ok false =>
    if expiredRunning databaseNow job then .ok (.quarantine none true) else .ok .skip
  | .ok true =>
    if !resourceAdmissionAllowsJob job request.resourceDecision then .ok .skip
    else if job.jobKind = some .dateSync then
      if job.businessDate.isNone || job.dataSource.isNone || job.configVersion.isNone then
        .error .assertionError
      else if !dateLock then .ok .skip
      else .ok .take
    else .ok .take

/-- The search loop.  Round `i` reads the clock at `2 i + 1` for its query and at `2 i + 2`
for its decisions; the result is the selected row with the number of rounds made. -/
def claimSearch (planner : PlannerIdentity) (request : ClaimRequest) (env : ClaimEnvironment) :
    Nat → Nat → Db → Option ClaimOrderKey → Except QueueError (Db × Option (JobRun × Nat))
  | 0, _, db, _ => .ok (db, none)
  | fuel + 1, i, db, last =>
    match earliest (db.jobs.rows.filter fun job =>
        claimCandidate db request (env.clock (2 * i + 1)) last job &&
          !env.rowLocked i job.jobId) with
    | none => .ok (db, none)
    | some job =>
      let now := env.clock (2 * i + 2)
      let next := fun db => if request.jobId.isSome then .ok (db, none)
        else claimSearch planner request env fuel (i + 1) db (some (heavyClaimOrderKey job))
      match judgeCandidate planner request db job now (env.dateLock i) with
      | .error e => .error e
      | .ok .take => .ok (db, some (job, i + 1))
      | .ok .skip => next db
      | .ok (.quarantine state requireExpired) =>
        match quarantineInvalidExpiredRunningJob db job now state requireExpired with
        | .error e => .error e
        | .ok fenced => next fenced

def lockExpiredAttempt (db : Db) (jobId : String) (leaseEpoch : Int) :
    Except QueueError JobAttempt :=
  match db.attempts.rows.find? fun a =>
      a.jobId = jobId && a.leaseEpoch = leaseEpoch && a.unfinished with
  | none => .error (.runtimeError "expired fenced job has no matching attempt record")
  | some a => .ok a

def lockWorkerComponent (db : Db) (componentInstanceId : String)
    (previous : Option JobAttempt) : Except QueueError (Option ComponentHeartbeat) :=
  match db.components.get? componentInstanceId with
  | none => .ok none
  | some c =>
    if c.componentType ≠ .worker then
      .error (.runtimeError "component instance is registered with a non-worker type")
    else if c.currentJobId.isNone && c.currentAttemptId.isNone then .ok (some c)
    else if previous.any fun a => boundTo a c then .ok (some c)
    else .error (.runtimeError "worker component is already bound to another execution")

def prepareWorkerComponent (db : Db) (componentInstanceId : String) (databaseNow : Timestamp)
    (existing : Option ComponentHeartbeat) : Except QueueError Db :=
  match existing with
  | none => db.insertComponent
      { componentInstanceId, componentType := .worker, status := .healthy
        startedAt := some databaseNow, lastHeartbeatAt := databaseNow, updatedAt := databaseNow }
  | some _ => .ok (db.updateComponents (fun c => c.componentInstanceId = componentInstanceId)
      (fun c => { c with status := .healthy, lastHeartbeatAt := databaseNow
                         updatedAt := databaseNow }) fun _ => rfl)

def JobRun.start (request : ClaimRequest) (attemptNumber leaseEpoch : Int) (now : Timestamp)
    (job : JobRun) : JobRun :=
  { job with
    status := .running
    attemptCount := some attemptNumber
    leaseOwner := some request.leaseOwner
    leaseEpoch := some leaseEpoch
    leaseExpiresAt := some (now + seconds request.leaseSeconds)
    nextRetryAt := none
    finishedAt := none
    currentStage := some (job.currentStage.getD .collect)
    errorCode := none
    errorSummary := none
    errorMessage := none }

theorem JobRun.start_jobId (request : ClaimRequest) (attemptNumber leaseEpoch : Int)
    (now : Timestamp) (job : JobRun) :
    (job.start request attemptNumber leaseEpoch now).jobId = job.jobId := rfl

def previousAttempt (db : Db) (job : JobRun) : Except QueueError (Option JobAttempt) :=
  if job.status = .running then (lockExpiredAttempt db job.jobId job.epoch).map some
  else .ok none

def newAttempt (request : ClaimRequest) (uuid : String) (databaseNow : Timestamp)
    (job : JobRun) : JobAttempt :=
  { attemptId := "attempt-" ++ uuid
    jobId := job.jobId
    attemptNumber := job.attempts + 1
    leaseEpoch := job.epoch + 1
    componentType := .worker
    componentInstanceId := request.componentInstanceId
    startedAt := databaseNow }

def claimedRecord (request : ClaimRequest) (uuid : String) (job : JobRun) : ClaimedJobRecord :=
  { token :=
      { jobId := job.jobId
        leaseOwner := request.leaseOwner
        leaseEpoch := job.epoch + 1
        attemptId := "attempt-" ++ uuid
        componentInstanceId := request.componentInstanceId }
    attemptNumber := job.attempts + 1
    businessDate := job.businessDate
    currentStage := job.currentStage.getD .collect }

def beginAttempt (request : ClaimRequest) (uuid : String) (databaseNow : Timestamp) (db : Db)
    (job : JobRun) (previous : Option JobAttempt) : Except QueueError Db := do
  let existing ← lockWorkerComponent db request.componentInstanceId previous
  let prepared ← prepareWorkerComponent db request.componentInstanceId databaseNow existing
  let closed := previous.elim prepared fun a => closeExpiredAttempt prepared a databaseNow
  let start := JobRun.start request (job.attempts + 1) (job.epoch + 1) databaseNow
  if !(start job).attemptBounds then
    .error (.integrityError "ck_job_runs_attempt_bounds")
  else if db.jobs.rows.any fun other => other.jobId ≠ job.jobId && other.occupiesHeavySlot then
    .error (.integrityError "uq_job_runs_heavy_sync_running_slot")
  else do
    let started := closed.updateJobs (fun j => j.jobId = job.jobId) start
      (JobRun.start_jobId request _ _ databaseNow)
    let attempt := newAttempt request uuid databaseNow job
    let recorded ← started.insertAttempt attempt
    let bound := recorded.updateComponents
      (fun c => c.componentInstanceId = request.componentInstanceId)
      (fun c => { c with status := .healthy, lastHeartbeatAt := databaseNow
                         currentJobId := some job.jobId
                         currentAttemptId := some attempt.attemptId
                         updatedAt := databaseNow }) fun _ => rfl
    return addJobEvent bound job.jobId (some attempt.attemptId) .jobClaimed job.status .running
      (some request.leaseOwner) databaseNow none [("lease_epoch", .num (job.epoch + 1))]

/-- The tail of the claim: fail a running job whose attempts are used up, or start the next
attempt. -/
def startClaim (request : ClaimRequest) (uuid : String) (databaseNow : Timestamp) (db : Db)
    (job : JobRun) : Except QueueError (Db × Option ClaimedJobRecord) := do
  let previous ← previousAttempt db job
  if job.status = .running ∧ job.attemptLimit + job.quotaPauseCount ≤ job.attempts then
    match previous with
    | none => .error .assertionError
    | some attempt => do
      let failed ← failJobAfterExhaustedCrash (closeExpiredAttempt db attempt databaseNow) job
        attempt databaseNow job.attemptLimit job.quotaPauseCount
      return (failed, none)
  else do
    let started ← beginAttempt request uuid databaseNow db job previous
    return (started, some (claimedRecord request uuid job))

def claimNextHeavyJob (planner : PlannerIdentity) (db : Db) (request : ClaimRequest)
    (env : ClaimEnvironment) : Except QueueError (Db × Option ClaimedJobRecord) :=
  if request.resourceDecision = some .stop || !env.globalLock ||
      heavySyncRateLimitCooldownActive db (env.clock 0) then
    .ok (db, none)
  else do
    let searched ← claimSearch planner request env (db.jobs.rows.length + 1) 0 db none
    match searched.2 with
    | none => return (searched.1, none)
    | some (job, rounds) =>
      startClaim request env.uuid (env.clock (2 * rounds + 1)) searched.1 job

end DyData.HeavyQueue
