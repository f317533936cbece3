import DyData.RelationalTable
import DyData.ExceptBind
import DyData.JsonValue

/-!
The control rows of the heavy queue: `job_runs`, `job_attempts`, `component_heartbeats` and
`job_events`.  Timestamps are microseconds of the database clock.  Primary keys and the two
unique constraints of `job_attempts` are part of the database type.
-/

namespace DyData.HeavyQueue

open Relational List

abbrev Timestamp := Int

/-- `timedelta(seconds=n)`. -/
def seconds (n : Int) : Int := n * 1000000

inductive JobStatus
  | pending | queued | running | retryWait | success | succeeded | partialSuccess | failed
  | cancelled
deriving DecidableEq

def JobStatus.terminal : JobStatus → Bool
  | .success | .succeeded | .partialSuccess | .failed | .cancelled => true
  | .pending | .queued | .running | .retryWait => false

inductive JobKind
  | rangeSync | parentSync | dateSync | finalize | productSync
deriving DecidableEq

inductive ExecutionSlot
  | heavySync
  | other (slot : String)
deriving DecidableEq

inductive Stage
  | collect | collectDimensions | materialize | settle | finalize
deriving DecidableEq

inductive ComponentType
  | worker | browser | api | postgres | proxy | opsAgent
deriving DecidableEq

inductive ComponentStatus
  | starting | healthy | degraded | draining | unhealthy | stopped
deriving DecidableEq

inductive ExitType
  | success | retryableFailure | fatalFailure | cancelled | crashed | resourceGuard
deriving DecidableEq

structure JobRun where
  jobId : String
  jobName : String
  status : JobStatus
  startedAt : Timestamp := 0
  finishedAt : Option Timestamp := none
  successCount : Int := 0
  failedCount : Int := 0
  errorMessage : Option String := none
  metadataJson : JsonValue := .obj []
  parentJobId : Option String := none
  jobKind : Option JobKind := none
  executionSlot : Option ExecutionSlot := none
  businessDate : Option Int := none
  dataSource : Option String := none
  configVersion : Option String := none
  windowStart : Option Timestamp := none
  windowEnd : Option Timestamp := none
  currentStage : Option Stage := none
  attemptCount : Option Int := some 0
  maxAttempts : Option Int := some 3
  quotaPauseCount : Int := 0
  leaseOwner : Option String := none
  leaseEpoch : Option Int := some 0
  leaseExpiresAt : Option Timestamp := none
  heartbeatAt : Option Timestamp := none
  stateUpdatedAt : Option Timestamp := none
  nextRetryAt : Option Timestamp := none
  errorCode : Option String := none
  errorSummary : Option String := none
  cancelRequestedAt : Option Timestamp := none
  claimToken : Option String := none
  progressCurrent : Option Int := none
  progressTotal : Option Int := none

/-- `int(value or default)` on a nullable integer column. -/
def orDefault (value : Option Int) (default : Int) : Int :=
  match value with
  | none => default
  | some 0 => default
  | some n => n

namespace JobRun

def epoch (job : JobRun) : Int := orDefault job.leaseEpoch 0

def attempts (job : JobRun) : Int := orDefault job.attemptCount 0

def attemptLimit (job : JobRun) : Int := orDefault job.maxAttempts 3

/-- The check constraint `ck_job_runs_attempt_bounds`; a null operand satisfies it. -/
def attemptBounds (job : JobRun) : Bool :=
  job.attemptCount.all (fun n => 0 ≤ n) &&
  job.maxAttempts.all (fun n => 1 ≤ n ∧ n ≤ 3) &&
  decide (0 ≤ job.quotaPauseCount) &&
  job.attemptCount.all (fun n =>
    job.maxAttempts.all (fun m => n ≤ m + job.quotaPauseCount) &&
      decide (job.quotaPauseCount ≤ n))

/-- Rows of the partial index `uq_job_runs_heavy_sync_running_slot`. -/
def occupiesHeavySlot (job : JobRun) : Bool :=
  job.executionSlot = some .heavySync && job.status = .running

end JobRun

structure JobAttempt where
  attemptId : String
  jobId : String
  attemptNumber : Int
  leaseEpoch : Int
  componentType : ComponentType
  componentInstanceId : String
  startedAt : Timestamp
  finishedAt : Option Timestamp := none
  exitType : Option ExitType := none
  errorCode : Option String := none
  errorSummary : Option String := none
deriving DecidableEq

structure AttemptIdentity where
  attemptId : String
  jobId : String
  attemptNumber : Int
  leaseEpoch : Int
  componentType : ComponentType
  componentInstanceId : String
  startedAt : Timestamp
deriving DecidableEq

def JobAttempt.identity (a : JobAttempt) : AttemptIdentity :=
  ⟨a.attemptId, a.jobId, a.attemptNumber, a.leaseEpoch, a.componentType,
    a.componentInstanceId, a.startedAt⟩

structure ComponentHeartbeat where
  componentInstanceId : String
  componentType : ComponentType
  status : ComponentStatus
  startedAt : Option Timestamp := none
  lastHeartbeatAt : Timestamp
  currentJobId : Option String := none
  currentAttemptId : Option String := none
  updatedAt : Timestamp
deriving DecidableEq

inductive EventType
  | jobClaimed | jobSucceeded | jobRetryScheduled | jobFailed | jobCancelled | jobQuarantined
  | leaseExpired | settlementProjectionPublished
  | settlementCompaction (event : String)
deriving DecidableEq

inductive ActorType
  | system | worker | opsAgent | user
deriving DecidableEq

structure JobEvent where
  jobId : String
  stageRunId : Option String := none
  attemptId : Option String
  eventType : EventType
  fromStatus : Option JobStatus
  toStatus : Option JobStatus
  actorType : ActorType
  actorId : Option String
  reason : Option String
  idempotencyKey : Option String := none
  payloadJson : JsonValue
  occurredAt : Timestamp

/-- What makes an operation raise; the transaction is then rolled back by its caller. -/
inductive QueueError
  | runtimeError (message : String)
  | integrityError (constraint : String)
  | attributeError
  | typeError
  | assertionError
deriving DecidableEq

structure Db where
  jobs : Table JobRun.jobId
  attempts : Table JobAttempt.attemptId
  components : Table ComponentHeartbeat.componentInstanceId
  events : List JobEvent
  attemptNumbers : (attempts.rows.map fun a => (a.jobId, a.attemptNumber)).Nodup
  attemptEpochs : (attempts.rows.map fun a => (a.jobId, a.leaseEpoch)).Nodup

namespace Db

def updateJobs (db : Db) (p : JobRun → Bool) (f : JobRun → JobRun)
    (hf : ∀ job, (f job).jobId = job.jobId) : Db :=
  { db with jobs := db.jobs.update p f hf }

theorem attemptId_of_identity {a b : JobAttempt} (h : a.identity = b.identity) :
    a.attemptId = b.attemptId :=
  congrArg AttemptIdentity.attemptId h

def updateAttempts (db : Db) (p : JobAttempt → Bool) (f : JobAttempt → JobAttempt)
    (hf : ∀ a, (f a).identity = a.identity) : Db :=
  { db with
    attempts := db.attempts.update p f fun a => attemptId_of_identity (hf a)
    attemptNumbers := by
      rw [Table.map_update]
      · exact db.attemptNumbers
      · intro a
        rw [show (f a).jobId = a.jobId from congrArg AttemptIdentity.jobId (hf a),
          show (f a).attemptNumber = a.attemptNumber from
            congrArg AttemptIdentity.attemptNumber (hf a)]
    attemptEpochs := by
      rw [Table.map_update]
      · exact db.attemptEpochs
      · intro a
        rw [show (f a).jobId = a.jobId from congrArg AttemptIdentity.jobId (hf a),
          show (f a).leaseEpoch = a.leaseEpoch from congrArg AttemptIdentity.leaseEpoch (hf a)] }

def updateComponents (db : Db) (p : ComponentHeartbeat → Bool)
    (f : ComponentHeartbeat → ComponentHeartbeat)
    (hf : ∀ c, (f c).componentInstanceId = c.componentInstanceId) : Db :=
  { db with components := db.components.update p f hf }

def insertComponent (db : Db) (c : ComponentHeartbeat) : Except QueueError Db :=
  match db.components.insert? c with
  | none => .error (.integrityError "component_heartbeats_pkey")
  | some components => .ok { db with components }

def insertAttempt (db : Db) (a : JobAttempt) : Except QueueError Db :=
  match h : db.attempts.insert? a with
  | none => .error (.integrityError "job_attempts_pkey")
  | some attempts =>
    if hnumber : (a.jobId, a.attemptNumber) ∈
        db.attempts.rows.map fun b => (b.jobId, b.attemptNumber) then
      .error (.integrityError "uq_job_attempts_job_attempt_number")
    else if hepoch : (a.jobId, a.leaseEpoch) ∈
        db.attempts.rows.map fun b => (b.jobId, b.leaseEpoch) then
      .error (.integrityError "uq_job_attempts_job_lease_epoch")
    else .ok
      { db with
        attempts
        attemptNumbers := by
          rw [Table.rows_insert? h, map_append, map_singleton, nodup_append_comm]
          exact nodup_cons.mpr ⟨hnumber, db.attemptNumbers⟩
        attemptEpochs := by
          rw [Table.rows_insert? h, map_append, map_singleton, nodup_append_comm]
          exact nodup_cons.mpr ⟨hepoch, db.attemptEpochs⟩ }

section Frame

variable (db : Db) (p : JobRun → Bool) (f : JobRun → JobRun)
  (hf : ∀ job, (f job).jobId = job.jobId)

theorem updateJobs_jobs : (db.updateJobs p f hf).jobs = db.jobs.update p f hf := rfl

variable (q : JobAttempt → Bool) (g : JobAttempt → JobAttempt)
  (hg : ∀ a, (g a).identity = a.identity)

@[simp] theorem updateAttempts_jobs : (db.updateAttempts q g hg).jobs = db.jobs := rfl

variable (r : ComponentHeartbeat → Bool) (h : ComponentHeartbeat → ComponentHeartbeat)
  (hh : ∀ c, (h c).componentInstanceId = c.componentInstanceId)

@[simp] theorem updateComponents_jobs : (db.updateComponents r h hh).jobs = db.jobs := rfl

end Frame

def identities (db : Db) : List AttemptIdentity := db.attempts.rows.map JobAttempt.identity

theorem insertAttempt_ok {db db' : Db} {a : JobAttempt} (h : db.insertAttempt a = .ok db') :
    db'.jobs = db.jobs ∧ db'.components = db.components ∧ db'.events = db.events ∧
      db'.attempts.rows = db.attempts.rows ++ [a] ∧
      ∀ b ∈ db.attempts.rows, b.attemptId ≠ a.attemptId := by
  unfold insertAttempt at h
  split at h
  · cases h
  · rename_i hins
    split at h
    · cases h
    · split at h
      · cases h
      · cases h
        exact ⟨rfl, rfl, rfl, Table.rows_insert? hins,
          db.attempts.get?_eq_none_iff.mp (Table.get?_of_insert? hins)⟩

/-- The epoch of an attempt identifies it among the attempts of its job. -/
theorem attempt_unique (db : Db) {a b : JobAttempt} (ha : a ∈ db.attempts.rows)
    (hb : b ∈ db.attempts.rows) (hjob : a.jobId = b.jobId)
    (hep : a.leaseEpoch = b.leaseEpoch) : a = b :=
  inj_on_of_nodup_map db.attemptEpochs ha hb (by simp [hjob, hep])

end Db

/-- `_add_job_event`: an event without an actor is the system's own. -/
def addJobEvent (db : Db) (jobId : String) (attemptId : Option String) (eventType : EventType)
    (fromStatus toStatus : JobStatus) (actorId : Option String) (occurredAt : Timestamp)
    (reason : Option String) (payload : List (String × JsonValue)) : Db :=
  { db with
    events := db.events ++ [
      { jobId, attemptId, eventType, fromStatus := some fromStatus, toStatus := some toStatus
        actorType := if actorId.isSome then .worker else .system
        actorId, reason, payloadJson := .obj payload, occurredAt }] }

section EventFrame

variable (db : Db) (jobId : String) (attemptId : Option String) (eventType : EventType)
  (fromStatus toStatus : JobStatus) (actorId : Option String) (occurredAt : Timestamp)
  (reason : Option String) (payload : List (String × JsonValue))

@[simp] theorem addJobEvent_jobs :
    (addJobEvent db jobId attemptId eventType fromStatus toStatus actorId occurredAt reason
      payload).jobs = db.jobs := rfl

@[simp] theorem addJobEvent_components :
    (addJobEvent db jobId attemptId eventType fromStatus toStatus actorId occurredAt reason
      payload).components = db.components := rfl

end EventFrame

end DyData.HeavyQueue
