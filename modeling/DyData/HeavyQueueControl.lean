import DyData.PythonText
import DyData.HeavyQueueRows

/-!
Inspection and quarantine of a job's control identity, and the closing of an expired
attempt: the recovery half of the heavy-queue claim.
-/

namespace DyData.HeavyQueue

open Relational

def maxControlHistoryRows : Int := 10000

def priorityDailyConfigVersion : String := "priority-daily-v1"

def dailyRequiredPurpose : String := "daily_required"

def schedulerPauseMarkers : List String := ["priority_budget_pause", "worker_resource_pause"]

def isPriorityResourceConfig (configVersion : Option String) : Bool :=
  match configVersion with
  | none => false
  | some v =>
    v == priorityDailyConfigVersion ||
      v.startsWith (priorityDailyConfigVersion ++ "-dimensions-") ||
      v.startsWith (priorityDailyConfigVersion ++ "-recovery")

inductive ControlReason
  | quotaPauseCountInvalid | maxAttemptsInvalid | attemptCountInvalid
  | quotaPauseCountExceedsAttemptCount | attemptHistoryExceedsSafetyLimit
  | leaseEpochCounterMismatch | attemptRowCountMismatch | attemptHistoryNonContiguous
  | historyComponentTypeInvalid | quotaPauseCountHistoryMismatch | leaseOwnerMissing
  | leaseEpochInvalid | unfinishedAttemptMissing | multipleUnfinishedAttempts
  | unfinishedAttemptUnexpected | activeLeaseOnNonRunning | currentTokenAttemptMissing
  | currentTokenComponentMissing | componentTypeInvalid | currentTokenComponentBindingMismatch
  | finishedAttemptComponentBindingStale
deriving DecidableEq

def ControlReason.code : ControlReason → String
  | quotaPauseCountInvalid => "quota_pause_count_invalid"
  | maxAttemptsInvalid => "max_attempts_invalid"
  | attemptCountInvalid => "attempt_count_invalid"
  | quotaPauseCountExceedsAttemptCount => "quota_pause_count_exceeds_attempt_count"
  | attemptHistoryExceedsSafetyLimit => "attempt_history_exceeds_safety_limit"
  | leaseEpochCounterMismatch => "lease_epoch_counter_mismatch"
  | attemptRowCountMismatch => "attempt_row_count_mismatch"
  | attemptHistoryNonContiguous => "attempt_history_non_contiguous"
  | historyComponentTypeInvalid => "history_component_type_invalid"
  | quotaPauseCountHistoryMismatch => "quota_pause_count_history_mismatch"
  | leaseOwnerMissing => "lease_owner_missing"
  | leaseEpochInvalid => "lease_epoch_invalid"
  | unfinishedAttemptMissing => "unfinished_attempt_missing"
  | multipleUnfinishedAttempts => "multiple_unfinished_attempts"
  | unfinishedAttemptUnexpected => "unfinished_attempt_unexpected"
  | activeLeaseOnNonRunning => "active_lease_on_non_running"
  | currentTokenAttemptMissing => "current_token_attempt_missing"
  | currentTokenComponentMissing => "current_token_component_missing"
  | componentTypeInvalid => "component_type_invalid"
  | currentTokenComponentBindingMismatch => "current_token_component_binding_mismatch"
  | finishedAttemptComponentBindingStale => "finished_attempt_component_binding_stale"

/-- `_ExpiredRunningControlState`. -/
structure ControlState where
  attempts : List JobAttempt
  unfinishedAttempts : List JobAttempt
  currentTokenAttempt : Option JobAttempt
  currentTokenBindingValid : Bool
  reasons : List ControlReason
  counterAnomaly : Bool
  historyAnomaly : Bool
  observedAttemptCount : Nat
  observedMaxAttemptNumber : Option Int
  observedMaxLeaseEpoch : Option Int

/-- `ORDER BY attempt_number, attempt_id`. -/
def attemptOrder (a b : JobAttempt) : Prop :=
  a.attemptNumber < b.attemptNumber ∨
    (a.attemptNumber = b.attemptNumber ∧ a.attemptId ≤ b.attemptId)

instance : DecidableRel attemptOrder := fun a b => by
  unfold attemptOrder
  infer_instance

def jobAttempts (db : Db) (jobId : String) : List JobAttempt :=
  (db.attempts.rows.filter fun a => a.jobId = jobId).insertionSort attemptOrder

def JobAttempt.unfinished (a : JobAttempt) : Bool := a.finishedAt.isNone

def attemptComponent (db : Db) (a : JobAttempt) : Option ComponentHeartbeat :=
  (db.components.get? a.componentInstanceId).filter fun c => c.componentType = a.componentType

def boundTo (a : JobAttempt) (c : ComponentHeartbeat) : Bool :=
  c.currentJobId = some a.jobId && c.currentAttemptId = some a.attemptId

def reasonIf (condition : Bool) (reason : ControlReason) : List ControlReason :=
  if condition then [reason] else []

/-- The history columns agree with the counter: numbers and epochs are both `1..n`. -/
def contiguousHistory (attempts : List JobAttempt) (attemptCount : Int) : Bool :=
  let expected := (List.range attemptCount.toNat).map fun i : Nat => (i : Int) + 1
  (attempts.map JobAttempt.attemptNumber).insertionSort (· ≤ ·) == expected &&
    (attempts.map JobAttempt.leaseEpoch).insertionSort (· ≤ ·) == expected &&
    attempts.all fun a => a.attemptNumber == a.leaseEpoch

def schedulerPauses (attempts : List JobAttempt) : Nat :=
  attempts.countP fun a =>
    a.finishedAt.isSome && a.errorCode.any fun code => schedulerPauseMarkers.contains code

def counterReasons (job : JobRun) (attempts : List JobAttempt) : List ControlReason :=
  reasonIf (job.quotaPauseCount < 0) .quotaPauseCountInvalid ++
  reasonIf (job.attemptLimit < 1 || 3 < job.attemptLimit) .maxAttemptsInvalid ++
  reasonIf (job.attempts < 0 || job.attemptLimit + max job.quotaPauseCount 0 < job.attempts)
    .attemptCountInvalid ++
  reasonIf (job.attempts < job.quotaPauseCount) .quotaPauseCountExceedsAttemptCount ++
  reasonIf (maxControlHistoryRows < job.attempts + 1) .attemptHistoryExceedsSafetyLimit ++
  reasonIf (job.epoch != job.attempts) .leaseEpochCounterMismatch ++
  reasonIf ((attempts.length : Int) != job.attempts) .attemptRowCountMismatch ++
  reasonIf (!contiguousHistory attempts job.attempts) .attemptHistoryNonContiguous ++
  reasonIf (attempts.any fun a => a.componentType != .worker) .historyComponentTypeInvalid ++
  reasonIf (decide (job.attempts + 1 ≤ maxControlHistoryRows) &&
      (schedulerPauses attempts : Int) !=
        if isPriorityResourceConfig job.configVersion then job.quotaPauseCount else 0)
    .quotaPauseCountHistoryMismatch

def leaseReasons (job : JobRun) (unfinished : List JobAttempt) : List ControlReason :=
  let waiting := job.status == .pending || job.status == .retryWait
  (if job.status = .running then
    reasonIf (!(job.leaseOwner.any fun owner => PythonText.strip owner ≠ "")) .leaseOwnerMissing ++
    reasonIf (job.epoch ≤ 0) .leaseEpochInvalid ++
    reasonIf unfinished.isEmpty .unfinishedAttemptMissing ++
    reasonIf (1 < unfinished.length) .multipleUnfinishedAttempts
  else if !unfinished.isEmpty then [.unfinishedAttemptUnexpected]
  else reasonIf (waiting && (job.leaseOwner.isSome || job.leaseExpiresAt.isSome))
    .activeLeaseOnNonRunning) ++
  (if job.epoch < 0 then
    [.leaseEpochInvalid] ++
    reasonIf (waiting && !(job.leaseOwner.any fun owner => owner ≠ "")) .leaseOwnerMissing ++
    (if waiting && unfinished.isEmpty then
      [.unfinishedAttemptMissing, .currentTokenAttemptMissing] else [])
  else [])

def bindingReasons (db : Db) (attempts : List JobAttempt) (current : Option JobAttempt) :
    List ControlReason :=
  (match current with
  | none => []
  | some a =>
    match attemptComponent db a with
    | none => [.currentTokenComponentMissing]
    | some c =>
      if a.componentType ≠ .worker then [.componentTypeInvalid]
      else reasonIf (!boundTo a c) .currentTokenComponentBindingMismatch) ++
  (attempts.filter fun a => !a.unfinished).flatMap fun a =>
    reasonIf ((attemptComponent db a).any (boundTo a)) .finishedAttemptComponentBindingStale

/-- `_inspect_expired_running_control`: bounded attempt history against the job's counters. -/
def inspectExpiredRunningControl (db : Db) (job : JobRun) : ControlState :=
  let historyLimit := min (max (job.attempts + 1) 1) maxControlHistoryRows
  let attempts := (jobAttempts db job.jobId).take historyLimit.toNat
  let unfinished := attempts.filter JobAttempt.unfinished
  let current := unfinished.find? fun a => a.leaseEpoch == job.epoch
  let counters := counterReasons job attempts
  let bindings := bindingReasons db attempts current
  { attempts
    unfinishedAttempts := unfinished
    currentTokenAttempt := current
    currentTokenBindingValid :=
      current.any fun a => (attemptComponent db a).any (boundTo a)
    reasons :=
      (counters ++ leaseReasons job unfinished ++
        reasonIf (job.status == .running && current.isNone) .currentTokenAttemptMissing ++
        bindings).eraseDups
    -- Contiguity, component types, the safety limit and stale bindings are history
    -- anomalies; every other counter reason is a counter anomaly.
    counterAnomaly := counters.any fun r =>
      r != .attemptHistoryNonContiguous && r != .historyComponentTypeInvalid &&
        r != .attemptHistoryExceedsSafetyLimit
    historyAnomaly := (counters ++ bindings).any fun r =>
      r == .attemptHistoryNonContiguous || r == .historyComponentTypeInvalid ||
        r == .attemptHistoryExceedsSafetyLimit || r == .finishedAttemptComponentBindingStale
    observedAttemptCount := attempts.length
    observedMaxAttemptNumber := (attempts.map JobAttempt.attemptNumber).max?
    observedMaxLeaseEpoch := (attempts.map JobAttempt.leaseEpoch).max? }

def expiredRunning (now : Timestamp) (job : JobRun) : Bool :=
  job.status = .running && job.leaseExpiresAt.any fun expires => expires ≤ now

/-- `_attempt_finished_timestamp`: never before the attempt started. -/
def attemptFinishedTimestamp (startedAt databaseNow : Timestamp) : Timestamp × Bool :=
  if databaseNow < startedAt then (startedAt, true) else (databaseNow, false)

end DyData.HeavyQueue
