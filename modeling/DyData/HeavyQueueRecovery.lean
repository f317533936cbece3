import DyData.HeavyQueueControl

/-!
The writes of the recovery paths: closing the attempts of a fenced job, releasing the
components bound to them, and failing the job row.
-/

namespace DyData.HeavyQueue

open Relational

/-- The row set of `UPDATE component_heartbeats … WHERE current_attempt_id = …`. -/
def attemptBinding (a : JobAttempt) (c : ComponentHeartbeat) : Bool :=
  c.componentInstanceId = a.componentInstanceId && c.componentType = a.componentType &&
    boundTo a c

def ComponentHeartbeat.release (status : ComponentStatus) (now : Timestamp)
    (c : ComponentHeartbeat) : ComponentHeartbeat :=
  { c with status, currentJobId := none, currentAttemptId := none, updatedAt := now }

theorem ComponentHeartbeat.release_id (status : ComponentStatus) (now : Timestamp)
    (c : ComponentHeartbeat) :
    (c.release status now).componentInstanceId = c.componentInstanceId := rfl

def releaseBinding (db : Db) (a : JobAttempt) (now : Timestamp) : Db :=
  db.updateComponents (attemptBinding a) (.release .degraded now)
    (ComponentHeartbeat.release_id .degraded now)

def boundComponents (db : Db) (a : JobAttempt) : Nat :=
  db.components.rows.countP (attemptBinding a)

/-- The component rows released for a list of attempts, one `UPDATE` after the other. -/
def releaseBindings (db : Db) (attempts : List JobAttempt) (now : Timestamp) : Db × Nat :=
  attempts.foldl
    (fun acc a => (releaseBinding acc.1 a now, acc.2 + boundComponents acc.1 a)) (db, 0)

theorem releaseBindings_frame (attempts : List JobAttempt) (now : Timestamp) (db : Db) :
    (releaseBindings db attempts now).1.jobs = db.jobs ∧
      (releaseBindings db attempts now).1.attempts = db.attempts ∧
      (releaseBindings db attempts now).1.events = db.events := by
  have hfold : ∀ (l : List JobAttempt) (acc acc' : Db × Nat),
      acc' = l.foldl (fun acc a => (releaseBinding acc.1 a now, acc.2 + boundComponents acc.1 a))
        acc → acc'.1.jobs = acc.1.jobs ∧ acc'.1.attempts = acc.1.attempts ∧
          acc'.1.events = acc.1.events := by
    intro l
    induction l with
    | nil =>
      rintro acc _ rfl
      exact ⟨rfl, rfl, rfl⟩
    | cons a l ih =>
      exact fun acc acc' h =>
        ih (releaseBinding acc.1 a now, acc.2 + boundComponents acc.1 a) acc' h
  exact hfold attempts (db, 0) _ rfl

def quarantineSummary : String := "job failed closed after control-plane identity validation"

def JobAttempt.quarantine (now : Timestamp) (a : JobAttempt) : JobAttempt :=
  { a with
    finishedAt := some (attemptFinishedTimestamp a.startedAt now).1
    exitType := some .fatalFailure
    errorCode := some "control_plane_identity_invalid"
    errorSummary := some quarantineSummary }

def JobRun.quarantine (now : Timestamp) (job : JobRun) : JobRun :=
  { job with
    status := .failed
    failedCount := max job.failedCount 1
    finishedAt := some now
    leaseOwner := none
    leaseExpiresAt := none
    heartbeatAt := none
    nextRetryAt := none
    errorCode := some "control_plane_identity_invalid"
    errorSummary := some quarantineSummary
    errorMessage := some quarantineSummary }

theorem JobAttempt.quarantine_identity (now : Timestamp) (a : JobAttempt) :
    (a.quarantine now).identity = a.identity := rfl

theorem JobRun.quarantine_jobId (now : Timestamp) (job : JobRun) :
    (job.quarantine now).jobId = job.jobId := rfl

/-- The reasons reported by the quarantine event: the full history may hold the current
attempt that the bounded inspection missed. -/
def quarantineReasons (state : ControlState) (current : Option JobAttempt)
    (bindingValid : Bool) : List ControlReason :=
  let reasons := state.reasons.filter fun r =>
    !(r == .currentTokenAttemptMissing && current.isSome)
  let reasons :=
    if (current.any fun a => a.componentType != .worker) &&
        !reasons.contains .componentTypeInvalid
    then reasons ++ [.componentTypeInvalid] else reasons
  if current.isSome && !bindingValid && !reasons.contains .currentTokenComponentBindingMismatch
  then reasons ++ [.currentTokenComponentBindingMismatch] else reasons

def quarantineInvalidExpiredRunningJob (db : Db) (job : JobRun) (databaseNow : Timestamp)
    (controlState : Option ControlState) (requireExpired : Bool) : Except QueueError Db :=
  if requireExpired && !expiredRunning databaseNow job then
    .error (.runtimeError "invalid quarantine target is not an expired running job")
  else
    let state := controlState.getD (inspectExpiredRunningControl db job)
    let all := jobAttempts db job.jobId
    let unfinished := all.filter JobAttempt.unfinished
    let current := unfinished.find? fun a => a.leaseEpoch == job.epoch
    let bindingValid :=
      if current.isSome && current.map JobAttempt.attemptId !=
          state.currentTokenAttempt.map JobAttempt.attemptId
      then current.any fun a => (attemptComponent db a).any (boundTo a)
      else state.currentTokenBindingValid
    let anomalies := unfinished.countP fun a =>
      (attemptFinishedTimestamp a.startedAt databaseNow).2
    let closed := db.updateAttempts (fun a => a.jobId = job.jobId && a.unfinished)
      (.quarantine databaseNow) (JobAttempt.quarantine_identity databaseNow)
    let released := releaseBindings closed all databaseNow
    let failed := released.1.updateJobs (fun j => j.jobId = job.jobId)
      (.quarantine databaseNow) (JobRun.quarantine_jobId databaseNow)
    .ok (addJobEvent failed job.jobId (current.map JobAttempt.attemptId) .jobQuarantined
      job.status .failed none databaseNow (some quarantineSummary)
      [("error_code", .str "control_plane_identity_invalid"),
        ("expired_lease_epoch", .num job.epoch),
        ("attempt_present", .bool !unfinished.isEmpty),
        ("closed_attempt_count", .num unfinished.length),
        ("released_component_count", .num released.2),
        ("missing_attempt", .bool current.isNone),
        ("current_token_attempt_missing", .bool current.isNone),
        ("current_token_binding_mismatch", .bool (current.isSome && !bindingValid)),
        ("timestamp_anomaly", .bool (0 < anomalies)),
        ("timestamp_anomaly_attempt_count", .num anomalies),
        ("control_state_reasons", .arr ((quarantineReasons state current bindingValid).map
          fun r => .str r.code)),
        ("counter_anomaly", .bool state.counterAnomaly),
        ("history_anomaly", .bool state.historyAnomaly),
        ("observed_attempt_count", .num (max state.observedAttemptCount all.length)),
        ("observed_max_attempt_number", .num (max (state.observedMaxAttemptNumber.getD 0)
          ((all.map JobAttempt.attemptNumber).max?.getD 0))),
        ("observed_max_lease_epoch", .num (max (state.observedMaxLeaseEpoch.getD 0)
          ((all.map JobAttempt.leaseEpoch).max?.getD 0)))])

/-- `_preserve_previous_error` on a row without metadata: the old text is appended. -/
def preservedSummary (previous : Option String) (summary : String) : String :=
  let old := PythonText.strip (previous.getD "")
  if old ≠ "" ∧ old ≠ summary then summary ++ "; previous: " ++ old else summary

def JobAttempt.expire (now : Timestamp) (a : JobAttempt) : JobAttempt :=
  { a with
    finishedAt := some (attemptFinishedTimestamp a.startedAt now).1
    exitType := some .crashed
    errorCode := some "lease_expired"
    errorSummary := some
      (preservedSummary a.errorSummary "lease expired before the attempt completed") }

theorem JobAttempt.expire_identity (now : Timestamp) (a : JobAttempt) :
    (a.expire now).identity = a.identity := rfl

def closeExpiredAttempt (db : Db) (previous : JobAttempt) (databaseNow : Timestamp) : Db :=
  let closed := db.updateAttempts (fun a => a.attemptId = previous.attemptId)
    (.expire databaseNow) (JobAttempt.expire_identity databaseNow)
  addJobEvent (releaseBinding closed previous databaseNow) previous.jobId
    (some previous.attemptId) .leaseExpired .running .running none databaseNow
    (some "lease expired before completion")
    [("expired_lease_epoch", .num previous.leaseEpoch),
      ("released_component_count", .num (boundComponents closed previous)),
      ("timestamp_anomaly",
        .bool (attemptFinishedTimestamp previous.startedAt databaseNow).2)]

def exhaustedSummary : String := "lease expired after the final permitted attempt"

/-- `_preserve_previous_error` on a job row: metadata, when there is any, keeps the text. -/
def preservePreviousError (job : JobRun) (summary : String) :
    Except QueueError (JsonValue × String) :=
  let old := PythonText.strip (job.errorSummary.getD "")
  if old ≠ "" ∧ old ≠ summary then
    match job.metadataJson with
    | .obj [] => .ok (job.metadataJson, summary ++ "; previous: " ++ old)
    | .obj fields =>
      if (job.metadataJson.get? "previous_error_summary").isSome then
        .ok (job.metadataJson, summary)
      else .ok (.obj (fields ++ [("previous_error_summary", .str old)]), summary)
    | metadata =>
      -- `dict(value)` of a truthy value that is no mapping raises.
      if metadata.truthy then .error .typeError
      else .ok (metadata, summary ++ "; previous: " ++ old)
  else .ok (job.metadataJson, summary)

def JobRun.exhaust (now : Timestamp) (preserved : JsonValue × String) (job : JobRun) : JobRun :=
  { job with
    status := .failed
    failedCount := 1
    finishedAt := some now
    leaseOwner := none
    leaseExpiresAt := none
    nextRetryAt := none
    errorCode := some "max_attempts_exhausted_after_crash"
    metadataJson := preserved.1
    errorSummary := some preserved.2
    errorMessage := some preserved.2 }

theorem JobRun.exhaust_jobId (now : Timestamp) (preserved : JsonValue × String)
    (job : JobRun) : (job.exhaust now preserved).jobId = job.jobId := rfl

def failJobAfterExhaustedCrash (db : Db) (job : JobRun) (attempt : JobAttempt)
    (databaseNow : Timestamp) (maxAttempts quotaPauseCount : Int) : Except QueueError Db := do
  let preserved ← preservePreviousError job exhaustedSummary
  let failed := db.updateJobs (fun j => j.jobId = job.jobId)
    (.exhaust databaseNow preserved) (JobRun.exhaust_jobId databaseNow preserved)
  return addJobEvent failed job.jobId (some attempt.attemptId) .jobFailed .running .failed none
    databaseNow (some preserved.2)
    [("error_code", .str "max_attempts_exhausted_after_crash"),
      ("max_attempts", .num maxAttempts),
      ("quota_pause_count", .num quotaPauseCount),
      ("effective_attempts", .num (max 0 (job.attempts - quotaPauseCount)))]

end DyData.HeavyQueue
