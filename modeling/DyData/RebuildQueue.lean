import DyData.HeavySlot
import DyData.PythonText

/-!
The queue of settlement rebuilds: how a rebuild is claimed, renewed, closed and recovered.
Each function is one transaction; the row lock of the job and the advisory locks of the claim
make it a single step.  The clock readings, the fresh claim ids and the resource decision are
arguments, and an instant inside a document is the number of its microseconds.
-/

namespace DyData.Rebuild

open Relational
open DyData.HeavyQueue
open DyData.HeavySlot

def settlementRebuildJobName : String := "settlement_rebuild"

def defaultSettlementRebuildMaxAttempts : Int := 3

inductive RebuildError
  | leaseLost (message : String)
  | runtimeError (message : String)
  | typeError
  | publish (error : Projection.PublishError)
deriving DecidableEq

/-- `dict(job.metadata_json or {})`: a document that is true but no mapping is refused. -/
def metadataDict (job : JobRun) : Except RebuildError (List (String × JsonValue)) :=
  match job.metadataJson with
  | .obj fields => .ok fields
  | document => if document.truthy then .error .typeError else .ok []

/-- `max(1, min(bound, int(job.max_attempts or bound)))`. -/
def attemptCap (bound : Int) (job : JobRun) : Int :=
  max 1 (min bound (orDefault job.maxAttempts bound))

/-- `max(0, int(job.attempt_count or 0))`. -/
def attemptsMade (job : JobRun) : Int := max 0 job.attempts

/-- What a claim takes from outside: a fresh id, the two clock readings, the lease it asks
for and the resource decision. -/
structure ClaimInput where
  claimId : String
  claimTime : Timestamp
  cooldownTime : Timestamp
  leaseDuration : Int
  resources : Option ResourceAction := none

def claimRow (input : ClaimInput) (metadata : List (String × JsonValue)) (job : JobRun) : JobRun :=
  { job with
    status := .running
    executionSlot := some .heavySync
    startedAt := input.claimTime
    finishedAt := none
    successCount := 0
    failedCount := 0
    errorMessage := none
    claimToken := some input.claimId
    leaseExpiresAt := some (input.claimTime + input.leaseDuration)
    heartbeatAt := some input.claimTime
    nextRetryAt := none
    stateUpdatedAt := some input.claimTime
    attemptCount := some (attemptsMade job + 1)
    maxAttempts := some (attemptCap defaultSettlementRebuildMaxAttempts job)
    leaseOwner := some "settlement_rebuild_worker"
    currentStage := some .settle
    progressCurrent := some 0
    progressTotal := none
    errorCode := none
    errorSummary := none
    metadataJson := .obj (JsonValue.updateFields metadata
      [("attemptCount", .num (attemptsMade job + 1)), ("claimId", .str input.claimId),
        ("claimedAt", .num input.claimTime), ("executor", .str "worker"),
        ("stage", .str "CLAIMED")]) }

def claimable (s : Slot) (input : ClaimInput) (job : JobRun) : Bool :=
  job.jobName = settlementRebuildJobName && job.status = .queued &&
    !heavySyncRateLimitCooldownActive s.queue input.cooldownTime &&
    resourceAdmissionAllowsJob job input.resources &&
    attemptsMade job + 1 ≤ attemptCap defaultSettlementRebuildMaxAttempts job &&
    noOtherRunningHeavyJob s.queue job

def claimSettlementRebuildInSession (s : Slot) (jobId : String) (input : ClaimInput) :
    Except RebuildError (Option Slot) :=
  match (s.jobs.get? jobId).filter (claimable s input) with
  | none => .ok none
  | some job => do
    let metadata ← metadataDict job
    return some (s.updateJob jobId (claimRow input metadata) fun _ => rfl)

def rebuildRunning (s : Slot) : Bool :=
  s.jobs.rows.any fun job => job.jobName = settlementRebuildJobName && job.status = .running

def claimSettlementRebuildJob (s : Slot) (jobId : String) (input : ClaimInput) :
    Except RebuildError (Option Slot) :=
  if rebuildRunning s then .ok none else claimSettlementRebuildInSession s jobId input

/-- The `case` of the claim order: hooks that follow a publication come first. -/
def requesterRank (job : JobRun) : Nat :=
  if job.jobId.startsWith "settlement-publication-after-" then 0 else 1

/-- `ORDER BY started_at, case …, job_id`. -/
def claimOrder (a b : JobRun) : Prop :=
  a.startedAt < b.startedAt ∨ (a.startedAt = b.startedAt ∧
    (requesterRank a < requesterRank b ∨
      (requesterRank a = requesterRank b ∧ a.jobId ≤ b.jobId)))

instance : DecidableRel claimOrder := fun a b => by
  unfold claimOrder
  infer_instance

def pendingRebuilds (s : Slot) : List JobRun :=
  (s.jobs.rows.filter fun job => job.jobName = settlementRebuildJobName &&
    (job.status = .queued || job.status = .retryWait)).insertionSort claimOrder

/-- `queued_jobs[-1]`. -/
def selectedRebuild? (s : Slot) : Option JobRun :=
  ((pendingRebuilds s).filter fun job => job.status = .queued).getLast?

/-- `pending_jobs[:pending_jobs.index(selected)]`. -/
def obsoleteRebuilds (s : Slot) (selected : JobRun) : List JobRun :=
  (pendingRebuilds s).takeWhile fun job => job.jobId ≠ selected.jobId

def supersedeRow (selected : String) (now : Timestamp) (metadata : List (String × JsonValue))
    (job : JobRun) : JobRun :=
  { job with
    status := .success
    successCount := 0
    failedCount := 0
    errorMessage := none
    finishedAt := some now
    claimToken := none
    leaseExpiresAt := none
    heartbeatAt := some now
    nextRetryAt := none
    stateUpdatedAt := some now
    leaseOwner := none
    currentStage := none
    errorCode := none
    errorSummary := none
    metadataJson := .obj (JsonValue.updateFields metadata
      [("stage", .str "SUPERSEDED"), ("claimId", .null), ("superseded_by", .str selected),
        ("settlement_projection", .obj
          [("status", .str "superseded"), ("superseded_by", .str selected)])]) }

def supersedeRebuild (selected : String) (now : Timestamp) (s : Slot) (obsolete : JobRun) :
    Except RebuildError Slot := do
  let metadata ← metadataDict obsolete
  return s.updateJob obsolete.jobId (supersedeRow selected now metadata) fun _ => rfl

structure LatestClaim where
  jobId : String
  claimId : String
  superseded : List String
deriving DecidableEq

def claimLatestSettlementRebuildJob (s : Slot) (input : ClaimInput) :
    Except RebuildError (Option (LatestClaim × Slot)) :=
  if rebuildRunning s then .ok none
  else match selectedRebuild? s with
  | none => .ok none
  | some selected => do
    match ← claimSettlementRebuildInSession s selected.jobId input with
    | none => return none
    | some claimed =>
      let obsolete := obsoleteRebuilds s selected
      let s' ← obsolete.foldlM (supersedeRebuild selected.jobId input.claimTime) claimed
      return some (⟨selected.jobId, input.claimId, obsolete.map JobRun.jobId⟩, s')

def assertActiveSettlementRebuildClaim (s : Slot) (jobId claimId : String) (now : Timestamp) :
    Except RebuildError JobRun :=
  .ofOption ((s.jobs.get? jobId).filter fun job =>
    job.jobName = settlementRebuildJobName && Projection.claimActive job claimId now)
    (.leaseLost "settlement rebuild claim is no longer active")

def heartbeatRow (stage : String) (progressCurrent : Int) (progressTotal : Option Int)
    (now : Timestamp) (leaseDuration : Int) (metadata : List (String × JsonValue))
    (job : JobRun) : JobRun :=
  { job with
    heartbeatAt := some now
    leaseExpiresAt := some (now + leaseDuration)
    stateUpdatedAt := some now
    progressCurrent := some (max 0 progressCurrent)
    progressTotal := match progressTotal with
      | some total => some (max 0 total)
      | none => job.progressTotal
    metadataJson := .obj (JsonValue.updateFields metadata
      [("stage", .str stage), ("progress", .obj [("current", .num (max 0 progressCurrent)),
        ("total", match progressTotal with
          | some total => .num (max 0 total)
          | none => .null)])]) }

def claimedJob? (s : Slot) (jobId claimId : String) (now : Timestamp) : Option JobRun :=
  (s.jobs.get? jobId).filter fun job => Projection.claimActive job claimId now

def heartbeatSettlementRebuildJob (s : Slot) (jobId claimId stage : String)
    (progressCurrent : Int) (progressTotal : Option Int) (now : Timestamp)
    (leaseDuration : Int) : Except RebuildError (Option Slot) :=
  match claimedJob? s jobId claimId now with
  | none => .ok none
  | some job => do
    let metadata ← metadataDict job
    if job.jobName ≠ settlementRebuildJobName then return none
    else return some (s.updateJob jobId
      (heartbeatRow stage progressCurrent progressTotal now leaseDuration metadata) fun _ => rfl)

structure SettlementStats where
  detailCount : Int
  issueCount : Int
  rankingCount : Int
  monthlyCount : Int
deriving DecidableEq

def closeRow (status : JobStatus) (now : Timestamp) (metadata : List (String × JsonValue))
    (job : JobRun) : JobRun :=
  { job with
    status
    finishedAt := some now
    claimToken := none
    leaseExpiresAt := none
    heartbeatAt := some now
    stateUpdatedAt := some now
    leaseOwner := none
    currentStage := none
    metadataJson := .obj metadata }

def finishRow (now : Timestamp) (stats : SettlementStats) (metadata : List (String × JsonValue))
    (job : JobRun) : JobRun :=
  { closeRow .success now (JsonValue.updateFields metadata
      [("stage", .str "SUCCEEDED"), ("claimId", .null), ("completedAt", .num now),
        ("result", .obj
          [("detailCount", .num stats.detailCount), ("issueCount", .num stats.issueCount),
            ("rankingCount", .num stats.rankingCount),
            ("monthlyCount", .num stats.monthlyCount)])]) job with
    successCount := stats.detailCount
    failedCount := 0
    errorMessage := none
    errorCode := none
    errorSummary := none }

def finishClaimedSettlementRebuild (s : Slot) (jobId claimId : String) (stats : SettlementStats)
    (now : Timestamp) : Except RebuildError Slot := do
  let lost := RebuildError.leaseLost "settlement rebuild claim was lost before completion"
  let job ← Except.ofOption (claimedJob? s jobId claimId now) lost
  let metadata ← metadataDict job
  if job.jobName ≠ settlementRebuildJobName then .error lost
  else return s.updateJob jobId (finishRow now stats metadata) fun _ => rfl

def publicationKeys : List String :=
  ["generation_id", "base_generation_id", "input_fingerprint", "manifest_checksum"]

/-- `isinstance(payload.get(key), str) and payload[key]`. -/
def payloadText? (payload : JsonValue) (key : String) : Option String :=
  ((payload.get? key).bind JsonValue.asString?).filter fun text => text ≠ ""

def generationAgrees (s : Slot) (jobId : String) (payload : JsonValue) : Bool :=
  ((payloadText? payload "generation_id").bind s.projection.generations.get?).all fun g =>
    g.sourceJobId = some jobId && (g.state = .published || g.state = .superseded) &&
      g.baseGenerationId = payloadText? payload "base_generation_id" &&
      some g.inputFingerprint = payloadText? payload "input_fingerprint" &&
      g.manifestChecksum = payloadText? payload "manifest_checksum"

def publicationEvidence (sha256 : String → String) (s : Slot) (jobId : String) (e : JobEvent) :
    Bool :=
  e.jobId = jobId && e.eventType = .settlementProjectionPublished && e.stageRunId.isNone &&
    publicationKeys.all (fun key => (payloadText? e.payloadJson key).isSome) &&
    (payloadText? e.payloadJson "input_fingerprint").any (fun fingerprint =>
      match Projection.settlementRebuildPublishOnceKey sha256 jobId fingerprint with
      | .ok key => e.idempotencyKey = some key
      | .error _ => false) &&
    generationAgrees s jobId e.payloadJson

/-- `ORDER BY occurred_at DESC`. -/
def newestFirst (events : List JobEvent) : List JobEvent :=
  events.insertionSort fun a b => b.occurredAt ≤ a.occurredAt

def publishedHead? (s : Slot) (jobId : String) : Option Projection.Generation :=
  ((s.projection.active.bind id).bind s.projection.generations.get?).filter fun g =>
    g.state = .published && (g.sourceJobId = some jobId ||
      (g.sourceJobId.isNone && g.generationId = "settlement-admin-rebuild:" ++ jobId))

def optionText (value : Option String) : JsonValue :=
  match value with
  | some text => .str text
  | none => .null

def documentFields : JsonValue → List (String × JsonValue)
  | .obj fields => fields
  | _ => []

def publication? (sha256 : String → String) (s : Slot) (jobId : String) :
    Option (List (String × JsonValue)) :=
  match (newestFirst s.events).find? (publicationEvidence sha256 s jobId) with
  | some e => some (JsonValue.updateFields [("status", .str "published")]
      (documentFields e.payloadJson))
  | none => (publishedHead? s jobId).map fun g =>
      [("status", .str "published"), ("generation_id", .str g.generationId),
        ("base_generation_id", optionText g.baseGenerationId),
        ("input_fingerprint", .str g.inputFingerprint),
        ("manifest_checksum", optionText g.manifestChecksum)]

def reconciledRow (now : Timestamp) (publication metadata : List (String × JsonValue))
    (job : JobRun) : JobRun :=
  { closeRow .success now (JsonValue.updateFields metadata
      [("stage", .str "SUCCEEDED"), ("claimId", .null), ("completedAt", .num now),
        ("recoveryState", .str "RECONCILED_PUBLISHED"),
        ("settlement_projection", .obj publication)]) job with
    successCount := max 0 (orDefault job.progressCurrent (orDefault (some job.successCount) 0))
    failedCount := 0
    errorMessage := none
    errorCode := none
    errorSummary := none }

/-- `(job.status, job.claim_token, job.lease_expires_at, job.state_updated_at)`. -/
def owner (job : JobRun) : JobStatus × Option String × Option Timestamp × Option Timestamp :=
  (job.status, job.claimToken, job.leaseExpiresAt, job.stateUpdatedAt)

/-- `reconcile_published_settlement_rebuild` for the row as the caller observed it. -/
def reconcilePublishedSettlementRebuild (sha256 : String → String) (s : Slot)
    (observed : JobRun) (now : Timestamp) : Except RebuildError (Option Slot) :=
  match (s.jobs.get? observed.jobId).filter fun job => owner observed = owner job with
  | none => .ok none
  | some job =>
    match publication? sha256 s job.jobId with
    | none => .ok none
    | some publication => do
      let metadata ← metadataDict job
      return some (s.updateJob job.jobId (reconciledRow now publication metadata) fun _ => rfl)

inductive FailTransition
  | reconciled | retryWait | failed
deriving DecidableEq

/-- The delay before the next attempt: `min(300, 30 * 2 ** (attempt_count - 1))` seconds,
which is half a step for a row that counts no attempt. -/
def retryDelay (attempt : Int) : Int :=
  if attempt ≤ 0 then seconds 15 else seconds (min 300 (30 * 2 ^ (attempt - 1).toNat))

def retryable (requiresNewJob : Bool) (job : JobRun) : Bool :=
  !requiresNewJob && attemptsMade job < attemptCap defaultSettlementRebuildMaxAttempts job

def retryRow (now : Timestamp) (error : String) (metadata : List (String × JsonValue))
    (job : JobRun) : JobRun :=
  { job with
    status := .retryWait
    nextRetryAt := some (now + retryDelay (attemptsMade job))
    successCount := 0
    failedCount := 0
    errorMessage := some error
    finishedAt := none
    claimToken := none
    leaseExpiresAt := none
    heartbeatAt := none
    stateUpdatedAt := some now
    leaseOwner := none
    currentStage := none
    progressCurrent := some 0
    progressTotal := none
    errorCode := some "SETTLEMENT_REBUILD_RETRY_QUEUED"
    errorSummary := some error
    metadataJson := .obj (JsonValue.updateFields metadata
      [("stage", .str "RETRY_QUEUED"), ("claimId", .null), ("failureReason", .str error),
        ("failedAt", .num now), ("recoveryState", .str "REQUEUED_RETRYABLE_FAILURE")]) }

def failedRow (now : Timestamp) (error : String) (requiresNewJob : Bool)
    (metadata : List (String × JsonValue)) (job : JobRun) : JobRun :=
  { closeRow .failed now (JsonValue.updateFields metadata
      [("stage", .str "FAILED"), ("claimId", .null), ("failureReason", .str error),
        ("failedAt", .num now), ("recoveryState", .str (if requiresNewJob then
          "NEW_REBUILD_JOB_REQUIRED" else "FAILED_ATTEMPTS_EXHAUSTED"))]) job with
    nextRetryAt := none
    successCount := 0
    failedCount := 1
    errorMessage := some error
    errorCode := some (if requiresNewJob then "SETTLEMENT_REBUILD_SOURCE_DRIFT"
      else "SETTLEMENT_REBUILD_ATTEMPTS_EXHAUSTED")
    errorSummary := some error }

/-- `_fail_claimed_settlement_rebuild`; `error` is the sanitized message. -/
def failClaimedSettlementRebuild (sha256 : String → String) (s : Slot) (jobId claimId : String)
    (error : String) (requiresNewJob : Bool) (now : Timestamp) :
    Except RebuildError (Option (FailTransition × Slot)) :=
  match claimedJob? s jobId claimId now with
  | none => .ok none
  | some job => do
    match ← reconcilePublishedSettlementRebuild sha256 s job now with
    | some s' => return some (.reconciled, s')
    | none =>
      let metadata ← metadataDict job
      if job.jobName ≠ settlementRebuildJobName then return none
      else if retryable requiresNewJob job then
        return some (.retryWait, s.updateJob jobId (retryRow now error metadata) fun _ => rfl)
      else
        return some (.failed,
          s.updateJob jobId (failedRow now error requiresNewJob metadata) fun _ => rfl)

def releaseDueSettlementRetries (s : Slot) (now : Timestamp) : Slot :=
  s.updateJobs (fun job => job.jobName = settlementRebuildJobName && job.status = .retryWait &&
      job.nextRetryAt.any fun retry => retry ≤ now)
    (fun job => { job with status := .queued, nextRetryAt := none, stateUpdatedAt := some now })
    fun _ => rfl

def runningRebuilds (s : Slot) : List JobRun :=
  (s.jobs.rows.filter fun job =>
    job.jobName = settlementRebuildJobName && job.status = .running).insertionSort fun a b =>
      a.startedAt < b.startedAt ∨ (a.startedAt = b.startedAt ∧ a.jobId ≤ b.jobId)

/-- `max(activity_values)`. -/
def lastActivity (job : JobRun) : Timestamp :=
  max job.startedAt (max (job.heartbeatAt.getD job.startedAt)
    (job.stateUpdatedAt.getD job.startedAt))

/-- A running rebuild nobody renews: its lease ran out, or it has none and was silent. -/
def staleClaim (now : Timestamp) (staleAfter : Int) (job : JobRun) : Bool :=
  match job.leaseExpiresAt with
  | some expires => expires ≤ now
  | none => staleAfter ≤ now - lastActivity job

def exhaustedReason : String := "结算重建超过安全重试次数，请重新发布分佣规则。"

def recoveryFailedRow (now : Timestamp) (metadata : List (String × JsonValue)) (job : JobRun) :
    JobRun :=
  { closeRow .failed now (JsonValue.updateFields metadata
      [("stage", .str "FAILED"), ("failureReason", .str exhaustedReason),
        ("recoveryState", .str "FAILED_ATTEMPTS_EXHAUSTED")]) job with
    successCount := 0
    failedCount := 1
    errorMessage := some exhaustedReason
    errorCode := some "SETTLEMENT_REBUILD_ATTEMPTS_EXHAUSTED"
    errorSummary := some exhaustedReason }

def requeuedRow (now : Timestamp) (recoveryCount : Int) (metadata : List (String × JsonValue))
    (job : JobRun) : JobRun :=
  { job with
    status := .queued
    successCount := 0
    failedCount := 0
    errorMessage := none
    finishedAt := none
    claimToken := none
    leaseExpiresAt := none
    heartbeatAt := none
    stateUpdatedAt := some now
    leaseOwner := none
    currentStage := none
    progressCurrent := some 0
    progressTotal := none
    errorCode := none
    errorSummary := none
    metadataJson := .obj (JsonValue.updateFields metadata
      [("claimId", .null), ("claimedAt", .null), ("stage", .str "RETRY_QUEUED"),
        ("recoveryCount", .num recoveryCount), ("recoveryState", .str "REQUEUED_STALE_CLAIM")]) }

/-- `int(metadata.get("recoveryCount") or 0) + 1`; texts of numbers are not modelled. -/
def nextRecoveryCount (metadata : List (String × JsonValue)) : Except RebuildError Int :=
  match (JsonValue.obj metadata).get? "recoveryCount" with
  | none => .ok 1
  | some (.num n) => .ok (n + 1)
  | some (.bool b) => .ok (if b then 2 else 1)
  | some document => if document.truthy then .error .typeError else .ok 1

def sameOwner (observed job : JobRun) : Bool :=
  job.status = .running && job.claimToken = observed.claimToken &&
    job.stateUpdatedAt = observed.stateUpdatedAt && job.leaseExpiresAt = observed.leaseExpiresAt

/-- One round of the loop of the recovery.  The row was `observed` by the first query; another
transaction may have changed it before the lock was taken. -/
def recoverStaleRebuild (sha256 : String → String) (now : Timestamp)
    (staleAfter maxAttempts : Int) (s : Slot) (observed : JobRun) : Except RebuildError Slot :=
  if !staleClaim now staleAfter observed then .ok s
  else do
    let metadata ← metadataDict observed
    match ← reconcilePublishedSettlementRebuild sha256 s observed now with
    | some s' => return s'
    | none =>
      if attemptCap maxAttempts observed ≤ attemptsMade observed then
        return s.updateJobs (fun job => job.jobId = observed.jobId && sameOwner observed job)
          (recoveryFailedRow now metadata) fun _ => rfl
      else
        let recoveryCount ← nextRecoveryCount metadata
        return s.updateJobs (fun job => job.jobId = observed.jobId && sameOwner observed job)
          (requeuedRow now recoveryCount metadata) fun _ => rfl

/-- `_recover_stale_settlement_rebuilds`; `snapshot` is what its first query saw, which other
transactions may have changed since. -/
def recoverStaleSettlementRebuilds (sha256 : String → String) (now : Timestamp)
    (staleAfter maxAttempts : Int) (snapshot s : Slot) : Except RebuildError Slot :=
  (runningRebuilds snapshot).foldlM (recoverStaleRebuild sha256 now staleAfter maxAttempts) s

end DyData.Rebuild
