import DyData.ProjectionRows
import DyData.PythonText

/-!
The three publishers of a settlement generation.  Each one checks its own preconditions, then
compares the active pointer with the recorded base, promotes the generation and records a
once-only event; a repetition finds the generation published and the event on record.  A
raised error rolls the publication back.
-/

namespace DyData.Projection

open Relational
open DyData.HeavyQueue (JobRun JobEvent Timestamp JobStatus Stage)

inductive PublishError
  | valueError (message : String)
  | runtimeError (message : String)
  | bootstrapError (message : String)
deriving DecidableEq

def identity (label value : String) : Except PublishError String :=
  if value = "" ∨ PythonText.strip value ≠ value then
    .error (.valueError (label ++ " must be a non-empty canonical string"))
  else .ok value

def digest (label value : String) : Except PublishError String :=
  if isLowerHex64 value then .ok value
  else .error (.valueError (label ++ " must be 64 lowercase hexadecimal characters"))

def require (condition : Bool) (message : String) : Except PublishError Unit :=
  .ensure condition (.runtimeError message)

/-- What a publication takes from outside: the digest function, the re-verification of a
compaction, which only reads, and the clock readings in the order they are taken. -/
structure PublishContext where
  sha256 : String → String
  reverify : Db → String → Except String Unit

structure PublishClock where
  claimCheck : Timestamp
  lockCheck : Timestamp
  published : Timestamp
  occurred : Timestamp
deriving DecidableEq

/-- `{prefix}{sha256(owner|fingerprint)}`, refused when its length does not fit. -/
def onceKey (sha256 : String → String) (keyPrefix owner fingerprint : String)
    (fits : Nat → Bool) (tooLong : String) : Except PublishError String := do
  let _ ← digest "input_fingerprint" fingerprint
  let key := keyPrefix ++ sha256 (owner ++ "|" ++ fingerprint)
  require (fits key.length) tooLong
  return key

def projectionPublishOnceKey (sha256 : String → String) (parentJobId fingerprint : String) :
    Except PublishError String :=
  onceKey sha256 "finalize-consume-v1:" parentJobId fingerprint (fun n => n = 84)
    "projection publication once key has invalid length"

def settlementRebuildPublishOnceKey (sha256 : String → String) (jobId fingerprint : String) :
    Except PublishError String :=
  onceKey sha256 "settlement-rebuild-publish-v1:" jobId fingerprint (fun n => n ≤ 128)
    "settlement rebuild publication once key is too long"

def settlementCompactionPublishOnceKey (sha256 : String → String) (jobId fingerprint : String) :
    Except PublishError String :=
  onceKey sha256 "settlement-compaction-publish-v1:" jobId fingerprint (fun n => n ≤ 128)
    "settlement compaction publication once key is too long"

structure OnceEvent where
  stageRunId : Option String
  status : JobStatus
  reason : String
  conflict : String
  payload : List (String × String)

def Db.onceEvent? (db : Db) (jobId key : String) : Option JobEvent :=
  db.events.find? fun e => e.jobId = jobId && e.idempotencyKey = some key

def OnceEvent.toJobEvent (event : OnceEvent) (job : JobRun) (key : String)
    (occurredAt : Timestamp) : JobEvent :=
  { jobId := job.jobId
    stageRunId := event.stageRunId
    attemptId := none
    eventType := .settlementProjectionPublished
    fromStatus := some event.status
    toStatus := some event.status
    actorType := if job.leaseOwner.any (fun owner => owner ≠ "") then .worker else .system
    actorId := job.leaseOwner
    reason := some event.reason
    idempotencyKey := some key
    payloadJson := .ofStrings event.payload
    occurredAt }

def Db.recordOnce (db : Db) (job : JobRun) (key : String) (event : OnceEvent)
    (occurredAt : Timestamp) : Except PublishError Db :=
  match db.onceEvent? job.jobId key with
  | some existing =>
    if existing.stageRunId ≠ event.stageRunId ∨
        existing.eventType ≠ .settlementProjectionPublished ∨
        existing.payloadJson.equalsStrings event.payload = false then
      .error (.runtimeError event.conflict)
    else .ok db
  | none => .ok { db with events := db.events ++ [event.toJobEvent job key occurredAt] }

def alreadyPublished (pointer : Option String) (g : Generation) : Bool :=
  pointer = some g.generationId && g.state = .published

structure JobStageRun where
  stageRunId : String
  jobId : String
  stageName : Stage
deriving DecidableEq

/-- `_ProjectionPublishMutation`, as `make_projection_publish_mutation` builds it. -/
structure ProjectionPublishMutation where
  generationId : String
  baseGenerationId : String
  inputFingerprint : String
  manifestChecksum : String
  parentJobId : String
deriving DecidableEq

def makeProjectionPublishMutation (m : ProjectionPublishMutation) :
    Except PublishError ProjectionPublishMutation := do
  let generationId ← identity "generation_id" m.generationId
  let baseGenerationId ← identity "base_generation_id" m.baseGenerationId
  let inputFingerprint ← digest "input_fingerprint" m.inputFingerprint
  let manifestChecksum ← digest "manifest_checksum" m.manifestChecksum
  let parentJobId ← identity "parent_job_id" m.parentJobId
  return { generationId, baseGenerationId, inputFingerprint, manifestChecksum, parentJobId }

def found {α : Type} (row : Option α) (message : String) : Except PublishError α :=
  .ofOption row (.runtimeError message)

def publicationPayload (fingerprint generationId checksum base : String) :
    List (String × String) :=
  [("input_fingerprint", fingerprint), ("generation_id", generationId),
    ("manifest_checksum", checksum), ("base_generation_id", base)]

/-- The compare-and-swap of the finalize mutation and of the rebuild: the pointer still names
the base and the generation waits for its publication. -/
def comparePromote (db : Db) (pointer : Option String) (g : Generation) (base : String)
    (now : Timestamp) (pointerChanged notReady : String) : Except PublishError Db :=
  if alreadyPublished pointer g then .ok db
  else do
    require (pointer = some base) pointerChanged
    require (g.state = .ready && g.publishedAt.isNone) notReady
    return db.promote g.generationId now

/-- `_ProjectionPublishMutation.apply`, inside the transaction of the stage runner. -/
def ProjectionPublishMutation.apply (m : ProjectionPublishMutation) (ctx : PublishContext)
    (clock : PublishClock) (db : Db) (job : JobRun) (stage : JobStageRun) :
    Except PublishError Db := do
  require (job.jobId = stage.jobId && job.jobKind = some .finalize &&
    stage.stageName = .finalize && job.parentJobId = some m.parentJobId)
    "projection publication event owner is invalid"
  let pointer ← found db.active "settlement active pointer is missing"
  let g ← found (db.generations.get? m.generationId)
    "settlement projection generation is missing"
  require ((g.generationKind = .lineage || g.generationKind = .compact) &&
    g.baseGenerationId = some m.baseGenerationId && g.inputFingerprint = m.inputFingerprint)
    "settlement projection generation metadata conflicts"
  require (g.manifestChecksum = some m.manifestChecksum)
    "settlement projection manifest checksum conflicts"
  let promoted ← comparePromote db pointer g m.baseGenerationId clock.published
    "settlement active pointer changed before publication"
    "settlement projection generation is not ready"
  let key ← projectionPublishOnceKey ctx.sha256 m.parentJobId m.inputFingerprint
  promoted.recordOnce job key
    { stageRunId := some stage.stageRunId
      status := .running
      reason := "settlement projection published"
      conflict := "projection publication once event conflicts"
      payload := publicationPayload m.inputFingerprint m.generationId m.manifestChecksum
        m.baseGenerationId }
    clock.occurred

/-- The claim of a publishing job: it runs under the token and its lease has not run out. -/
def claimActive (job : JobRun) (claimId : String) (now : Timestamp) : Bool :=
  job.status = .running && job.claimToken = some claimId &&
    job.leaseExpiresAt.any fun expires => now < expires

def leaseLive (job : JobRun) (now : Timestamp) : Bool :=
  job.leaseExpiresAt.any fun expires => now < expires

/-- The arguments of `publish_settlement_rebuild`. -/
structure RebuildPublication where
  jobId : String
  claimId : String
  generationId : String
  baseGenerationId : String
  inputFingerprint : String
  manifestChecksum : String
deriving DecidableEq

def RebuildPublication.validate (p : RebuildPublication) : Except PublishError Unit := do
  let _ ← identity "job_id" p.jobId
  let _ ← identity "claim_id" p.claimId
  let _ ← identity "generation_id" p.generationId
  let _ ← identity "base_generation_id" p.baseGenerationId
  let _ ← digest "input_fingerprint" p.inputFingerprint
  let _ ← digest "manifest_checksum" p.manifestChecksum
  return ()

def publishSettlementRebuild (ctx : PublishContext) (clock : PublishClock) (db : Db)
    (p : RebuildPublication) : Except PublishError (Db × List (String × String)) := do
  p.validate
  let job ← found ((db.jobs.get? p.jobId).filter fun job => job.jobName = "settlement_rebuild")
    "settlement rebuild publication job is invalid"
  require (claimActive job p.claimId clock.claimCheck)
    "settlement rebuild publication claim is no longer active"
  let pointer ← found db.active "settlement active pointer is missing"
  let g ← found (db.generations.get? p.generationId) "settlement rebuild generation is missing"
  require (g.generationKind = .lineage && g.baseGenerationId = some p.baseGenerationId &&
    g.inputFingerprint = p.inputFingerprint && g.sourceJobId.all fun source => source = p.jobId)
    "settlement rebuild generation metadata conflicts"
  require (g.manifestChecksum = some p.manifestChecksum)
    "settlement rebuild manifest checksum conflicts"
  -- waiting for the row locks can outlive the lease
  require (leaseLive job clock.lockCheck)
    "settlement rebuild publication claim expired during lock wait"
  let promoted ← comparePromote db pointer g p.baseGenerationId clock.published
    "settlement active pointer changed before rebuild publish"
    "settlement rebuild generation is not ready"
  let key ← settlementRebuildPublishOnceKey ctx.sha256 p.jobId p.inputFingerprint
  let payload := publicationPayload p.inputFingerprint p.generationId p.manifestChecksum
    p.baseGenerationId
  let recorded ← promoted.recordOnce job key
    { stageRunId := none
      status := job.status
      reason := "settlement rebuild projection published"
      conflict := "settlement rebuild publication once event conflicts"
      payload }
    clock.occurred
  return (recorded, payload)

def compactionProtocol : String := "t342d-metadata-compaction-v1"

def compactionOperation : String := "metadata-compaction"

def maxBatchSize : Int := 400

def compactionCheckpointKeys : List String :=
  ["protocol", "operation", "phase", "base_generation_id", "expected_active_pointer", "cursor",
    "batch_size", "batch_count", "partition_count", "source_generation_count",
    "effective_checksum", "estimated_manifest_rows", "estimated_write_rows",
    "estimated_write_bytes", "estimated_wal_bytes", "estimated_disk_headroom_bytes"]

def strictInt (value : Option JsonValue) (label : String) (nonnegative : Bool) :
    Except PublishError Int :=
  match value.bind JsonValue.asInt? with
  | none => .error (.bootstrapError (label ++ " is invalid"))
  | some n => if nonnegative ∧ n < 0 then .error (.bootstrapError (label ++ " is negative"))
      else .ok n

def checkpointCounts : List String :=
  ["batch_count", "partition_count", "source_generation_count", "estimated_manifest_rows",
    "estimated_write_rows", "estimated_write_bytes", "estimated_wal_bytes",
    "estimated_disk_headroom_bytes"]

def textField (document : JsonValue) (name : String) : Option String :=
  (document.get? name).bind JsonValue.asString?

def checkCompactionCheckpoint (checkpoint : JsonValue) (compactionBase checksum : String) :
    Except PublishError Unit := do
  require (checkpoint.isObject &&
    compactionCheckpointKeys.all (fun key => (checkpoint.get? key).isSome) &&
    textField checkpoint "protocol" = some compactionProtocol &&
    textField checkpoint "operation" = some compactionOperation &&
    textField checkpoint "phase" = some "ready" &&
    (checkpoint.get? "cursor").all JsonValue.isNull &&
    textField checkpoint "base_generation_id" = some compactionBase &&
    textField checkpoint "expected_active_pointer" = some compactionBase &&
    textField checkpoint "effective_checksum" = some checksum)
    "settlement compaction checkpoint is invalid"
  let batchSize ← strictInt (checkpoint.get? "batch_size") "compaction batch size" false
  require (1 ≤ batchSize && batchSize ≤ maxBatchSize) "settlement compaction checkpoint is invalid"
  checkpointCounts.forM fun name => do
    let _ ← strictInt (checkpoint.get? name) ("compaction checkpoint " ++ name) true
    return ()

/-- The arguments of `publish_settlement_compaction`. -/
structure CompactionPublication where
  jobId : String
  claimId : String
  generationId : String
  inputFingerprint : String
  manifestChecksum : String
deriving DecidableEq

def CompactionPublication.validate (p : CompactionPublication) : Except PublishError Unit := do
  let _ ← identity "job_id" p.jobId
  let _ ← identity "generation_id" p.generationId
  let _ ← digest "input_fingerprint" p.inputFingerprint
  let _ ← digest "manifest_checksum" p.manifestChecksum
  require (p.claimId ≠ "" && PythonText.strip p.claimId = p.claimId)
    "settlement compaction publication claim is required"

/-- The compare-and-swap of a compaction, after its evidence was verified again.  The rows are
locked, so reading them again gives what was read before. -/
def verifyPromote (ctx : PublishContext) (clock : PublishClock) (db : Db) (job : JobRun)
    (pointer : Option String) (g : Generation) (compactionBase : String) :
    Except PublishError Db :=
  if alreadyPublished pointer g then .ok db
  else match ctx.reverify db g.generationId with
  | .error reason => .error (.runtimeError
      ("settlement compaction publication verification failed: " ++ reason))
  | .ok () => do
    require (leaseLive job clock.lockCheck)
      "settlement compaction publication claim expired during lock wait"
    require (g.compactionBaseGenerationId = some compactionBase && g.state = .ready &&
      g.publishedAt.isNone) "settlement compaction generation changed during verification"
    require (pointer = some compactionBase)
      "settlement active pointer changed before compaction publish"
    return db.promote g.generationId clock.published

def publishSettlementCompaction (ctx : PublishContext) (clock : PublishClock) (db : Db)
    (p : CompactionPublication) : Except PublishError (Db × List (String × String)) := do
  p.validate
  let job ← found ((db.jobs.get? p.jobId).filter fun job => job.jobName = "settlement_compaction")
    "settlement compaction publication job is invalid"
  require (claimActive job p.claimId clock.claimCheck)
    "settlement compaction publication claim is no longer active"
  let pointer ← found db.active "settlement active pointer is missing"
  let g ← found (db.generations.get? p.generationId)
    "settlement compaction generation is missing"
  require (g.generationKind = .compact && g.baseGenerationId.isNone && g.lineageDepth = 0 &&
    g.compactionBaseGenerationId.isSome && g.inputFingerprint = p.inputFingerprint &&
    g.manifestChecksum = some p.manifestChecksum)
    "settlement compaction generation metadata conflicts"
  let compactionBase ← found g.compactionBaseGenerationId
    "settlement compaction generation metadata conflicts"
  checkCompactionCheckpoint g.checkpointJson compactionBase p.manifestChecksum
  let promoted ← verifyPromote ctx clock db job pointer g compactionBase
  let key ← settlementCompactionPublishOnceKey ctx.sha256 p.jobId p.inputFingerprint
  let payload := [("generation_id", p.generationId), ("input_fingerprint", p.inputFingerprint),
    ("manifest_checksum", p.manifestChecksum), ("base_generation_id", compactionBase),
    ("compaction_protocol", compactionProtocol)]
  let recorded ← promoted.recordOnce job key
    { stageRunId := none
      status := job.status
      reason := "settlement compaction projection published"
      conflict := "settlement compaction publication once event conflicts"
      payload }
    clock.occurred
  return (recorded, payload)

end DyData.Projection
