import DyData.RebuildQueue
import DyData.ProjectionHistory

/-!
A claimed rebuild at work, among the other processes.  Every commit of a claim holder checks
the claim in its own transaction; `Data` stands for the tables a rebuild writes besides the
queue and the projection, and any function on it may be what the rebuild computes.
-/

namespace DyData.Rebuild

open Relational
open DyData.HeavyQueue
open DyData.HeavySlot

structure World (Data : Type) where
  slot : Slot
  data : Data

abbrev DataStep (Data Result : Type) := Data → Except RebuildError (Data × Result)

structure LineageRefreshPlan where
  jobId : String
  baseGenerationId : String
  affectedMonths : List String
  inputFingerprint : String

def planGenerationId (jobId fingerprint : String) : String :=
  "settlement-admin-rebuild:" ++ jobId ++ ":" ++ String.ofList (fingerprint.toList.take 16)

def LineageRefreshPlan.generationId (plan : LineageRefreshPlan) : String :=
  planGenerationId plan.jobId plan.inputFingerprint

structure ManifestTotals where
  checksum : String
  manifestCount : Nat
  rowCount : Nat

def LineageRefreshPlan.publication (plan : LineageRefreshPlan) (claimId checksum : String) :
    Projection.RebuildPublication :=
  { jobId := plan.jobId
    claimId
    generationId := plan.generationId
    baseGenerationId := plan.baseGenerationId
    inputFingerprint := plan.inputFingerprint
    manifestChecksum := checksum }

def LineageRefreshPlan.marker (plan : LineageRefreshPlan) (totals : ManifestTotals) : JsonValue :=
  .obj [("status", .str "published"), ("generation_id", .str plan.generationId),
    ("base_generation_id", .str plan.baseGenerationId),
    ("input_fingerprint", .str plan.inputFingerprint),
    ("manifest_checksum", .str totals.checksum),
    ("affected_months", .arr (plan.affectedMonths.map .str)),
    ("manifest_count", .num totals.manifestCount), ("row_count", .num totals.rowCount)]

def RefreshOwned (g : Projection.Generation) : Prop :=
  ∀ jobId, g.generationId = planGenerationId jobId g.inputFingerprint →
    g.sourceJobId = some jobId

abbrev BuiltGeneration := { g : Projection.Generation // RefreshOwned g }

def buildAll (db : Projection.Db) (generations : List BuiltGeneration) : Projection.Db :=
  generations.foldl (fun db g => db.build g.val) db

namespace World

variable {Data : Type}

def updateMetadata (w : World Data) (jobId : String) (metadata : List (String × JsonValue)) :
    World Data :=
  let rewrite : JobRun → JobRun := fun job => { job with metadataJson := .obj metadata }
  { w with slot := w.slot.updateJob jobId rewrite fun _ => rfl }

/-- A data commit behind `_fence_settlement_rebuild_commit`.  The step also returns what it
writes into the metadata of the job. -/
def fencedCommit (w : World Data) (jobId claimId : String) (now : Timestamp)
    (step : DataStep Data (List (String × JsonValue))) : Except RebuildError (World Data) := do
  let (data, entries) ← step w.data
  let job ← assertActiveSettlementRebuildClaim w.slot jobId claimId now
  if entries.isEmpty then return { w with data }
  else
    let metadata ← metadataDict job
    return { w with data }.updateMetadata jobId (JsonValue.updateFields metadata entries)

/-- A commit of the sparse builder, of its ready step or of
`_supersede_obsolete_settlement_generations`. -/
def fencedBuild (w : World Data) (jobId claimId : String) (now : Timestamp)
    (generations : List BuiltGeneration) (step : DataStep Data Unit) :
    Except RebuildError (World Data) := do
  let (data, _) ← step w.data
  let _ ← assertActiveSettlementRebuildClaim w.slot jobId claimId now
  return { slot := { w.slot with projection := buildAll w.slot.projection generations }, data }

/-- The last transaction of `refresh_active_settlement_lineage`: the claim and the base are
checked, the sources captured again, the generation published and the statements generated;
`bill` returns the report that goes into the metadata. -/
def publishLineage (ctx : Projection.PublishContext) (w : World Data) (plan : LineageRefreshPlan)
    (claimId : String) (totals : ManifestTotals) (guardedAt : Timestamp)
    (clock : Projection.PublishClock) (capture : DataStep Data Unit)
    (bill : DataStep Data JsonValue) : Except RebuildError (World Data) := do
  let _ ← assertActiveSettlementRebuildClaim w.slot plan.jobId claimId guardedAt
  Except.ensure (w.slot.projection.active.bind id = some plan.baseGenerationId)
    (.runtimeError "settlement active pointer changed before billing capture")
  let (captured, _) ← capture w.data
  let (projection, _) ← (Projection.publishSettlementRebuild ctx clock w.slot.projection
    (plan.publication claimId totals.checksum)).mapError RebuildError.publish
  let (data, billing) ← bill captured
  let job ← Except.ofOption (projection.jobs.get? plan.jobId)
    (.runtimeError "settlement rebuild job disappeared before metadata update")
  let metadata ← metadataDict job
  let published : World Data := { slot := { w.slot with projection }, data }
  return published.updateMetadata plan.jobId (JsonValue.updateFields metadata
    [("billing_generation", billing), ("settlement_projection", plan.marker totals)])

def noopMarker (s : Slot) (jobId : String) : JsonValue :=
  match s.projection.active.bind id with
  | none => .obj [("status", .str "legacy_root")]
  | some activeId =>
    match (s.projection.generations.get? activeId).filter fun g =>
        g.state = .published && g.sourceJobId = some jobId with
    | some g => .obj [("status", .str "published"), ("generation_id", .str g.generationId),
        ("manifest_checksum", optionText g.manifestChecksum)]
    | none => .obj [("status", .str "no_affected_months"), ("active_generation_id", .str activeId)]

def recordSettlementProjectionNoop (w : World Data) (jobId claimId : String) (now : Timestamp) :
    Except RebuildError (World Data) := do
  let job ← assertActiveSettlementRebuildClaim w.slot jobId claimId now
  let metadata ← metadataDict job
  return w.updateMetadata jobId (JsonValue.setField metadata "settlement_projection"
    (noopMarker w.slot jobId))

end World

inductive Operation (Data : Type)
  | claim (jobId : String) (input : ClaimInput)
  | claimLatest (input : ClaimInput)
  | heartbeat (jobId claimId stage : String) (progressCurrent : Int)
      (progressTotal : Option Int) (now : Timestamp) (leaseDuration : Int)
  | commit (jobId claimId : String) (now : Timestamp)
      (step : DataStep Data (List (String × JsonValue)))
  | build (jobId claimId : String) (now : Timestamp) (generations : List BuiltGeneration)
      (step : DataStep Data Unit)
  | publish (plan : LineageRefreshPlan) (claimId : String) (totals : ManifestTotals)
      (guardedAt : Timestamp) (clock : Projection.PublishClock) (capture : DataStep Data Unit)
      (bill : DataStep Data JsonValue)
  | noop (jobId claimId : String) (now : Timestamp)
  | finish (jobId claimId : String) (stats : SettlementStats) (now : Timestamp)
  | fail (jobId claimId error : String) (requiresNewJob : Bool) (now : Timestamp)
  | recover (now : Timestamp) (staleAfter maxAttempts : Int) (snapshot : Slot)
  | release (now : Timestamp)
  | enqueue (job : JobRun)
  | otherJob (job : JobRun)
  | otherPublication (p : Projection.Publication) (clock : Projection.PublishClock)
  | otherBuild (g : BuiltGeneration)
  | discard (generationId : String)
  | event (e : JobEvent)
  | otherData (write : Data → Data)

namespace Operation

variable {Data : Type}

def token? : Operation Data → Option (String × String)
  | heartbeat jobId claimId _ _ _ _ _ => some (jobId, claimId)
  | commit jobId claimId _ _ => some (jobId, claimId)
  | build jobId claimId _ _ _ => some (jobId, claimId)
  | publish plan claimId _ _ _ _ _ => some (plan.jobId, claimId)
  | noop jobId claimId _ => some (jobId, claimId)
  | finish jobId claimId _ _ => some (jobId, claimId)
  | fail jobId claimId _ _ _ => some (jobId, claimId)
  | _ => none

def readings : Operation Data → List Timestamp
  | heartbeat _ _ _ _ _ now _ => [now]
  | commit _ _ now _ => [now]
  | build _ _ now _ _ => [now]
  | publish _ _ _ guardedAt clock _ _ => [guardedAt, clock.claimCheck, clock.lockCheck]
  | noop _ _ now => [now]
  | finish _ _ _ now => [now]
  | fail _ _ _ _ now => [now]
  | _ => []

end Operation

namespace World

variable {Data : Type}

def orUnchanged (w : World Data) (result : Except RebuildError (World Data)) : World Data :=
  match result with
  | .ok w' => w'
  | .error _ => w

def onSlot (w : World Data) (result : Except RebuildError (Option Slot)) : World Data :=
  match result with
  | .ok (some slot) => { w with slot }
  | .ok none => w
  | .error _ => w

def onProjection (w : World Data) (ctx : Projection.PublishContext) (a : Projection.Action) :
    World Data :=
  { w with slot := { w.slot with projection := w.slot.projection.apply ctx a } }

def enqueue (w : World Data) (job : JobRun) : World Data :=
  match w.slot.jobs.insert? job with
  | some jobs => { w with slot := { w.slot with projection := { w.slot.projection with jobs } } }
  | none => w

def otherJob (w : World Data) (job : JobRun) : World Data :=
  if (w.slot.jobs.get? job.jobId).any fun old => old.jobName = settlementRebuildJobName then w
  else
    let projection := { w.slot.projection with jobs := w.slot.jobs.put job }
    { w with slot := { w.slot with projection } }

def apply (ctx : Projection.PublishContext) (w : World Data) : Operation Data → World Data
  | .claim jobId input => w.onSlot (claimSettlementRebuildJob w.slot jobId input)
  | .claimLatest input =>
    w.onSlot ((claimLatestSettlementRebuildJob w.slot input).map fun result =>
      result.map Prod.snd)
  | .heartbeat jobId claimId stage progressCurrent progressTotal now leaseDuration =>
    w.onSlot (heartbeatSettlementRebuildJob w.slot jobId claimId stage progressCurrent
      progressTotal now leaseDuration)
  | .commit jobId claimId now step => w.orUnchanged (w.fencedCommit jobId claimId now step)
  | .build jobId claimId now generations step =>
    w.orUnchanged (w.fencedBuild jobId claimId now generations step)
  | .publish plan claimId totals guardedAt clock capture bill =>
    w.orUnchanged (w.publishLineage ctx plan claimId totals guardedAt clock capture bill)
  | .noop jobId claimId now => w.orUnchanged (w.recordSettlementProjectionNoop jobId claimId now)
  | .finish jobId claimId stats now =>
    w.onSlot ((finishClaimedSettlementRebuild w.slot jobId claimId stats now).map some)
  | .fail jobId claimId error requiresNewJob now =>
    w.onSlot ((failClaimedSettlementRebuild ctx.sha256 w.slot jobId claimId error
      requiresNewJob now).map fun result => result.map Prod.snd)
  | .recover now staleAfter maxAttempts snapshot =>
    w.onSlot ((recoverStaleSettlementRebuilds ctx.sha256 now staleAfter maxAttempts snapshot
      w.slot).map some)
  | .release now => { w with slot := releaseDueSettlementRetries w.slot now }
  | .enqueue job => w.enqueue job
  | .otherJob job => w.otherJob job
  | .otherPublication p clock => w.onProjection ctx (.publish p clock)
  | .otherBuild g => w.onProjection ctx (.build g.val)
  | .discard generationId => w.onProjection ctx (.discard generationId)
  | .event e => w.onProjection ctx (.addEvent e)
  | .otherData write => { w with data := write w.data }

def run (ctx : Projection.PublishContext) (w : World Data) (operations : List (Operation Data)) :
    World Data :=
  operations.foldl (apply ctx) w

end World

end DyData.Rebuild
