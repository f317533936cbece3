import DyData.HeavyQueueStaleTokens

/-!
The runner of the daily stages: one transaction per stage, fenced by the lease of the job, and
a separate transaction that records a failure.  Business writes are the caller's; what is
modelled is the control plane, with the clock readings as arguments.
-/

namespace DyData.Stages

open Relational
open DyData.HeavyQueue

inductive StageStatus
  | pending | running | success | failed | cancelled | skipped
deriving DecidableEq

def StageStatus.text : StageStatus → String
  | .pending => "pending"
  | .running => "running"
  | .success => "success"
  | .failed => "failed"
  | .cancelled => "cancelled"
  | .skipped => "skipped"

def stageText : Stage → String
  | .collect => "collect"
  | .collectDimensions => "collect_dimensions"
  | .materialize => "materialize"
  | .settle => "settle"
  | .finalize => "finalize"

/-- `job_stage_runs`, with its unique constraint as the key. -/
structure JobStageRun where
  jobId : String
  stageName : Stage
  status : StageStatus
  checkpointJson : JsonValue := .obj []
  leaseEpoch : Option Int := none
  startedAt : Option Timestamp := none
  finishedAt : Option Timestamp := none
  committedAt : Option Timestamp := none

def JobStageRun.identity (stage : JobStageRun) : String × Stage := (stage.jobId, stage.stageName)

inductive StageError
  | valueError (message : String)
  | runtimeError (message : String)
  | typeError
deriving DecidableEq

structure Fence where
  leaseOwner : Option String
  leaseEpoch : Option Int
  attemptId : Option String
  componentInstanceId : Option String
deriving DecidableEq

def Fence.ofToken (token : ClaimToken) : Fence :=
  ⟨some token.leaseOwner, some token.leaseEpoch, some token.attemptId,
    some token.componentInstanceId⟩

/-- `_lease_matches` at the reading `now` of the database clock. -/
def leaseMatches (db : Db) (job : JobRun) (fence : Fence) (now : Timestamp) : Bool :=
  match fence.leaseOwner, fence.leaseEpoch, fence.attemptId with
  | none, none, none => true
  | some owner, some epoch, some attemptId =>
    job.status = .running && job.leaseOwner = some owner && job.epoch = epoch &&
      job.leaseExpiresAt.any (fun expires => now < expires) &&
      db.attempts.rows.any fun a => a.jobId = job.jobId && a.attemptId = attemptId &&
        a.leaseEpoch = epoch && a.unfinished && some a.componentInstanceId = fence.componentInstanceId
  | _, _, _ => false

def assertExecutionLease (db : Db) (job : JobRun) (fence : Fence) (now : Timestamp) :
    Except StageError Unit :=
  .ensure (leaseMatches db job fence now)
    (.runtimeError "daily execution lease is no longer valid")

structure Control where
  queue : World
  stages : Table JobStageRun.identity

namespace Control

def job? (c : Control) (jobId : String) : Option JobRun := c.queue.db.jobs.get? jobId

def stage? (c : Control) (jobId : String) (stage : Stage) : Option JobStageRun :=
  c.stages.get? (jobId, stage)

def succeeded (c : Control) (jobId : String) (stage : Stage) : Bool :=
  (c.stage? jobId stage).any fun row => row.status = .success

def updateJob (c : Control) (jobId : String) (f : JobRun → JobRun)
    (hf : ∀ job, (f job).jobId = job.jobId) : Control :=
  { c with queue := ⟨c.queue.db.updateJobs (fun job => job.jobId = jobId) f hf, c.queue.issued⟩ }

def putStage (c : Control) (row : JobStageRun) : Control := { c with stages := c.stages.put row }

end Control

/-- `{**(document or {})}`. -/
def mapping (document : JsonValue) : Except StageError (List (String × JsonValue)) :=
  match document with
  | .obj fields => .ok fields
  | other => if other.truthy then .error .typeError else .ok []

/-- `str(item)`; an item that is no text names no stage. -/
def itemText : JsonValue → String
  | .str text => text
  | _ => ""

def requiredStageNames (job : JobRun) : Except StageError (List String) := do
  let metadata ← mapping job.metadataJson
  match (JsonValue.obj metadata).get? "required_stages" with
  | some (.arr (item :: items)) => return (item :: items).map itemText
  | _ => return ["collect", "materialize", "settle"]

def nextStageIn (stage : Stage) (order : List Stage) : Option Stage :=
  order[order.idxOf stage + 1]?

def stageStatuses (stages : Table JobStageRun.identity) (jobId : String)
    (names : List String) : List (String × StageStatus) :=
  (stages.rows.filter fun row => row.jobId = jobId && names.contains (stageText row.stageName)).map
    fun row => (stageText row.stageName, row.status)

def rangeStatus (statuses : List (String × StageStatus)) (required : List String) : StageStatus :=
  let statusOf (name : String) := (statuses.find? fun entry => entry.1 = name).map Prod.snd
  if required.any fun name => statusOf name = some .failed then .failed
  else if required.all fun name => statusOf name = some .success then .success
  else .pending

def promoteRangeParentStage (stages : Table JobStageRun.identity)
    (parentJobId parentExecutionJobId : String) (required : List String)
    (checkpoint : List (String × JsonValue)) (now : Timestamp) :
    Except StageError (Table JobStageRun.identity) := do
  let parent := (stages.get? (parentJobId, .collectDimensions)).getD
    { jobId := parentJobId, stageName := .collectDimensions, status := .pending }
  let statuses := stageStatuses (stages.put parent) parentExecutionJobId required
  let status := rangeStatus statuses required
  let existing ← mapping parent.checkpointJson
  let closed := status = .success || status = .failed
  return stages.put
    { parent with
      status
      checkpointJson := .obj (JsonValue.updateFields (JsonValue.updateFields existing checkpoint)
        [("stage", .str "collect_dimensions"), ("status", .str status.text),
          ("required_stages", .arr (required.map .str)),
          ("stage_statuses", .obj (statuses.map fun entry => (entry.1, .str entry.2.text)))])
      startedAt := some (parent.startedAt.getD now)
      finishedAt := if closed then some now else none
      committedAt := if status = .success then some now else none }

def recordRangeParentStageFailure (stages : Table JobStageRun.identity) (parentJobId : String)
    (errorSummary : String) (now : Timestamp) : Except StageError (Table JobStageRun.identity) := do
  let parent := (stages.get? (parentJobId, .collectDimensions)).getD
    { jobId := parentJobId, stageName := .collectDimensions, status := .pending }
  let existing ← mapping parent.checkpointJson
  return stages.put
    { parent with
      status := .failed
      checkpointJson := .obj (JsonValue.updateFields existing
        [("stage", .str "collect_dimensions"), ("status", .str "failed"),
          ("error", .str errorSummary)])
      startedAt := some (parent.startedAt.getD now)
      finishedAt := some now
      committedAt := none }

/-- The range whose dimension stage mirrors the job: `job_kind == "parent_sync"` with a
parent. -/
def mirroredRange? (job : JobRun) : Option String :=
  if job.jobKind = some .parentSync then job.parentJobId.filter fun parent => parent ≠ "" else none

/-- The readings of a committing stage: the start of the stage, the lease check and the end. -/
structure CommitClock where
  now : Timestamp
  leaseNow : Timestamp
  finishTime : Timestamp
deriving DecidableEq

/-- What a handler left to the runner: its checkpoint, and whether its control mutation goes
through. -/
structure HandlerOutput where
  checkpoint : List (String × JsonValue)
  mutation : Except StageError Unit

def successRow (jobId : String) (stage : Stage) (job : JobRun) (clock : CommitClock)
    (existing : Option JobStageRun) (checkpoint : JsonValue) : JobStageRun :=
  { jobId
    stageName := stage
    status := .success
    checkpointJson := checkpoint
    leaseEpoch := some job.epoch
    startedAt := some ((existing.bind JobStageRun.startedAt).getD clock.now)
    finishedAt := some clock.finishTime
    committedAt := some clock.finishTime }

/-- `{**metadata, "stage_checkpoints": {**(metadata.get("stage_checkpoints") or {}), …}}`. -/
def recordCheckpoint (metadata : List (String × JsonValue)) (stage : Stage)
    (checkpoint : JsonValue) : Except StageError (List (String × JsonValue)) := do
  let recorded ← mapping (((JsonValue.obj metadata).get? "stage_checkpoints").getD .null)
  return JsonValue.setField metadata "stage_checkpoints"
    (.obj (JsonValue.setField recorded (stageText stage) checkpoint))

/-- The checkpoint window of `run_daily_stages`, after the handler returned. -/
def commitStage (c : Control) (jobId : String) (order : List Stage) (stage : Stage)
    (fence : Fence) (output : HandlerOutput) (clock : CommitClock) :
    Except StageError Control := do
  let job ← Except.ofOption (c.job? jobId) (.valueError ("Unknown daily job: " ++ jobId))
  assertExecutionLease c.queue.db job fence clock.leaseNow
  let existing := c.stage? jobId stage
  output.mutation
  let before ← mapping ((existing.map JobStageRun.checkpointJson).getD (.obj []))
  let checkpoint := JsonValue.updateFields (JsonValue.updateFields before output.checkpoint)
    [("stage", .str (stageText stage)), ("status", .str "success")]
  let metadata ← mapping job.metadataJson
  let metadata ← recordCheckpoint metadata stage (.obj checkpoint)
  let written := c.putStage (successRow jobId stage job clock existing (.obj checkpoint))
  let noted := written.updateJob jobId (fun job =>
    { job with currentStage := nextStageIn stage order, metadataJson := .obj metadata }) fun _ => rfl
  match mirroredRange? job with
  | none => return noted
  | some parent =>
    let required ← requiredStageNames { job with metadataJson := .obj metadata }
    let stages ← promoteRangeParentStage noted.stages parent jobId required checkpoint
      clock.finishTime
    return { noted with stages }

structure ErrorText where
  text : String
  className : String
deriving DecidableEq

def ErrorText.summary (error : ErrorText) : String :=
  if error.text = "" then error.className else error.text

def failedRow (jobId : String) (stage : Stage) (job : JobRun) (now : Timestamp)
    (existing : Option JobStageRun) (error : ErrorText) : Except StageError JobStageRun :=
  match existing with
  | none => .ok
      { jobId, stageName := stage, status := .failed, leaseEpoch := some job.epoch
        startedAt := some now, finishedAt := some now }
  | some row => do
    let before ← mapping row.checkpointJson
    return { row with
      status := .failed
      leaseEpoch := some job.epoch
      finishedAt := some now
      checkpointJson := .obj (JsonValue.updateFields before
        [("status", .str "failed"), ("error", .str error.text)]) }

/-- `_record_stage_failure`; nothing is recorded without the lease, nor over a success. -/
def recordStageFailure (c : Control) (jobId : String) (stage : Stage) (fence : Fence)
    (error : ErrorText) (leaseNow now : Timestamp) : Except StageError (Option Control) := do
  let job ← Except.ofOption (c.job? jobId) (.valueError ("Unknown daily job: " ++ jobId))
  if !leaseMatches c.queue.db job fence leaseNow then return none
  else if c.succeeded jobId stage then return none
  else
    let row ← failedRow jobId stage job now (c.stage? jobId stage) error
    let noted := (c.putStage row).updateJob jobId
      (fun job => { job with currentStage := some stage }) fun _ => rfl
    match mirroredRange? job with
    | none => return some noted
    | some parent =>
      let stages ← recordRangeParentStageFailure noted.stages parent error.summary now
      return some { noted with stages }

/-- Where an executor of `run_daily_stages` stands with the stage at the head of those
remaining. -/
inductive Phase
  | reading
  | observed
  | entered
  | handling
  | returned (output : HandlerOutput)
  | failing (error : ErrorText)
  | stopped

/-- One call of `run_daily_stages` under the lease of a token. -/
structure Executor where
  token : ClaimToken
  passed : List Stage
  remaining : List Stage
  phase : Phase

inductive RecordKind
  | called | succeeded | failed
deriving DecidableEq

structure Record where
  kind : RecordKind
  stage : Stage
  epoch : Int
deriving DecidableEq

structure System where
  control : Control
  executors : Int → Option Executor
  log : List Record

inductive Move
  | queue (op : Operation)
  | openStage (row : JobStageRun)
  | page (stage : Stage) (document : JsonValue)
  | start (token : ClaimToken)
  | read (epoch : Int)
  | enter (epoch : Int) (now : Timestamp)
  | refuse (epoch : Int) (error : ErrorText)
  | call (epoch : Int)
  | returnFrom (epoch : Int) (output : HandlerOutput)
  | raise (epoch : Int) (error : ErrorText)
  | commit (epoch : Int) (clock : CommitClock) (afterwards : Option ErrorText)
  | report (epoch : Int) (leaseNow now : Timestamp)
  | crash (epoch : Int)

namespace System

variable (planner : PlannerIdentity) (jobId : String) (order : List Stage)

def setExecutor (s : System) (epoch : Int) (e : Option Executor) : System :=
  { s with executors := Function.update s.executors epoch e }

def lostLease : ErrorText := ⟨"daily execution lease is no longer valid", "RuntimeError"⟩

/-- A stage row that appears before the runner commits it: the claim opens one, and so does
the first page of a paged collection. -/
def openStage (s : System) (row : JobStageRun) : System :=
  if row.status = .success || (s.control.stages.get? row.identity).isSome then s
  else { s with control := s.control.putStage row }

def page (s : System) (stage : Stage) (document : JsonValue) : System :=
  match s.control.stage? jobId stage with
  | none => s
  | some row => { s with control := s.control.putStage { row with checkpointJson := document } }

/-- A call of `run_daily_stages` of the epoch is under way. -/
def busy (s : System) (epoch : Int) : Bool :=
  match s.executors epoch with
  | some ⟨_, _, _, .stopped⟩ => false
  | some _ => true
  | none => false

/-- `run_daily_stages` is called by the holder of an issued token, once at a time. -/
def start (s : System) (token : ClaimToken) : System :=
  if s.busy token.leaseEpoch || token.jobId ≠ jobId || !s.control.queue.issued.any fun record => record.token = token
  then s
  else s.setExecutor token.leaseEpoch (some ⟨token, [], order, .reading⟩)

/-- `_read_stage_state`: a successful stage is skipped. -/
def read (s : System) (epoch : Int) : System :=
  match s.executors epoch with
  | some ⟨token, passed, stage :: rest, .reading⟩ =>
    if (s.control.job? jobId).isNone then
      s.setExecutor epoch (some ⟨token, passed, stage :: rest, .stopped⟩)
    else if s.control.succeeded jobId stage then
      s.setExecutor epoch (some ⟨token, passed ++ [stage], rest, .reading⟩)
    else s.setExecutor epoch (some ⟨token, passed, stage :: rest, .observed⟩)
  | some ⟨token, passed, [], .reading⟩ => s.setExecutor epoch (some ⟨token, passed, [], .stopped⟩)
  | _ => s

def enter (s : System) (epoch : Int) (now : Timestamp) : System :=
  match s.executors epoch with
  | some ⟨token, passed, remaining, .observed⟩ =>
    match s.control.job? jobId with
    | none => s.setExecutor epoch
        (some ⟨token, passed, remaining, .failing ⟨"Unknown daily job: " ++ jobId, "ValueError"⟩⟩)
    | some job =>
      if leaseMatches s.control.queue.db job (.ofToken token) now then
        s.setExecutor epoch (some ⟨token, passed, remaining, .entered⟩)
      else s.setExecutor epoch (some ⟨token, passed, remaining, .failing lostLease⟩)
  | _ => s

/-- `require_resource_admission` raises. -/
def refuse (s : System) (epoch : Int) (error : ErrorText) : System :=
  match s.executors epoch with
  | some ⟨token, passed, remaining, .entered⟩ =>
    s.setExecutor epoch (some ⟨token, passed, remaining, .failing error⟩)
  | _ => s

def call (s : System) (epoch : Int) : System :=
  match s.executors epoch with
  | some ⟨token, passed, stage :: rest, .entered⟩ =>
    { s.setExecutor epoch (some ⟨token, passed, stage :: rest, .handling⟩) with
      log := s.log ++ [⟨.called, stage, epoch⟩] }
  | _ => s

def returnFrom (s : System) (epoch : Int) (output : HandlerOutput) : System :=
  match s.executors epoch with
  | some ⟨token, passed, remaining, .handling⟩ =>
    s.setExecutor epoch (some ⟨token, passed, remaining, .returned output⟩)
  | _ => s

def raise (s : System) (epoch : Int) (error : ErrorText) : System :=
  match s.executors epoch with
  | some ⟨token, passed, remaining, .handling⟩ =>
    s.setExecutor epoch (some ⟨token, passed, remaining, .failing error⟩)
  | _ => s

def errorText : StageError → ErrorText
  | .valueError message => ⟨message, "ValueError"⟩
  | .runtimeError message => ⟨message, "RuntimeError"⟩
  | .typeError => ⟨"", "TypeError"⟩

def commit (s : System) (epoch : Int) (clock : CommitClock) (afterwards : Option ErrorText) :
    System :=
  match s.executors epoch with
  | some ⟨token, passed, stage :: rest, .returned output⟩ =>
    match commitStage s.control jobId order stage (.ofToken token) output clock with
    | .error error =>
      s.setExecutor epoch (some ⟨token, passed, stage :: rest, .failing (errorText error)⟩)
    | .ok control =>
      let next : Executor := match afterwards with
        | none => ⟨token, passed ++ [stage], rest, .reading⟩
        | some error => ⟨token, passed, stage :: rest, .failing error⟩
      { s.setExecutor epoch (some next) with
        control
        log := s.log ++ [⟨.succeeded, stage, epoch⟩] }
  | _ => s

def report (s : System) (epoch : Int) (leaseNow now : Timestamp) : System :=
  match s.executors epoch with
  | some ⟨token, passed, stage :: rest, .failing error⟩ =>
    let stopped := s.setExecutor epoch (some ⟨token, passed, stage :: rest, .stopped⟩)
    match recordStageFailure s.control jobId stage (.ofToken token) error leaseNow now with
    | .ok (some control) =>
      { stopped with control, log := s.log ++ [⟨.failed, stage, epoch⟩] }
    | _ => stopped
  | _ => s

def apply (s : System) : Move → System
  | .queue op => { s with control := { s.control with queue := s.control.queue.apply planner op } }
  | .openStage row => s.openStage row
  | .page stage document => s.page jobId stage document
  | .start token => s.start jobId order token
  | .read epoch => s.read jobId epoch
  | .enter epoch now => s.enter jobId epoch now
  | .refuse epoch error => s.refuse epoch error
  | .call epoch => s.call epoch
  | .returnFrom epoch output => s.returnFrom epoch output
  | .raise epoch error => s.raise epoch error
  | .commit epoch clock afterwards => s.commit jobId order epoch clock afterwards
  | .report epoch leaseNow now => s.report jobId epoch leaseNow now
  | .crash epoch => s.setExecutor epoch none

def run (s : System) (moves : List Move) : System :=
  moves.foldl (fun s move => s.apply planner jobId order move) s

end System

end DyData.Stages
