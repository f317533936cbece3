import DyData.ExceptBind
import DyData.KeysetCursor
import DyData.PythonText
import DyData.RelationalTable

/-!
The queue of the clue materialization.  Every captured change writes an impact and a work item in
the transaction of its writer; a cycle freezes an upper bound on the impacts, and workers claim the
items below it in batches, above a cursor that moves over completed items.
-/

namespace DyData.Materialization

open Relational
open Except (ensure ofOption)

abbrev Timestamp := Int

/-- `job_impacts`, without the values and the closure of the change. -/
structure JobImpact where
  id : Nat
  impactKey : String
  entityType : String
  entityKey : String
deriving DecidableEq

inductive WorkState
  | pending | processing | completed
deriving DecidableEq

/-- `clue_materialization_work_items`. -/
structure WorkItem where
  workItemId : Nat
  scope : String
  impactId : Nat
  entityType : String
  entityKey : String
  state : WorkState := .pending
  leaseOwner : Option String := none
  leasedAt : Option Timestamp := none
  leaseExpiresAt : Option Timestamp := none
  rawPageComplete : Bool := false
  completedAt : Option Timestamp := none
deriving DecidableEq

/-- `job_impact_watermarks`. -/
structure Watermark where
  scope : String
  cycleId : String
  frozenUpperBoundId : Nat
  lastWorkItemId : Nat
deriving DecidableEq

/-- A row with the open transaction that wrote it; the others see it once that has committed. -/
structure Stored (ρ : Type) where
  row : ρ
  writer : Option String := none
deriving DecidableEq

structure Db where
  impacts : Table (fun v : Stored JobImpact => v.row.id) := .empty
  workItems : Table (fun v : Stored WorkItem => v.row.workItemId) := .empty
  watermarks : Table Watermark.scope := .empty
  /-- The identity sequences. -/
  nextImpactId : Nat := 1
  nextWorkItemId : Nat := 1

inductive QueueError
  | valueError (message : String)
  | runtimeError (message : String)
  | integrityError (constraint : String)
deriving DecidableEq

def Db.visibleImpacts (db : Db) : List JobImpact :=
  (db.impacts.rows.filter fun v => v.writer.isNone).map Stored.row

def Db.visibleItems (db : Db) : List WorkItem :=
  (db.workItems.rows.filter fun v => v.writer.isNone).map Stored.row

/-- `UPDATE clue_materialization_work_items`. -/
def Db.updateItems (db : Db) (p : WorkItem → Bool) (f : WorkItem → WorkItem)
    (hf : ∀ i, (f i).workItemId = i.workItemId) : Db :=
  { db with
    workItems := db.workItems.update (fun v => v.writer.isNone && p v.row)
      (fun v => { v with row := f v.row }) fun v => hf v.row }

/-! ### Writers -/

/-- `_capture_job_impact`, in an open transaction, of a change with the digest `impactKey`.  A
change that another open transaction captures waits for that one. -/
def Db.captureJobImpact (db : Db) (writer impactKey entityType entityKey : String) :
    Except QueueError Db :=
  if db.impacts.rows.any fun v => v.row.impactKey = impactKey &&
      (v.writer.isNone || v.writer = some writer) then .ok db
  else do
    ensure (!db.impacts.rows.any fun v => v.row.impactKey = impactKey)
      (.integrityError "uk_job_impacts_impact_key")
    let impacts ← ofOption (db.impacts.insert?
      ⟨{ id := db.nextImpactId, impactKey, entityType, entityKey }, some writer⟩)
      (.integrityError "job_impacts_pkey")
    let workItems ← ofOption (db.workItems.insert? ⟨{
      workItemId := db.nextWorkItemId
      scope := "clue_materialization"
      impactId := db.nextImpactId
      entityType
      entityKey }, some writer⟩) (.integrityError "clue_materialization_work_items_pkey")
    return { db with
      impacts
      workItems
      nextImpactId := db.nextImpactId + 1
      nextWorkItemId := db.nextWorkItemId + 1 }

def Db.commit (db : Db) (writer : String) : Db :=
  { db with
    impacts := db.impacts.update (fun v => v.writer = some writer)
      (fun v => { v with writer := none }) fun _ => rfl
    workItems := db.workItems.update (fun v => v.writer = some writer)
      (fun v => { v with writer := none }) fun _ => rfl }

def Db.rollback (db : Db) (writer : String) : Db :=
  { db with
    impacts := db.impacts.delete fun v => v.writer = some writer
    workItems := db.workItems.delete fun v => v.writer = some writer }

/-! ### Cycles -/

def Watermark.covers (c : Watermark) (i : WorkItem) : Bool :=
  i.scope = c.scope && i.impactId ≤ c.frozenUpperBoundId

def Db.unfinishedItems (db : Db) (c : Watermark) : List WorkItem :=
  db.visibleItems.filter fun i => c.covers i && i.state ≠ .completed

def Db.completedItems (db : Db) (c : Watermark) : List WorkItem :=
  db.visibleItems.filter fun i => c.covers i && i.state = .completed

def Db.missingImpacts (db : Db) (scope : String) : List JobImpact :=
  db.visibleImpacts.filter fun m =>
    !db.visibleItems.any fun i => i.scope = scope && i.impactId = m.id

def JobImpact.workItem (scope : String) (workItemId : Nat) (m : JobImpact) : Stored WorkItem where
  row := {
    workItemId
    scope
    impactId := m.id
    entityType := m.entityType
    entityKey := m.entityKey }

/-- A new cycle: the bound is frozen, the cursor is reset and missing items are added. -/
def Db.freeze (db : Db) (scope cycleId : String) : Except QueueError Db := do
  let upperBound := (db.visibleImpacts.map JobImpact.id).max?.getD 0
  let missing := db.missingImpacts scope
  let workItems ← ofOption (db.workItems.append?
    (missing.mapIdx fun n => JobImpact.workItem scope (db.nextWorkItemId + n)))
    (.integrityError "clue_materialization_work_items_pkey")
  return { db with
    workItems
    watermarks := db.watermarks.put {
      scope
      cycleId
      frozenUpperBoundId := upperBound
      lastWorkItemId := 0 }
    nextWorkItemId := db.nextWorkItemId + missing.length }

/-- `begin_clue_materialization_cycle`; an unfinished cycle is resumed at its bound. -/
def Db.beginClueMaterializationCycle (db : Db) (scope cycleId : String) : Except QueueError Db :=
  match db.watermarks.get? scope with
  | some c => if (db.unfinishedItems c).isEmpty then db.freeze scope cycleId else .ok db
  | none => db.freeze scope cycleId

/-! ### Claims -/

inductive Phase
  | all | raw | center
deriving DecidableEq

/-- `phase_ready`. -/
def Phase.accepts (phase : Phase) (i : WorkItem) : Bool :=
  match phase with
  | .all => true
  | .raw => !i.rawPageComplete
  | .center => i.rawPageComplete

def WorkItem.isExpired (i : WorkItem) (clock : Timestamp) (attemptFinished : String → Bool) :
    Bool :=
  i.state = .processing &&
    (i.leaseExpiresAt.all (fun time => time ≤ clock) || i.leaseOwner.any attemptFinished)

/-- The `WHERE` of a claim. -/
def Watermark.offers (c : Watermark) (clock : Timestamp) (attemptFinished : String → Bool)
    (phase : Phase) (i : WorkItem) : Bool :=
  c.covers i && phase.accepts i &&
    ((c.lastWorkItemId < i.workItemId && i.state = .pending) || i.isExpired clock attemptFinished)

def Db.batch (db : Db) (c : Watermark) (clock : Timestamp) (attemptFinished : String → Bool)
    (phase : Phase) (limit : Nat) : List WorkItem :=
  ((db.visibleItems.filter (c.offers clock attemptFinished phase)).insertionSort
    fun i j => i.workItemId ≤ j.workItemId).take (max 1 limit)

/-- `_require_materialization_lease_token`. -/
def requireLeaseToken (token : String) : Except QueueError String := do
  ensure (PythonText.strip token ≠ "")
    (.valueError "lease_token is required and must be non-empty")
  return PythonText.strip token

structure ClaimRequest where
  scope : String := "clue_materialization"
  cycleId : String
  limit : Nat := 100
  leaseToken : String
  leaseSeconds : Int := 300
  phase : Phase := .all
  clock : Timestamp
  attemptFinished : String → Bool := fun _ => false

def WorkItem.lease (token : String) (clock : Timestamp) (leaseSeconds : Int) (i : WorkItem) :
    WorkItem :=
  { i with
    state := .processing
    leaseOwner := some token
    leasedAt := some clock
    leaseExpiresAt := some (clock + max 1 leaseSeconds) }

def Db.ensureCycle (db : Db) (scope cycleId : String) : Except QueueError Db :=
  if (db.watermarks.get? scope).isSome then .ok db
  else db.beginClueMaterializationCycle scope cycleId

def Db.claimClueMaterializationBatch (db : Db) (r : ClaimRequest) :
    Except QueueError (Db × List WorkItem) := do
  let token ← requireLeaseToken r.leaseToken
  let db ← db.ensureCycle r.scope r.cycleId
  let c ← ofOption (db.watermarks.get? r.scope) (.runtimeError "checkpoint")
  let batch := db.batch c r.clock r.attemptFinished r.phase r.limit
  let ids := batch.map WorkItem.workItemId
  return (db.updateItems (fun i => ids.contains i.workItemId)
    (WorkItem.lease token r.clock r.leaseSeconds) fun _ => rfl, batch)

/-! ### Working on a batch -/

def WorkItem.isLeasedBy (i : WorkItem) (token : String) (clock : Timestamp) : Bool :=
  i.state = .processing && i.leaseOwner = some token && i.leaseExpiresAt.any fun time =>
    clock < time

def WorkItem.complete (completedAt : Timestamp) (i : WorkItem) : WorkItem :=
  { i with
    state := .completed
    completedAt := some completedAt
    leaseOwner := none
    leasedAt := none
    leaseExpiresAt := none }

def Db.advanced (db : Db) (c : Watermark) : Watermark :=
  { c with
    lastWorkItemId := KeysetCursor.advance c.lastWorkItemId
      ((db.unfinishedItems c).map WorkItem.workItemId)
      ((db.completedItems c).map WorkItem.workItemId) }

def Db.advanceMaterializationCursor (db : Db) : Db :=
  { db with watermarks := db.watermarks.update (fun _ => true) db.advanced fun _ => rfl }

def Db.completeClueMaterializationBatch (db : Db) (ids : List Nat) (leaseToken : String)
    (clock : Timestamp) : Except QueueError Db := do
  let token ← requireLeaseToken leaseToken
  if ids.isEmpty then return db
  else return (db.updateItems (fun i => ids.contains i.workItemId && i.isLeasedBy token clock)
    (WorkItem.complete clock) fun _ => rfl).advanceMaterializationCursor

def WorkItem.renew (clock : Timestamp) (leaseSeconds : Int) (i : WorkItem) : WorkItem :=
  { i with leasedAt := some clock, leaseExpiresAt := some (clock + max 1 leaseSeconds) }

def Db.renewClueMaterializationBatch (db : Db) (ids : List Nat) (leaseToken : String)
    (clock : Timestamp) (leaseSeconds : Int) : Except QueueError Db := do
  let token ← requireLeaseToken leaseToken
  return db.updateItems (fun i => ids.contains i.workItemId && i.isLeasedBy token clock)
    (WorkItem.renew clock leaseSeconds) fun _ => rfl

def WorkItem.release (i : WorkItem) : WorkItem :=
  { i with state := .pending, leaseOwner := none, leasedAt := none, leaseExpiresAt := none }

def Db.retryClueMaterializationBatch (db : Db) (ids : List Nat) (leaseToken : String) :
    Except QueueError Db := do
  let token ← requireLeaseToken leaseToken
  return db.updateItems (fun i => ids.contains i.workItemId && i.state = .processing &&
    i.leaseOwner = some token) WorkItem.release fun _ => rfl

/-- A raw page of an item: the flag is stored together with the renewal of the lease. -/
def Db.recordRawPage (db : Db) (workItemId : Nat) (leaseToken : String) (clock : Timestamp)
    (leaseSeconds : Int) (rawPageComplete : Bool) : Except QueueError Db := do
  ensure (db.visibleItems.any fun i => i.workItemId = workItemId &&
    i.isLeasedBy leaseToken clock) (.runtimeError "clue materialization page lease expired")
  return db.updateItems (fun i => i.workItemId = workItemId)
    (fun i => { i.renew clock leaseSeconds with rawPageComplete }) fun _ => rfl

/-! ### Runs -/

inductive Action
  | capture (writer impactKey entityType entityKey : String)
  | commit (writer : String)
  | rollback (writer : String)
  | begin (scope cycleId : String)
  | claim (request : ClaimRequest)
  | complete (ids : List Nat) (leaseToken : String) (clock : Timestamp)
  | renew (ids : List Nat) (leaseToken : String) (clock : Timestamp) (leaseSeconds : Int)
  | retry (ids : List Nat) (leaseToken : String)
  | recordRawPage (workItemId : Nat) (leaseToken : String) (clock : Timestamp)
      (leaseSeconds : Int) (rawPageComplete : Bool)

def Db.tryAct (db : Db) : Action → Except QueueError Db
  | .capture writer impactKey entityType entityKey =>
    db.captureJobImpact writer impactKey entityType entityKey
  | .commit writer => .ok (db.commit writer)
  | .rollback writer => .ok (db.rollback writer)
  | .begin scope cycleId => db.beginClueMaterializationCycle scope cycleId
  | .claim request => (db.claimClueMaterializationBatch request).map Prod.fst
  | .complete ids leaseToken clock => db.completeClueMaterializationBatch ids leaseToken clock
  | .renew ids leaseToken clock leaseSeconds =>
    db.renewClueMaterializationBatch ids leaseToken clock leaseSeconds
  | .retry ids leaseToken => db.retryClueMaterializationBatch ids leaseToken
  | .recordRawPage workItemId leaseToken clock leaseSeconds rawPageComplete =>
    db.recordRawPage workItemId leaseToken clock leaseSeconds rawPageComplete

/-- A transaction that raises is rolled back. -/
def Db.act (db : Db) (action : Action) : Db :=
  match db.tryAct action with
  | .ok db' => db'
  | .error _ => db

def Db.run (db : Db) (actions : List Action) : Db := actions.foldl Db.act db

end DyData.Materialization
