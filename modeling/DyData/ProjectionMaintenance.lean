import DyData.ProjectionCompactionBuild
import DyData.ProjectionPublishSpec

/-!
The life of the settlement head: sparse rebuilds, compactions and their publications.  A
rebuild appears with all its rows; a compaction may be interrupted and resumed, so any rows of
an unpublished compaction may appear before it is published.
-/

namespace DyData.Projection

open Relational
open DyData.HeavyQueue (JobRun)

structure PartitionBuild where
  artifact : Artifact
  partitionKey : String
  rowCount : Nat
  amountTotalCent : Int
  statusCounts : List (String × Nat)
  digest : String
  lastKey : Option String
  digestHex : isLowerHex64 digest = true
  canonicalKey : partitionKey ≠ "" ∧ PythonText.strip partitionKey = partitionKey

/-- `_sparse_manifest_values`: a partition without rows is a tombstone. -/
def sparseManifestValues (generationId base : String) (p : PartitionBuild) : Manifest :=
  if 0 < p.rowCount then
    { generationId
      artifact := p.artifact
      partitionKey := p.partitionKey
      dataGenerationId := some generationId
      baseGenerationId := some base
      rowCount := p.rowCount
      amountTotalCent := p.amountTotalCent
      statusCountsJson := p.statusCounts
      checksum := some p.digest
      lastKey := p.lastKey }
  else
    { generationId
      artifact := p.artifact
      partitionKey := p.partitionKey
      ownerState := .tombstone
      sourceKind := .tombstone
      dataGenerationId := none
      baseGenerationId := some base
      amountTotalCent := p.amountTotalCent
      statusCountsJson := p.statusCounts
      checksum := some p.digest
      lastKey := p.lastKey }

structure RebuildInput where
  generationId : String
  baseGenerationId : String
  inputFingerprint : String
  sourceJobId : Option String := none
  partitions : List PartitionBuild

structure SparseError where
  message : String
deriving DecidableEq

def expect (condition : Bool) (message : String) : Except SparseError Unit :=
  .ensure condition ⟨message⟩

/-- `_sparse_base_chain`: the base is published, not too deep, and its chain complete. -/
def sparseBaseChain (db : Db) (baseId : String) : Except SparseError Generation := do
  let base ← Except.ofOption (db.generations.get? baseId)
    ⟨"base settlement generation does not exist"⟩
  expect (base.state = .published) "base settlement generation is not published"
  expect (base.lineageDepth < 64) "base settlement lineage depth exceeds the sparse limit"
  let rows := lineageRows db 66 (some baseId)
  expect (rows.map Generation.generationId).Nodup "base settlement lineage contains a cycle"
  expect (rows.length ≤ 65) "base settlement lineage exceeds the sparse limit"
  expect (rows.tail.all fun g => g.state ∈ inheritedCompactStates)
    "base settlement lineage contains an unpublished generation"
  expect (rows.getLast?.all fun g => g.baseGenerationId.isNone)
    "base settlement lineage is incomplete"
  expect (base.generationKind = .compact || rows.length = base.lineageDepth + 1)
    "base settlement lineage depth is inconsistent"
  return base

def sparseGeneration (digests : Digests) (input : RebuildInput) (depth : Nat)
    (manifests : List Manifest) : Generation :=
  { generationId := input.generationId
    baseGenerationId := some input.baseGenerationId
    state := .ready
    inputFingerprint := input.inputFingerprint
    lineageDepth := depth
    manifestChecksum := some (digests.manifestChecksum
      ((manifests.mergeSort fun a b => partitionLe a.partition b.partition).map
        Manifest.checksumValue))
    sourceJobId := input.sourceJobId }

/-- `build_settlement_sparse_overlay` and its ready step, over the active head.  The refusals
that depend on statements are left to the caller's choice of input. -/
def buildSettlementSparseOverlay (digests : Digests) (db : Db) (input : RebuildInput) :
    Except SparseError Db := do
  expect (input.generationId ≠ "" && PythonText.strip input.generationId = input.generationId)
    "generation_id must be a non-empty canonical string"
  expect (input.generationId ≠ input.baseGenerationId)
    "sparse generation cannot reference itself as base"
  expect (isLowerHex64 input.inputFingerprint)
    "input_fingerprint must be 64 lowercase hexadecimal characters"
  expect (db.active.bind id = some input.baseGenerationId)
    "active settlement pointer does not match sparse base"
  let base ← sparseBaseChain db input.baseGenerationId
  expect (db.generations.get? input.generationId).isNone
    "existing sparse generation metadata conflicts"
  let manifests := input.partitions.map
    (sparseManifestValues input.generationId input.baseGenerationId)
  let overlays := input.partitions.flatMap fun p =>
    List.replicate p.rowCount ⟨input.generationId, p.artifact, p.partitionKey⟩
  Except.ofOption (db.writeGeneration
    (sparseGeneration digests input (base.lineageDepth + 1) manifests) manifests [] overlays)
    ⟨"input_fingerprint already belongs to another generation"⟩

inductive MaintenanceAction
  | rebuild (input : RebuildInput)
  | compact (arguments : CompactionArguments) (base : String)
  | stageCompaction (g : Generation) (manifests : List Manifest) (closure : List ClosureRow)
  | publish (p : Publication) (clock : PublishClock)
  | putJob (job : JobRun)

structure Protocol where
  digests : Digests
  sha256 : String → String

def Protocol.context (protocol : Protocol) : PublishContext :=
  protocol.digests.publishContext protocol.sha256

namespace Db

/-- The result of an operation whose failure is rolled back. -/
def orUnchanged {ε : Type} (db : Db) (result : Except ε Db) : Db :=
  match result with
  | .ok db' => db'
  | .error _ => db

def stageCompaction (db : Db) (g : Generation) (manifests : List Manifest)
    (closure : List ClosureRow) : Db :=
  if g.generationKind = .compact then (db.writeGeneration g manifests closure []).getD db else db

def maintain (protocol : Protocol) (db : Db) : MaintenanceAction → Db
  | .rebuild input => db.orUnchanged (buildSettlementSparseOverlay protocol.digests db input)
  | .compact arguments base =>
    db.orUnchanged (compactProjectionMetadata protocol.digests arguments db base)
  | .stageCompaction g manifests closure => db.stageCompaction g manifests closure
  | .publish p clock => db.orUnchanged (p.run protocol.context clock db)
  | .putJob job => { db with jobs := db.jobs.put job }

def maintainAll (protocol : Protocol) (db : Db) (actions : List MaintenanceAction) : Db :=
  actions.foldl (maintain protocol) db

def compactions (db : Db) : Nat :=
  db.generations.rows.countP fun g => g.generationKind = .compact && g.state = .published

end Db

structure LegacyHead (digests : Digests) (db : Db) (root : Generation) : Prop where
  active : db.active = some (some root.generationId)
  row : db.generations.get? root.generationId = some root
  kind : root.generationKind = .legacyRoot
  state : root.state = .published
  alone : ∀ g ∈ db.generations.rows, g = root
  manifests : ∀ m ∈ db.manifests.rows, m.generationId = root.generationId →
    m.sourceKind = .legacyRoot ∧ m.baseGenerationId = none
  digest : root.manifestChecksum = some
    (digests.manifestChecksum ((db.manifestsOf root.generationId).map Manifest.checksumValue))

end DyData.Projection
