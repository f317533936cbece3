import DyData.ProjectionCompaction

/-!
Writing and verifying a compaction.  The builder commits page by page and may be resumed;
whatever its rows went through, a publication recomputes the expected rows from the merged
head and compares.
-/

namespace DyData.Projection

open Relational
open Except (ofOption)

def intField (document : JsonValue) (name : String) : Option Int :=
  (document.get? name).bind JsonValue.asInt?

def compactionCheckpoint (phase base : String) (batchSize batchCount partitionCount
    sourceGenerationCount : Nat) (effectiveChecksum : String) (resource : CompactionResource) :
    JsonValue :=
  .obj [
    ("protocol", .str compactionProtocol),
    ("operation", .str compactionOperation),
    ("phase", .str phase),
    ("base_generation_id", .str base),
    ("expected_active_pointer", .str base),
    ("cursor", .null),
    ("batch_size", .num batchSize),
    ("batch_count", .num batchCount),
    ("partition_count", .num partitionCount),
    ("source_generation_count", .num sourceGenerationCount),
    ("effective_checksum", .str effectiveChecksum),
    ("estimated_manifest_rows", .num resource.manifestRows),
    ("estimated_write_rows", .num resource.writeRows),
    ("estimated_write_bytes", .num resource.writeBytes),
    ("estimated_wal_bytes", .num resource.walBytes),
    ("estimated_disk_headroom_bytes", .num resource.diskHeadroomBytes)]

/-- `_validate_compaction_checkpoint` of a checkpoint without a cursor. -/
def validateCompactionCheckpoint (checkpoint : JsonValue) (base effectiveChecksum : String)
    (resource : CompactionResource) (batchSize : Int) (sourceGenerationCount : Nat) :
    Except BootstrapError Unit := do
  demand (checkpoint.isObject &&
    compactionCheckpointKeys.all fun key => (checkpoint.get? key).isSome)
    "compaction checkpoint is malformed"
  demand (textField checkpoint "protocol" = some compactionProtocol &&
    textField checkpoint "operation" = some compactionOperation &&
    (textField checkpoint "phase" = some "scan" || textField checkpoint "phase" = some "ready") &&
    textField checkpoint "base_generation_id" = some base &&
    textField checkpoint "expected_active_pointer" = some base &&
    textField checkpoint "effective_checksum" = some effectiveChecksum &&
    intField checkpoint "batch_size" = some batchSize &&
    intField checkpoint "source_generation_count" = some (sourceGenerationCount : Int) &&
    intField checkpoint "estimated_manifest_rows" = some resource.manifestRows &&
    intField checkpoint "estimated_write_rows" = some resource.writeRows &&
    intField checkpoint "estimated_write_bytes" = some resource.writeBytes &&
    intField checkpoint "estimated_wal_bytes" = some resource.walBytes &&
    intField checkpoint "estimated_disk_headroom_bytes" = some resource.diskHeadroomBytes)
    "compaction checkpoint conflicts"
  let batchCount ← ofOption ((intField checkpoint "batch_count").filter fun n => 0 ≤ n)
    ⟨"compaction checkpoint batch_count is invalid"⟩
  let partitionCount ← ofOption
    ((intField checkpoint "partition_count").filter fun n => 0 ≤ n)
    ⟨"compaction checkpoint partition_count is invalid"⟩
  demand (partitionCount ≤ resource.manifestRows && batchCount ≤ resource.manifestRows)
    "compaction checkpoint totals are invalid"
  demand ((checkpoint.get? "cursor").all JsonValue.isNull)
    "ready compaction checkpoint has a cursor"

/-- `_verify_compaction_ready` of a ready generation: its identity, its checkpoint, its manifest
rows against the expected payloads and its closure against the expected provenance. -/
def verifyCompactionReady (digests : Digests) (db : Db) (g : Generation) (base : String)
    (rows : List Generation) (closure : List (String × String)) (payloads : List Manifest)
    (plan : CompactionPlan) (resource : CompactionResource) (batchSize : Nat) :
    Except BootstrapError Unit := do
  let provenance := expandedProvenanceChecksum digests rows closure
  let fingerprint := digests.compactionFingerprint base
    ((rows.head?.bind Generation.manifestChecksum).getD "") plan.effectiveChecksum provenance
  demand (g.inputFingerprint = fingerprint &&
    g.generationId = "settlement-compact:" ++ fingerprint &&
    textField g.sourceInputJson "provenance_checksum" = provenance)
    "compaction provenance identity conflicts"
  validateCompactionCheckpoint g.checkpointJson base plan.effectiveChecksum resource batchSize
    closure.length
  demand (intField g.checkpointJson "partition_count" = some (plan.manifestRows : Int) &&
    intField g.checkpointJson "batch_count" = some (plan.batchCount : Int) &&
    g.estimatedWriteRows = resource.writeRows && g.estimatedWriteBytes = resource.writeBytes &&
    g.estimatedWalBytes = resource.walBytes &&
    g.estimatedDiskHeadroomBytes = resource.diskHeadroomBytes && g.lastKey = plan.lastKey)
    "compaction checkpoint or resource terminal facts are invalid"
  demand (textField g.checkpointJson "phase" = some "ready" &&
    g.manifestChecksum = some plan.effectiveChecksum) "ready compaction metadata is invalid"
  demand (db.active.bind id = some base) "compaction expected active base changed"
  demand (db.manifestsOf g.generationId = payloads.map (.compacted g.generationId))
    "compaction manifest verification failed"
  demand (digests.compactionChecksum ((db.manifestsOf g.generationId).map
    Manifest.compactionValue) = plan.effectiveChecksum) "compaction manifest verification failed"
  demand ((closureRows db g.generationId).map (fun r => (r.sourceGenerationId, r.sourceDigest)) =
    closure) "compaction closure verification failed"

def checkpointResource (checkpoint : JsonValue) : Except BootstrapError CompactionResource := do
  let count := fun name : String => ofOption
    ((intField checkpoint name).filter fun n => 0 ≤ n)
    (BootstrapError.mk ("reverify compaction " ++ name ++ " is invalid"))
  let manifestRows ← count "estimated_manifest_rows"
  let writeRows ← count "estimated_write_rows"
  let writeBytes ← count "estimated_write_bytes"
  let walBytes ← count "estimated_wal_bytes"
  let diskHeadroomBytes ← count "estimated_disk_headroom_bytes"
  return { manifestRows, writeRows, writeBytes, walBytes, diskHeadroomBytes }

def reverifyReadyCompactionPublication (digests : Digests) (db : Db) (generationId : String) :
    Except BootstrapError Unit := do
  let g ← ofOption (db.generations.get? generationId)
    ⟨"reverify compaction generation is missing"⟩
  demand (g.generationKind = .compact && g.state = .ready && g.baseGenerationId.isNone)
    "reverify compaction generation is not a ready compact head"
  let base ← ofOption (g.compactionBaseGenerationId.filter fun base => base ≠ "")
    ⟨"reverify compaction base is missing"⟩
  let rows ← loadCompactionLineage digests db base
  let closure ← compactionProvenanceRows db rows
  demand g.checkpointJson.isObject "reverify compaction checkpoint is malformed"
  let batchSize ← ofOption (intField g.checkpointJson "batch_size")
    ⟨"reverify compaction batch size is invalid"⟩
  let resource ← checkpointResource g.checkpointJson
  let payloads ← compactionPayloads db base rows batchSize.toNat
  verifyCompactionReady digests db g base rows closure payloads
    (summarizeCompactionPlan digests batchSize.toNat payloads) resource batchSize.toNat

def Digests.publishContext (digests : Digests) (sha256 : String → String) : PublishContext where
  sha256
  reverify db generationId :=
    (reverifyReadyCompactionPublication digests db generationId).mapError BootstrapError.message

/-- A builder writes rows of its own generation only, and never of a published one. -/
def Db.writable (db : Db) (g : Generation) (manifests : List Manifest)
    (closure : List ClosureRow) (overlays : List OverlayRow) : Bool :=
  g.state ≠ .published &&
    (db.generations.get? g.generationId).all (fun old => old.state ≠ .published) &&
    manifests.all (fun m => m.generationId = g.generationId) &&
    closure.all (fun r => r.compactGenerationId = g.generationId) &&
    overlays.all fun o => o.generationId = g.generationId

/-- What a builder leaves of its generation: its own row, its manifests, its closure and its
overlay rows replace what was there. -/
def Db.writeGeneration (db : Db) (g : Generation) (manifests : List Manifest)
    (closure : List ClosureRow) (overlays : List OverlayRow) : Option Db :=
  if !db.writable g manifests closure overlays then none else do
  let manifests ← db.manifests.replace? (fun m => m.generationId = g.generationId) manifests
  let closure ← db.closure.replace? (fun r => r.compactGenerationId = g.generationId) closure
  if h : ((db.generations.put g).rows.map Generation.inputFingerprint).Nodup then
    some { db with
      generations := db.generations.put g
      manifests
      closure
      overlays := db.overlays.filter (fun o => !decide (o.generationId = g.generationId)) ++ overlays
      fingerprints := h }
  else none

/-- `ResourceGateConfig`, as far as a compaction reads it. -/
structure ResourceLimits where
  maxManifestRows : Int
  maxEstimatedWriteBytes : Int
  maxEstimatedWalBytes : Int
  observedDiskHeadroomBytes : Int
  minDiskHeadroomBytes : Int
deriving DecidableEq

/-- `_compaction_resource`, with the code of the guard that stops the build. -/
def compactionResource (manifestRows closureRows : Nat) (limits : ResourceLimits) :
    CompactionResource × Option String :=
  let writeBytes : Int := 16384 + 4096 * (closureRows + manifestRows)
  let headroom := limits.observedDiskHeadroomBytes - limits.minDiskHeadroomBytes
  let resource : CompactionResource :=
    ⟨manifestRows, 1 + closureRows + manifestRows, writeBytes, 2 * writeBytes, headroom⟩
  (resource,
    if limits.maxManifestRows < manifestRows then some "manifest_rows_exceed_limit"
    else if limits.maxEstimatedWriteBytes < writeBytes then
      some "estimated_write_bytes_exceed_limit"
    else if limits.maxEstimatedWalBytes < 2 * writeBytes then
      some "estimated_wal_bytes_exceed_limit"
    else if headroom < writeBytes + 2 * writeBytes then some "disk_headroom_insufficient"
    else none)

structure CompactionArguments where
  minimumLineageDepth : Nat
  batchSize : Nat
  limits : ResourceLimits
deriving DecidableEq

def compactGeneration (digests : Digests) (base baseChecksum : String)
    (closure : List (String × String)) (plan : CompactionPlan) (provenance : Option String)
    (resource : CompactionResource) (batchSize : Nat) : Generation :=
  let fingerprint := digests.compactionFingerprint base baseChecksum plan.effectiveChecksum
    provenance
  { generationId := "settlement-compact:" ++ fingerprint
    generationKind := .compact
    compactionBaseGenerationId := some base
    state := .ready
    inputFingerprint := fingerprint
    estimatedWriteRows := resource.writeRows
    estimatedWriteBytes := resource.writeBytes
    estimatedWalBytes := resource.walBytes
    estimatedDiskHeadroomBytes := resource.diskHeadroomBytes
    checkpointJson := compactionCheckpoint "ready" base batchSize plan.batchCount
      plan.manifestRows closure.length plan.effectiveChecksum resource
    lastKey := plan.lastKey
    manifestChecksum := some plan.effectiveChecksum
    sourceInputJson := .obj ([
      ("protocol", .str compactionProtocol),
      ("projection", .str "settlement"),
      ("operation", .str compactionOperation),
      ("base_generation_id", .str base),
      ("effective_checksum", .str plan.effectiveChecksum)] ++
      provenance.toList.map fun checksum => ("provenance_checksum", .str checksum)) }

/-- `_validate_compaction_arguments`, for the two thresholds. -/
def CompactionArguments.valid (args : CompactionArguments) : Bool :=
  1 ≤ args.minimumLineageDepth && args.minimumLineageDepth ≤ 64 &&
    1 ≤ args.batchSize && args.batchSize ≤ 400

/-- `compact_projection_metadata`, run to its end: the rows of a ready compaction, or nothing
when the arguments are refused, the head is compact or too shallow, or a resource guard stops
the build. -/
def compactProjectionMetadata (digests : Digests) (args : CompactionArguments) (db : Db)
    (base : String) : Except BootstrapError Db :=
  if !args.valid then .ok db else do
  let rows ← loadCompactionLineage digests db base
  let head ← ofOption rows.head? ⟨"compaction lineage is missing or too deep"⟩
  if head.generationKind = .compact ∨ head.lineageDepth < args.minimumLineageDepth then return db
  else
    let closure ← compactionProvenanceRows db rows
    let payloads ← compactionPayloads db base rows args.batchSize
    let plan := summarizeCompactionPlan digests args.batchSize payloads
    let (resource, stopped) := compactionResource plan.manifestRows closure.length args.limits
    if stopped.isSome then return db
    else
      let g := compactGeneration digests base (head.manifestChecksum.getD "") closure plan
        (expandedProvenanceChecksum digests rows closure) resource args.batchSize
      ofOption (db.writeGeneration g (payloads.map (.compacted g.generationId))
        (closure.map fun source => ⟨g.generationId, source.1, source.2⟩) [])
        ⟨"compaction generation state is incompatible"⟩

end DyData.Projection
