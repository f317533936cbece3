import DyData.ProjectionResolve
import DyData.ProjectionPublish

/-!
The metadata compaction of a settlement head: the lineage and provenance it loads, the
partition rows it copies from the resolver's answers, the builder that writes them, and the
verification a publication repeats.  Text is ordered by code points.
-/

namespace DyData.Projection

open Relational

structure BootstrapError where
  message : String
deriving DecidableEq

def demand (condition : Bool) (message : String) : Except BootstrapError Unit :=
  .ensure condition ⟨message⟩

def resolved {α : Type} (x : Except LineageError α) (message : String) :
    Except BootstrapError α :=
  x.mapError fun _ => ⟨message⟩

/-- `_manifest_checksum_value`. -/
structure ManifestValue where
  artifact : Artifact
  partitionKey : String
  ownerState : OwnerState
  sourceKind : SourceKind
  dataGenerationId : Option String
  baseGenerationId : Option String
  rowCount : Nat
  amountTotalCent : Int
  statusCountsJson : List (String × Nat)
  partitionChecksum : Option String
deriving DecidableEq

/-- `_compaction_manifest_value`. -/
structure CompactionValue where
  artifact : Artifact
  partitionKey : String
  ownerState : OwnerState
  sourceKind : SourceKind
  dataGenerationId : Option String
  rowCount : Nat
  amountTotalCent : Int
  statusCountsJson : List (String × Nat)
  partitionChecksum : Option String
  lastKey : Option String
deriving DecidableEq

namespace Manifest

def checksumValue (m : Manifest) : ManifestValue :=
  ⟨m.artifact, m.partitionKey, m.ownerState, m.sourceKind, m.dataGenerationId,
    m.baseGenerationId, m.rowCount, m.amountTotalCent, m.statusCountsJson, m.checksum⟩

def compactionValue (m : Manifest) : CompactionValue :=
  ⟨m.artifact, m.partitionKey, m.ownerState, m.sourceKind, m.dataGenerationId, m.rowCount,
    m.amountTotalCent, m.statusCountsJson, m.checksum, m.lastKey⟩

/-- The row a compaction keeps of a source row: no base, and itself as the head that vouches
for an overlay. -/
def compacted (compactId : String) (m : Manifest) : Manifest :=
  { m with
    generationId := compactId
    baseGenerationId := none
    referenceHeadGenerationId := if m.sourceKind = .overlay then some compactId else none
    referenceCheck := by
      by_cases h : m.sourceKind = .overlay
      · exact .inr ⟨if_pos h, h⟩
      · exact .inl (if_neg h) }

end Manifest

structure Digests where
  manifestChecksum : List ManifestValue → String
  compactionChecksum : List CompactionValue → String
  provenanceChecksum : List (String × String) → String
  compactionFingerprint : String → String → String → Option String → String
  lastKey : Artifact → String → String
  manifestChecksum_hex : ∀ values, isLowerHex64 (manifestChecksum values) = true
  compactionChecksum_hex : ∀ values, isLowerHex64 (compactionChecksum values) = true
  compactionFingerprint_hex : ∀ base baseChecksum effective provenance,
    isLowerHex64 (compactionFingerprint base baseChecksum effective provenance) = true

def Artifact.rank : Artifact → Nat
  | .monthly => 0
  | .ranking => 1
  | .score => 2

/-- The order of `(artifact, partition_key)`. -/
def partitionLe (a b : Artifact × String) : Bool :=
  a.1.rank < b.1.rank || (a.1 = b.1 && a.2 ≤ b.2)

def Manifest.partition (m : Manifest) : Artifact × String := (m.artifact, m.partitionKey)

def Db.manifestsOf (db : Db) (generationId : String) : List Manifest :=
  (db.manifests.rows.filter fun m => m.generationId = generationId).mergeSort
    fun a b => partitionLe a.partition b.partition

def checkCompactionKind (index : Nat) (g : Generation) (rest : List Generation) :
    Except BootstrapError Unit :=
  if g.generationKind = .compact then
    if index = 0 then
      demand (rest.isEmpty && g.baseGenerationId.isNone) "compact base metadata is invalid"
    else do
      demand rest.isEmpty "nested compact lineage is invalid"
      demand g.baseGenerationId.isNone "compact ancestor metadata is invalid"
      demand g.compactionBaseGenerationId.isSome "compact ancestor provenance is invalid"
  else demand g.compactionBaseGenerationId.isNone "ordinary compaction source is invalid"

def checkCompactionRows (headDepth : Nat) :
    Nat → List String → List Generation → Except BootstrapError Unit
  | _, _, [] => .ok ()
  | index, seen, g :: rest => do
    demand (g.generationId ∉ seen) "compaction lineage identity is invalid"
    demand (if index = 0 then g.state = .published else g.state ∈ inheritedCompactStates)
      "compaction lineage state is invalid"
    checkCompactionKind index g rest
    demand (g.lineageDepth + index = headDepth) "compaction lineage depth is invalid"
    demand (g.manifestChecksum.any isLowerHex64) "compaction source digest is invalid"
    demand (g.baseGenerationId = rest.head?.map Generation.generationId)
      "compaction lineage base link is invalid"
    demand (g.generationKind ≠ .legacyRoot || (rest.isEmpty && g.lineageDepth = 0))
      "legacy-root compaction source is invalid"
    checkCompactionRows headDepth (index + 1) (seen ++ [g.generationId]) rest

/-- `_validate_compaction_source_manifest_digests`: the recorded checksum of every source is
that of its manifest rows, in the envelope of its kind. -/
def validateSourceDigests (digests : Digests) (db : Db) (rows : List Generation) :
    Except BootstrapError Unit :=
  rows.forM fun g =>
    demand (g.manifestChecksum = some
      (if g.generationKind = .compact then
        digests.compactionChecksum ((db.manifestsOf g.generationId).map Manifest.compactionValue)
      else digests.manifestChecksum ((db.manifestsOf g.generationId).map Manifest.checksumValue)))
      "compaction source manifest checksum is corrupt"

def loadCompactionLineage (digests : Digests) (db : Db) (base : String) :
    Except BootstrapError (List Generation) := do
  demand (db.active.bind id = some base) "compaction base is not the active settlement generation"
  let rows := lineageRows db (maxLineageDepth + 2) (some base)
  match rows with
  | [] => .error ⟨"compaction lineage is missing or too deep"⟩
  | head :: _ => do
    demand (rows.length ≤ maxLineageDepth + 1) "compaction lineage is missing or too deep"
    demand (rows.length = head.lineageDepth + 1) "compaction lineage is incomplete"
    checkCompactionRows head.lineageDepth 0 [] rows
    if head.generationKind = .compact then return rows
    else do
      validateSourceDigests digests db rows
      return rows

def sourceDigest (g : Generation) : String × String :=
  (g.generationId, g.manifestChecksum.getD "")

def inheritedSources (db : Db) (rows : List Generation) :
    Except BootstrapError (List (String × String)) :=
  match terminalCompact? rows with
  | none => .ok []
  | some terminal =>
    (resolved (verifiedClosure db provenanceFuel [] {} terminal.generationId
      inheritedCompactStates) "compact ancestor provenance is invalid").map fun result =>
        result.1.sources.map sourceDigest

/-- `_compaction_provenance_rows`: the direct chain with the closure it inherits. -/
def compactionProvenanceRows (db : Db) (rows : List Generation) :
    Except BootstrapError (List (String × String)) := do
  let direct := rows.map sourceDigest
  let inherited ← inheritedSources db rows
  demand (inherited.all fun source => direct.all fun own =>
    own.1 ≠ source.1 || own.2 = source.2) "compact provenance digest conflicts"
  let sources := direct ++ inherited.filter fun source => source.1 ∉ direct.map Prod.fst
  demand (sources.length ≤ maxCompactProvenanceSources)
    "compact provenance exceeds maximum source count"
  return sources.mergeSort fun a b => a.1 ≤ b.1

def expandedProvenanceChecksum (digests : Digests) (rows : List Generation)
    (closure : List (String × String)) : Option String :=
  if closure.length = rows.length then none else some (digests.provenanceChecksum closure)

def lineagePartitions (db : Db) (rows : List Generation) : List (Artifact × String) :=
  ((db.manifests.rows.filter fun m => m.generationId ∈ rows.map Generation.generationId).map
    Manifest.partition).dedup.mergeSort partitionLe

/-- Consecutive pages of at most `size` elements. -/
def pages {α : Type} (size : Nat) : Nat → List α → List (List α)
  | 0, _ => []
  | fuel + 1, items =>
    if items.isEmpty then [] else items.take size :: pages size fuel (items.drop size)

def resolveArtifact (db : Db) (base : String) (page : List (Artifact × String))
    (state : List PartitionResolution × ProvenanceContext) (artifact : Artifact) :
    Except BootstrapError (List PartitionResolution × ProvenanceContext) := do
  let keys := (page.filter fun entry => entry.1 = artifact).map Prod.snd
  if keys.isEmpty then return state
  else
    let (found, ctx) ← resolved
      (resolveProjectionPartitions db artifact keys (some base) state.2)
      "compaction source resolution failed"
    return (state.1 ++ found, ctx)

def resolvePage (db : Db) (base : String) (page : List (Artifact × String)) :
    Except BootstrapError (List PartitionResolution × ProvenanceContext) :=
  [Artifact.monthly, .ranking, .score].foldlM (resolveArtifact db base page) ([], {})

def checkPayloadSource (rows : List Generation) (resolution : PartitionResolution)
    (fromCompact : Bool) (source : Manifest) : Except BootstrapError Unit :=
  if resolution.sourceKind = .tombstone then
    demand (source.ownerState = .tombstone && source.sourceKind = .tombstone &&
      source.dataGenerationId.isNone && source.rowCount = 0) "compaction tombstone is invalid"
  else
    demand (source.ownerState = .owned && source.sourceKind = .overlay &&
      source.dataGenerationId = resolution.actualDataGenerationId &&
      source.dataGenerationId.any fun data =>
        fromCompact || data ∈ rows.map Generation.generationId)
      "compaction overlay source is invalid"

/-- What the compaction keeps of one partition: nothing of a legacy one, otherwise the row of
its owner, which must agree with the resolution. -/
def sourcePayload (db : Db) (rows : List Generation) (resolutions : List PartitionResolution)
    (partition : Artifact × String) : Except BootstrapError (Option Manifest) := do
  let resolution ← Except.ofOption
    (resolutions.find? fun r => r.artifact = partition.1 && r.partitionKey = partition.2)
    ⟨"compaction resolution is incomplete"⟩
  if resolution.sourceKind = .legacyRoot then return none
  else
    let owner ← Except.ofOption resolution.nearestManifestOwnerGeneration
      ⟨"compaction manifest owner is missing"⟩
    let source ← Except.ofOption (db.manifest? owner partition.1 partition.2)
      ⟨"compaction source manifest is missing"⟩
    let fromCompact : Bool := (terminalCompact? rows).any fun t => t.generationId = owner
    demand (source.referenceHeadGenerationId.all fun head => fromCompact && head = owner)
      "ordinary source has compact reference"
    demand (source.baseGenerationId =
      (rows.find? fun g => g.generationId = owner).bind Generation.baseGenerationId)
      "compaction source base metadata is invalid"
    checkPayloadSource rows resolution fromCompact source
    demand (source.sourceKind ≠ .overlay || source.checksum.any isLowerHex64)
      "compaction partition checksum is invalid"
    return some source

/-- `_compaction_source_payload_page`. -/
def sourcePayloadPage (db : Db) (base : String) (rows : List Generation)
    (page : List (Artifact × String)) : Except BootstrapError (List Manifest) := do
  let (resolutions, ctx) ← resolvePage db base page
  let _ ← resolved (openTerminal db rows ctx) "compact ancestor provenance is missing"
  let payloads ← page.mapM (sourcePayload db rows resolutions)
  return payloads.filterMap id

def compactionPayloads (db : Db) (base : String) (rows : List Generation) (batchSize : Nat) :
    Except BootstrapError (List Manifest) := do
  let partitions := lineagePartitions db rows
  let payloads ← (pages batchSize partitions.length partitions).mapM
    (sourcePayloadPage db base rows)
  return payloads.flatten

/-- `_CompactionPlanSummary`. -/
structure CompactionPlan where
  manifestRows : Nat
  batchCount : Nat
  lastKey : Option String
  effectiveChecksum : String
deriving DecidableEq

def summarizeCompactionPlan (digests : Digests) (batchSize : Nat) (payloads : List Manifest) :
    CompactionPlan where
  manifestRows := payloads.length
  batchCount := (pages batchSize payloads.length payloads).length
  lastKey := payloads.getLast?.map fun m => digests.lastKey m.artifact m.partitionKey
  effectiveChecksum := digests.compactionChecksum (payloads.map Manifest.compactionValue)

structure CompactionResource where
  manifestRows : Int
  writeRows : Int
  writeBytes : Int
  walBytes : Int
  diskHeadroomBytes : Int
deriving DecidableEq

end DyData.Projection
