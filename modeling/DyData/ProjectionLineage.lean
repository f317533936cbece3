import DyData.ProjectionRows
import DyData.PythonText

/-!
The read-only resolver of a settlement head.  It walks the base chain of the pinned generation,
verifies the provenance of a compaction that ends the chain, and gives every partition key one
source.  Identifiers are canonical strings, which every writer checks, so `_as_text` leaves
them alone; the caches of manifest and presence reads are not kept, the database does not
change during a request.
-/

namespace DyData.Projection

open Relational
open Except (ofOption)

structure LineageError where
  message : String
deriving DecidableEq

def maxLineageDepth : Nat := 64

def maxCompactProvenanceSources : Nat := 1024

def maxPartitionKeys : Nat := 1000

def ensure (condition : Bool) (message : String) : Except LineageError Unit :=
  .ensure condition ⟨message⟩

def inheritedCompactStates : List GenerationState := [.published, .superseded]

inductive ResolvedOwner
  | owned | tombstone | legacyRoot
deriving DecidableEq

structure PartitionResolution where
  artifact : Artifact
  partitionKey : String
  nearestManifestOwnerGeneration : Option String := none
  actualDataGenerationId : Option String := none
  sourceKind : SourceKind := .legacyRoot
  ownerState : ResolvedOwner := .legacyRoot
  lineageDepth : Nat := 0
  lineageGenerationIds : List String := []
  sourceGenerationIds : List String := []
deriving DecidableEq

/-- `_bounded_partition_keys`: at most a thousand inputs, stripped, each one once. -/
def boundedPartitionKeys (consumed : Nat) (seen : List String) :
    List String → Except LineageError (List String)
  | [] => .ok seen
  | key :: rest =>
    if maxPartitionKeys < consumed + 1 then
      .error ⟨"partition key input exceeds maximum of 1000"⟩
    else if PythonText.strip key = "" then .error ⟨"partition keys must be non-empty strings"⟩
    else boundedPartitionKeys (consumed + 1)
      (if PythonText.strip key ∈ seen then seen else seen ++ [PythonText.strip key]) rest

def lineageRows (db : Db) : Nat → Option String → List Generation
  | 0, _ => []
  | _ + 1, none => []
  | n + 1, some id =>
    match db.generations.get? id with
    | none => []
    | some g => g :: lineageRows db n g.baseGenerationId

def Db.presentCount (db : Db) (generationId : String) (artifact : Artifact)
    (partitionKey : String) : Nat :=
  db.overlays.count ⟨generationId, artifact, partitionKey⟩

def Db.manifest? (db : Db) (generationId : String) (artifact : Artifact)
    (partitionKey : String) : Option Manifest :=
  db.manifests.get? (generationId, artifact, partitionKey)

/-- `_validate_manifest`, for a row whose owner is in the lineage. -/
def validateManifest (row : Manifest) (lineage : List Generation) (owner : Generation) :
    Except LineageError Unit := do
  let ids := lineage.map Generation.generationId
  match row.ownerState, row.sourceKind with
  | .owned, .overlay =>
    ensure (row.dataGenerationId.any fun id => id ∈ ids)
      "overlay manifest has an invalid data generation"
  | .owned, .legacyRoot =>
    ensure row.dataGenerationId.isNone "legacy-root manifest must not name data generation"
  | .tombstone, .tombstone =>
    ensure (row.dataGenerationId.isNone && row.rowCount = 0)
      "tombstone manifest must have no data and zero rows"
  | _, _ => .error ⟨"manifest owner/source metadata is inconsistent"⟩
  ensure row.referenceHeadGenerationId.isNone "ordinary manifest must not reference a compact head"
  ensure (row.baseGenerationId = owner.baseGenerationId)
    "manifest base generation metadata is inconsistent"
  ensure (row.baseGenerationId.all fun base => base ∈ ids)
    "manifest base generation is outside pinned lineage"

/-- `_VerifiedCompactClosure`: the closure rows with the generations they name. -/
structure VerifiedClosure where
  compactGenerationId : String
  compactionBaseGenerationId : String
  sources : List Generation

namespace VerifiedClosure

def compactSourceIds (c : VerifiedClosure) : List String :=
  (c.sources.filter fun s => s.generationKind = .compact).map Generation.generationId

def ordinarySource? (c : VerifiedClosure) (id : String) : Option Generation :=
  c.sources.find? fun s => s.generationId = id && s.generationKind ≠ .compact

end VerifiedClosure

/-- The closure rows of a compaction in the order of their sources, one more than allowed. -/
def closureRows (db : Db) (compactId : String) : List ClosureRow :=
  ((db.closure.rows.filter fun r => r.compactGenerationId = compactId).mergeSort
    fun a b => a.sourceGenerationId ≤ b.sourceGenerationId).take (maxCompactProvenanceSources + 1)

/-- The checks on one source of a closure; its row is the only one with its key. -/
def checkClosureSource (db : Db) (compactId : String) (row : ClosureRow) :
    Except LineageError Generation := do
  ensure (row.sourceGenerationId ≠ compactId) "compact provenance source identity is invalid"
  let source ← ofOption (db.generations.get? row.sourceGenerationId)
    ⟨"compact provenance source metadata is invalid"⟩
  ensure (isLowerHex64 row.sourceDigest && source.manifestChecksum = some row.sourceDigest &&
    source.state ∈ inheritedCompactStates &&
    (if source.generationKind = .compact then
      source.compactionBaseGenerationId.isSome && source.baseGenerationId.isNone
    else source.compactionBaseGenerationId.isNone))
    "compact provenance source metadata is invalid"
  ensure (source.lineageDepth ≤ maxLineageDepth) "compact provenance source depth is invalid"
  ensure (source.generationKind ≠ .legacyRoot ||
    (source.baseGenerationId.isNone && source.lineageDepth = 0))
    "compact legacy-root source metadata is invalid"
  ensure (source.generationKind ≠ .compact || source.lineageDepth = 0)
    "compact provenance source depth is invalid"
  return source

def verifyCompactClosure (db : Db) (compactId : String) (allowed : List GenerationState) :
    Except LineageError VerifiedClosure := do
  let head ← ofOption (db.generations.get? compactId) ⟨"compact head metadata is missing"⟩
  let base ← ofOption head.compactionBaseGenerationId ⟨"compact head metadata is invalid"⟩
  ensure (head.state ∈ allowed && head.generationKind = .compact && head.baseGenerationId.isNone &&
    base ≠ compactId && head.lineageDepth = 0) "compact head metadata is invalid"
  ensure ((db.generations.get? base).any fun b => b.state ∈ inheritedCompactStates)
    "compact provenance base is invalid"
  ensure (!(closureRows db compactId).isEmpty) "compact provenance closure is missing"
  let sources ← (closureRows db compactId).mapM (checkClosureSource db compactId)
  ensure (sources.length ≤ maxCompactProvenanceSources)
    "compact provenance exceeds maximum source count"
  return ⟨compactId, base, sources⟩

/-- `_CompactProvenanceContext`: the closures verified so far, the compactions opened, and the
compact partitions already proved. -/
structure ProvenanceContext where
  closures : List VerifiedClosure := []
  opened : List String := []
  verified : List (String × Artifact × String) := []

/-- `verified_closure`.  `path` holds the closures being verified; the node budget is spent
before the fuel is. -/
def verifiedClosure (db : Db) : Nat → List String → ProvenanceContext → String →
    List GenerationState → Except LineageError (VerifiedClosure × ProvenanceContext)
  | 0, _, _, _, _ => .error ⟨"compact provenance exceeds maximum compact node count"⟩
  | fuel + 1, path, ctx, compactId, allowed => do
    ensure (compactId ∉ path) "compact provenance path contains a cycle"
    match ctx.closures.find? fun c => c.compactGenerationId = compactId with
    | some closure => return (closure, ctx)
    | none =>
      let opened := ctx.opened.insert compactId
      ensure (opened.length ≤ maxLineageDepth)
        "compact provenance exceeds maximum compact node count"
      let closure ← verifyCompactClosure db compactId allowed
      let ctx ← closure.compactSourceIds.foldlM (fun ctx source => do
        let (_, ctx) ← verifiedClosure db fuel (compactId :: path) ctx source
          inheritedCompactStates
        return ctx) { ctx with opened }
      return (closure, { ctx with closures := closure :: ctx.closures })

def provenanceFuel : Nat := maxLineageDepth + 1

structure CompactClaim where
  path : List String
  compactId : String
  partitionKey : String
  row : Manifest

structure ActiveClaim where
  claim : CompactClaim
  dataGenerationId : String
  closure : VerifiedClosure

/-- The first pass over a level of claims: open the closure and check the row's own shape. -/
def openClaim (db : Db) (artifact : Artifact) (ctx : ProvenanceContext) (claim : CompactClaim) :
    Except LineageError (Option ActiveClaim × ProvenanceContext) := do
  let (closure, ctx) ← verifiedClosure db provenanceFuel [] ctx claim.compactId
    inheritedCompactStates
  ensure claim.row.baseGenerationId.isNone "compact manifest base generation must be null"
  ensure (claim.row.ownerState = .owned && claim.row.sourceKind = .overlay)
    "compact manifest owner/source metadata is invalid"
  let data ← ofOption claim.row.dataGenerationId
    ⟨"compact manifest provenance reference is invalid"⟩
  ensure (claim.row.referenceHeadGenerationId = some claim.compactId &&
    claim.row.checksum.any isLowerHex64) "compact manifest provenance reference is invalid"
  if (claim.compactId, artifact, claim.partitionKey) ∈ ctx.verified then return (none, ctx)
  else return (some ⟨claim, data, closure⟩, ctx)

abbrev PresenceRequirements := List ((String × String) × Nat)

def requirePresence (requirements : PresenceRequirements) (data key : String) (rowCount : Nat) :
    Except LineageError PresenceRequirements :=
  match requirements.lookup (data, key) with
  | some existing =>
    if existing ≠ rowCount then
      .error ⟨"compact provenance evidence conflicts on one partition"⟩
    else .ok requirements
  | none => .ok (((data, key), rowCount) :: requirements)

def sameEvidence (a b : Manifest) : Bool :=
  a.checksum = b.checksum && a.rowCount = b.rowCount && a.amountTotalCent = b.amountTotalCent &&
    a.statusCountsJson = b.statusCountsJson

structure ClaimLevel where
  next : List CompactClaim
  requirements : PresenceRequirements
  verified : List (String × Artifact × String)

/-- The second pass: prove the row against its ordinary source, or pass it on to the one
compact source that holds it. -/
def proveClaim (db : Db) (artifact : Artifact) (level : ClaimLevel) (active : ActiveClaim) :
    Except LineageError ClaimLevel := do
  let row := active.claim.row
  let key := active.claim.partitionKey
  let verified := (active.claim.compactId, artifact, key) :: level.verified
  match active.closure.ordinarySource? active.dataGenerationId with
  | some source =>
    let manifest ← ofOption (db.manifest? active.dataGenerationId artifact key)
      ⟨"compact source manifest is missing"⟩
    ensure (manifest.ownerState = .owned && manifest.sourceKind = .overlay &&
      manifest.dataGenerationId = some active.dataGenerationId &&
      manifest.referenceHeadGenerationId.isNone &&
      manifest.baseGenerationId = source.baseGenerationId && sameEvidence manifest row)
      "compact source manifest evidence does not match"
    let requirements ← requirePresence level.requirements active.dataGenerationId key row.rowCount
    return { level with requirements, verified }
  | none =>
    let candidates := active.closure.compactSourceIds.filterMap fun anchor =>
      ((db.manifest? anchor artifact key).filter fun candidate =>
        candidate.dataGenerationId = some active.dataGenerationId).map fun candidate =>
          (anchor, candidate)
    match candidates with
    | [] => .error ⟨"compact manifest provenance reference is invalid"⟩
    | [(anchor, candidate)] =>
      ensure (anchor ∉ active.claim.path) "compact provenance path contains a cycle"
      ensure (candidate.ownerState = row.ownerState && candidate.sourceKind = row.sourceKind &&
        candidate.baseGenerationId = row.baseGenerationId && candidate.baseGenerationId.isNone &&
        sameEvidence candidate row) "compact source manifest evidence does not match"
      let requirements ← requirePresence level.requirements active.dataGenerationId key
        row.rowCount
      return ⟨level.next ++ [⟨active.claim.path ++ [anchor], anchor, key, candidate⟩],
        requirements, verified⟩
    | _ => .error ⟨"compact anchor manifest identity is invalid"⟩

/-- The levels of `verify_compact_partition_claims`; every level lengthens the paths. -/
def verifyClaimLevels (db : Db) (artifact : Artifact) : Nat → ProvenanceContext →
    PresenceRequirements → List CompactClaim →
    Except LineageError (ProvenanceContext × PresenceRequirements)
  | 0, _, _, _ => .error ⟨"compact provenance exceeds maximum compact node count"⟩
  | fuel + 1, ctx, requirements, pending =>
    if pending.isEmpty then .ok (ctx, requirements)
    else do
      let (active, ctx) ← pending.foldlM (fun (state : List ActiveClaim × ProvenanceContext) claim =>
        do
          let (opened, ctx) ← openClaim db artifact state.2 claim
          return (state.1 ++ opened.toList, ctx)) ([], ctx)
      let level ← active.foldlM (proveClaim db artifact) ⟨[], requirements, ctx.verified⟩
      verifyClaimLevels db artifact fuel { ctx with verified := level.verified }
        level.requirements level.next

def verifyPresence (db : Db) (artifact : Artifact) (requirements : PresenceRequirements) :
    Except LineageError Unit :=
  requirements.forM fun entry =>
    ensure (db.presentCount entry.1.1 artifact entry.1.2 = entry.2)
      "compact source row count does not match manifest"

def verifyCompactPartitionClaims (db : Db) (artifact : Artifact) (ctx : ProvenanceContext)
    (claims : List (String × String × Manifest)) : Except LineageError ProvenanceContext := do
  let (ctx, requirements) ← verifyClaimLevels db artifact (maxLineageDepth + 2) ctx []
    (claims.map fun claim => ⟨[claim.1], claim.1, claim.2.1, claim.2.2⟩)
  verifyPresence db artifact requirements
  return ctx

end DyData.Projection
