import DyData.ProjectionLineage

/-!
`resolve_projection_partitions`: the direct reader of a compaction, and the reader of an
ordinary lineage, whose chain may end in a compaction.
-/

namespace DyData.Projection

open Relational

def legacyFallback (artifact : Artifact) (lineageIds : List String) (key : String) :
    PartitionResolution :=
  { artifact, partitionKey := key, lineageGenerationIds := lineageIds }

/-- The resolution of a key that the compact head owns, and the row to be proved for it. -/
def resolveCompactKey (db : Db) (artifact : Artifact) (pinned key : String) :
    Except LineageError (PartitionResolution × Option Manifest) :=
  match db.manifest? pinned artifact key with
  | none => .ok (legacyFallback artifact [pinned] key, none)
  | some manifest => do
    ensure manifest.baseGenerationId.isNone "compact manifest base generation must be null"
    match manifest.ownerState, manifest.sourceKind with
    | .tombstone, .tombstone =>
      ensure (manifest.dataGenerationId.isNone && manifest.referenceHeadGenerationId.isNone &&
        manifest.rowCount = 0) "compact tombstone manifest is invalid"
      return ({ artifact, partitionKey := key, nearestManifestOwnerGeneration := some pinned
                sourceKind := .tombstone, ownerState := .tombstone
                lineageGenerationIds := [pinned] }, none)
    | .owned, .overlay =>
      ensure (manifest.dataGenerationId.isSome &&
        manifest.referenceHeadGenerationId = some pinned && manifest.checksum.any isLowerHex64)
        "compact manifest provenance reference is invalid"
      return ({ artifact, partitionKey := key, nearestManifestOwnerGeneration := some pinned
                actualDataGenerationId := manifest.dataGenerationId
                sourceKind := .overlay, ownerState := .owned
                lineageGenerationIds := [pinned]
                sourceGenerationIds := manifest.dataGenerationId.toList }, some manifest)
    | _, _ => .error ⟨"compact manifest owner/source metadata is invalid"⟩

def verifyClaimsWhen (needed : Bool) (db : Db) (artifact : Artifact) (ctx : ProvenanceContext)
    (claims : List (String × String × Manifest)) : Except LineageError ProvenanceContext :=
  if needed then verifyCompactPartitionClaims db artifact ctx claims else .ok ctx

def resolveCompactPartitions (db : Db) (artifact : Artifact) (keys : List String)
    (head : Generation) (ctx : ProvenanceContext) :
    Except LineageError (List PartitionResolution × ProvenanceContext) := do
  let pinned := head.generationId
  ensure (head.state = .published && head.generationKind = .compact &&
    head.baseGenerationId.isNone && head.lineageDepth = 0) "compact head metadata is invalid"
  let compactionBase ← Except.ofOption
    (head.compactionBaseGenerationId.filter fun base => base ≠ pinned)
    ⟨"compact head base metadata is invalid"⟩
  let (closure, ctx) ← verifiedClosure db provenanceFuel [] ctx pinned [.published]
  ensure (closure.compactionBaseGenerationId = compactionBase)
    "compact provenance base is invalid"
  let resolved ← keys.mapM (resolveCompactKey db artifact pinned)
  let claims := resolved.filterMap fun entry =>
    entry.2.map fun manifest => (pinned, entry.1.partitionKey, manifest)
  let ctx ← verifyClaimsWhen (!claims.isEmpty) db artifact ctx claims
  return (resolved.map Prod.fst, ctx)

def checkLineageKind (g : Generation) (rest : List Generation) : Except LineageError Unit :=
  if g.generationKind = .compact then do
    ensure rest.isEmpty "ordinary lineage contains an invalid generation kind"
    ensure g.baseGenerationId.isNone "compact ancestor base metadata is invalid"
    ensure g.compactionBaseGenerationId.isSome "compact ancestor provenance is invalid"
  else
    ensure g.compactionBaseGenerationId.isNone
      "ordinary lineage contains compact provenance metadata"

def checkLineageState (pinned : String) (hop : Nat) (g : Generation) :
    Except LineageError Unit :=
  if hop = 0 then
    ensure (g.generationId = pinned && g.state = .published) "pinned generation is not published"
  else
    ensure (g.state ∈ inheritedCompactStates) "projection lineage contains a non-published base"

def checkLineageRows (pinned : String) (headDepth : Nat) :
    Nat → List String → Option Generation → List Generation → Except LineageError Unit
  | _, _, _, [] => .ok ()
  | hop, seen, previous, g :: rest => do
    ensure (g.generationId ∉ seen) "projection lineage contains a cycle"
    checkLineageKind g rest
    checkLineageState pinned hop g
    ensure (hop ≤ maxLineageDepth && g.lineageDepth ≤ maxLineageDepth &&
      g.lineageDepth + hop = headDepth) "projection lineage depth is invalid"
    ensure (previous.all fun p => p.baseGenerationId = some g.generationId)
      "projection lineage has inconsistent base metadata"
    checkLineageRows pinned headDepth (hop + 1) (seen ++ [g.generationId]) (some g) rest

def checkLineage (pinned : String) (head : Generation) (rows : List Generation) :
    Except LineageError Unit := do
  ensure (head.lineageDepth ≤ maxLineageDepth) "projection lineage depth is invalid"
  ensure (rows.length = head.lineageDepth + 1)
    "projection lineage depth does not match complete chain"
  checkLineageRows pinned head.lineageDepth 0 [] none rows
  match rows.getLast?.bind Generation.baseGenerationId with
  | none => .ok ()
  | some base =>
    if base ∈ rows.map Generation.generationId then
      .error ⟨"projection lineage contains a cycle"⟩
    else .error ⟨"projection lineage references a missing base generation"⟩

def terminalCompact? (rows : List Generation) : Option Generation :=
  rows.getLast?.filter fun g => g.generationKind = .compact

/-- One manifest row of the chain: the rows of the terminal compaction are proved with its
provenance, the others must be consistent with the chain. -/
def checkManifestRow (rows : List Generation) (owner : Generation) (row : Manifest) :
    Except LineageError (Option Manifest) :=
  if owner.generationKind = .compact then
    match row.ownerState, row.sourceKind with
    | .owned, .overlay => .ok (some row)
    | .tombstone, .tombstone => (validateManifest row rows owner).map fun _ => none
    | _, _ => .error ⟨"compact manifest owner/source metadata is invalid"⟩
  else (validateManifest row rows owner).map fun _ => none

def lineageManifests (db : Db) (artifact : Artifact) (rows : List Generation)
    (keys : List String) : List (Generation × Manifest) :=
  rows.flatMap fun g => keys.filterMap fun key =>
    (db.manifest? g.generationId artifact key).map fun row => (g, row)

def nearestManifest (db : Db) (artifact : Artifact) (key : String) :
    Nat → List Generation → Option (Nat × Generation × Manifest)
  | _, [] => none
  | hop, g :: rest =>
    match db.manifest? g.generationId artifact key with
    | some row => some (hop, g, row)
    | none => nearestManifest db artifact key (hop + 1) rest

def OwnerState.resolved : OwnerState → ResolvedOwner
  | .owned => .owned
  | .tombstone => .tombstone

def resolveKey (db : Db) (artifact : Artifact) (rows : List Generation) (key : String) :
    PartitionResolution :=
  match nearestManifest db artifact key 0 rows with
  | none => legacyFallback artifact (rows.map Generation.generationId) key
  | some (hop, owner, row) =>
    { artifact
      partitionKey := key
      nearestManifestOwnerGeneration := some owner.generationId
      actualDataGenerationId := row.dataGenerationId
      sourceKind := row.sourceKind
      ownerState := row.ownerState.resolved
      lineageDepth := hop
      lineageGenerationIds := rows.map Generation.generationId }

/-- An ordinary owner that claims overlay rows has them; those of the terminal compaction are
proved with its provenance. -/
def checkOverlayRows (db : Db) (artifact : Artifact) (rows : List Generation) (key : String) :
    Except LineageError Unit :=
  match nearestManifest db artifact key 0 rows with
  | none => .ok ()
  | some (_, owner, row) =>
    match row.sourceKind, row.dataGenerationId with
    | .overlay, some data =>
      ensure (owner.generationKind = .compact ||
        row.rowCount ≤ db.presentCount data artifact key)
        "overlay ownership requires missing data rows"
    | _, _ => .ok ()

def openTerminal (db : Db) (rows : List Generation) (ctx : ProvenanceContext) :
    Except LineageError ProvenanceContext :=
  match terminalCompact? rows with
  | none => .ok ctx
  | some terminal => (verifiedClosure db provenanceFuel [] ctx terminal.generationId
      inheritedCompactStates).map Prod.snd

def resolveLineage (db : Db) (artifact : Artifact) (keys : List String) (pinned : String)
    (head : Generation) (rows : List Generation) (ctx : ProvenanceContext) :
    Except LineageError (List PartitionResolution × ProvenanceContext) := do
  checkLineage pinned head rows
  let ctx ← openTerminal db rows ctx
  let claims ← (lineageManifests db artifact rows keys).mapM fun entry =>
    (checkManifestRow rows entry.1 entry.2).map fun claim =>
      claim.map fun row => (entry.1.generationId, row.partitionKey, row)
  let ctx ← verifyClaimsWhen (terminalCompact? rows).isSome db artifact ctx (claims.filterMap id)
  keys.forM (checkOverlayRows db artifact rows)
  return (keys.map (resolveKey db artifact rows), ctx)

/-- `resolve_projection_partitions`; a caller may share its provenance context. -/
def resolveProjectionPartitions (db : Db) (artifact : Artifact) (partitionKeys : List String)
    (pinned : Option String) (ctx : ProvenanceContext) :
    Except LineageError (List PartitionResolution × ProvenanceContext) := do
  let keys ← boundedPartitionKeys 0 [] partitionKeys
  if keys.isEmpty then return ([], ctx)
  else match pinned with
  | none => return (keys.map (legacyFallback artifact []), ctx)
  | some pinned =>
    match lineageRows db (maxLineageDepth + 1) (some pinned) with
    | [] => .error ⟨"pinned generation does not exist"⟩
    | head :: rest =>
      if head.generationKind = .compact then do
        ensure rest.isEmpty "compact head must not have an ordinary base chain"
        resolveCompactPartitions db artifact keys head ctx
      else resolveLineage db artifact keys pinned head (head :: rest) ctx

end DyData.Projection
