import DyData.HeavyQueueRows

/-!
The rows of the settlement projection: generations, the active pointer, partition manifests,
the provenance of compactions and the overlay rows a manifest counts.  Every generation has
`projection_name = 'settlement'`, which the table checks, so the column is not repeated.
-/

namespace DyData.Projection

open Relational
open DyData.HeavyQueue (JobRun JobEvent Timestamp)

inductive GenerationKind
  | lineage | legacyRoot | compact
deriving DecidableEq

inductive GenerationState
  | staging | ready | published | failed | superseded
deriving DecidableEq

/-- `ck_settlement_projection_generation_kind_base_depth`. -/
def kindBaseDepth (kind : GenerationKind) (base compactionBase : Option String)
    (depth : Nat) : Bool :=
  match kind with
  | .lineage => compactionBase.isNone
  | .legacyRoot => base.isNone && depth = 0 && compactionBase.isNone
  | .compact => base.isNone && depth = 0 && compactionBase.isSome

/-- `settlement_projection_generation`. -/
structure Generation where
  generationId : String
  baseGenerationId : Option String := none
  generationKind : GenerationKind := .lineage
  compactionBaseGenerationId : Option String := none
  state : GenerationState := .staging
  inputFingerprint : String
  lineageDepth : Nat := 0
  estimatedWriteRows : Int := 0
  estimatedWriteBytes : Int := 0
  estimatedWalBytes : Int := 0
  estimatedDiskHeadroomBytes : Int := 0
  checkpointJson : JsonValue := .obj []
  lastKey : Option String := none
  manifestChecksum : Option String := none
  sourceJobId : Option String := none
  sourceInputJson : JsonValue := .obj []
  publishedAt : Option Timestamp := none
  kindCheck : kindBaseDepth generationKind baseGenerationId compactionBaseGenerationId
    lineageDepth = true := by rfl

/-- A legacy root passes the check of its kind. -/
theorem kindBaseDepth_legacyRoot : kindBaseDepth .legacyRoot none none 0 = true := rfl

namespace Generation

/-- The head the generation was built on: the base of a lineage, and the merged head of a
compaction, which itself has no base. -/
def recordedBase (g : Generation) : Option String :=
  match g.generationKind with
  | .compact => g.compactionBaseGenerationId
  | .lineage | .legacyRoot => g.baseGenerationId

def publish (now : Timestamp) (g : Generation) : Generation :=
  { g with state := .published, publishedAt := some now }

theorem publish_generationId (now : Timestamp) (g : Generation) :
    (g.publish now).generationId = g.generationId := rfl

theorem publish_inputFingerprint (now : Timestamp) (g : Generation) :
    (g.publish now).inputFingerprint = g.inputFingerprint := rfl

/-- A generation that is not a compaction records its base in `base_generation_id`. -/
theorem recordedBase_of_base {g : Generation} {base : String}
    (h : g.baseGenerationId = some base) : g.recordedBase = some base := by
  have hchk := g.kindCheck
  unfold recordedBase
  cases hkind : g.generationKind with
  | lineage => exact h
  | legacyRoot => exact h
  | compact => simp [kindBaseDepth, hkind, h] at hchk

end Generation

inductive Artifact
  | monthly | ranking | score
deriving DecidableEq

inductive OwnerState
  | owned | tombstone
deriving DecidableEq

inductive SourceKind
  | overlay | legacyRoot | tombstone
deriving DecidableEq

/-- `ck_settlement_projection_manifest_source_invariants`. -/
def sourceInvariants (ownerState : OwnerState) (sourceKind : SourceKind)
    (dataGenerationId : Option String) (rowCount : Nat) : Bool :=
  match ownerState, sourceKind with
  | .owned, .overlay => dataGenerationId.isSome
  | .owned, .legacyRoot => dataGenerationId.isNone
  | .tombstone, .tombstone => dataGenerationId.isNone && rowCount = 0
  | .owned, .tombstone | .tombstone, .overlay | .tombstone, .legacyRoot => false

/-- `settlement_projection_partition_manifest`.  The status counts are kept in the order of
their names, as the stored document has them. -/
structure Manifest where
  generationId : String
  artifact : Artifact
  partitionKey : String
  ownerState : OwnerState := .owned
  sourceKind : SourceKind := .overlay
  dataGenerationId : Option String
  referenceHeadGenerationId : Option String := none
  baseGenerationId : Option String := none
  rowCount : Nat := 0
  amountTotalCent : Int := 0
  statusCountsJson : List (String × Nat) := []
  checksum : Option String := none
  lastKey : Option String := none
  sourceCheck : sourceInvariants ownerState sourceKind dataGenerationId rowCount = true := by rfl
  referenceCheck : referenceHeadGenerationId = none ∨
    (referenceHeadGenerationId = some generationId ∧ sourceKind = .overlay) := by simp
deriving DecidableEq

def Manifest.identity (m : Manifest) : String × Artifact × String :=
  (m.generationId, m.artifact, m.partitionKey)

/-- `settlement_projection_compaction_closure`. -/
structure ClosureRow where
  compactGenerationId : String
  sourceGenerationId : String
  sourceDigest : String
deriving DecidableEq

def ClosureRow.identity (r : ClosureRow) : String × String :=
  (r.compactGenerationId, r.sourceGenerationId)

structure OverlayRow where
  generationId : String
  artifact : Artifact
  partitionKey : String
deriving DecidableEq

/-- `active` is the row of `settlement_projection_active`, absent or with a nullable pointer. -/
structure Db where
  generations : Table Generation.generationId
  active : Option (Option String)
  manifests : Table Manifest.identity
  closure : Table ClosureRow.identity
  overlays : List OverlayRow
  jobs : Table JobRun.jobId
  events : List JobEvent
  fingerprints : (generations.rows.map Generation.inputFingerprint).Nodup

namespace Db

/-- The published generations keep their rows from `db` to `db'`, and no row became
published. -/
def SamePublished (db db' : Db) : Prop :=
  ∀ id g, g.state = .published →
    (db.generations.get? id = some g ↔ db'.generations.get? id = some g)

theorem SamePublished.refl (db : Db) : db.SamePublished db := fun _ _ _ => Iff.rfl

def updateGenerations (db : Db) (p : Generation → Bool) (f : Generation → Generation)
    (hid : ∀ g, (f g).generationId = g.generationId)
    (hfingerprint : ∀ g, (f g).inputFingerprint = g.inputFingerprint) : Db :=
  { db with
    generations := db.generations.update p f hid
    fingerprints := by
      rw [Table.map_update _ _ _ _ hfingerprint]
      exact db.fingerprints }

def promote (db : Db) (generationId : String) (now : Timestamp) : Db :=
  { db.updateGenerations (fun g => g.generationId = generationId) (.publish now)
      (Generation.publish_generationId now) (Generation.publish_inputFingerprint now) with
    active := some (some generationId) }

section Promote

variable (db : Db) (generationId : String) (now : Timestamp)

theorem get?_promote (id : String) : (db.promote generationId now).generations.get? id =
      (db.generations.get? id).map fun g => if g.generationId = generationId then g.publish now else g := by
  change (db.generations.update (fun g => g.generationId = generationId) (.publish now)
    (Generation.publish_generationId now)).get? id = _
  rw [Table.get?_update]
  simp only [decide_eq_true_eq]

end Promote

theorem generation_unique (db : Db) {g h : Generation} (hg : g ∈ db.generations.rows)
    (hh : h ∈ db.generations.rows) (hsame : g.inputFingerprint = h.inputFingerprint) : g = h :=
  List.inj_on_of_nodup_map db.fingerprints hg hh hsame

end Db

def isLowerHex64 (value : String) : Bool :=
  value.length = 64 && value.toList.all fun c =>
    ('0' ≤ c && c ≤ '9') || ('a' ≤ c && c ≤ 'f')

end DyData.Projection
