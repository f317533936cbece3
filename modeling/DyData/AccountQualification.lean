import DyData.ExceptBind
import DyData.JsonValue
import DyData.LatestRegister
import DyData.PythonText
import DyData.RelationalTable

/-!
The qualification of the accounts at the end of a month.  Collections are observations that end once;
after the month its last observation is frozen as the version of the month, if it is complete and
fresh and nothing of the last day casts doubt on it.
-/

namespace DyData.Qualification

open Relational
open Except (ofOption ensure)

/-- Microseconds. -/
abbrev Timestamp := Int

def policyVersion : String := "settlement-monthend-cn-v2"

def firstMonth : String := "2026-10"

def hour : Timestamp := 3600 * 1000000

def maxAge : Timestamp := 2 * hour

def maxAutomaticMonthAttempts : Nat := 8

def maxSnapshotBytes : Nat := 8 * 1024 * 1024

/-! ### Binding records -/

/-- A record of a collection; the cells of its source row are given by their text. -/
structure BindingRecord where
  rawPayload : List (String × Option String)
  accountId : Option String
  douyinId : Option String
  poiId : Option String
deriving DecidableEq

structure BindingRecords where
  records : List BindingRecord
  proof : List (String × JsonValue) := []
  sourceType : String := "unknown"

structure CanonicalRecord where
  accountId : Option String
  douyinId : Option String
  douyinUid : Option String
  poiId : Option String
  accountType : String
  bindingStatus : String
  rawPayload : List (String × Option String)
  reasonCodes : List String
deriving DecidableEq

/-- What the qualification takes from outside: the calendar of Shanghai and the digests. -/
structure Platform where
  /-- The end of a month; none if the text is no month. -/
  cutoff : String → Option Timestamp
  /-- The month of an instant. -/
  monthOf : Timestamp → String
  /-- The digest of a record, by which records are sorted. -/
  recordDigest : CanonicalRecord → String
  /-- The digest of the encoded records under the policy, and the size of the encoding. -/
  contentDigest : List CanonicalRecord → String
  encodedSize : List CanonicalRecord → Nat
  /-- The digest of month, observation, content and policy. -/
  versionDigest : String → String → String → String → String

inductive QualificationError
  | refused (code : String)
  | valueError
  | integrityError (constraint : String)
deriving DecidableEq

def BindingRecord.cell? (r : BindingRecord) (name : String) : Option String :=
  ((r.rawPayload.find? fun entry => entry.1 = name).bind Prod.snd).filter (· ≠ "")

def BindingRecord.hasColumn (r : BindingRecord) (name : String) : Bool :=
  r.rawPayload.any fun entry => entry.1 = name

/-- `field(*keys)`. -/
def BindingRecord.field (r : BindingRecord) (names : List String) :
    Except QualificationError (Option String) :=
  match ((names.filterMap r.cell?).map PythonText.strip).dedup with
  | [] => .ok none
  | [value] => .ok (some value)
  | _ => .error (.refused "conflicting_source_fields")

/-- `[+-]?\d+(?:\.\d+)?`. -/
def isNumeric (text : String) : Bool :=
  let unsigned := match text.toList with
    | '+' :: rest => rest
    | '-' :: rest => rest
    | chars => chars
  let whole := unsigned.takeWhile Char.isDigit
  match unsigned.dropWhile Char.isDigit with
  | [] => !whole.isEmpty
  | '.' :: fraction => !whole.isEmpty && !fraction.isEmpty && fraction.all Char.isDigit
  | _ => false

def eligibleTypes : List String := ["子机构门店号", "子机构区域号"]

def successfulStatus : String := "认证成功"

def BindingRecord.hasChineseColumns (r : BindingRecord) : Bool :=
  ["账号类型", "账户类型"].any r.hasColumn && ["抖音号绑定状态", "绑定状态"].any r.hasColumn

/-- The type and the certification are texts of the contract. -/
def BindingRecord.followsContract (r : BindingRecord) (kind status : String) : Bool :=
  !isNumeric kind && !isNumeric status &&
    (r.hasChineseColumns || eligibleTypes.contains kind && status = successfulStatus)

def reasonsOf (kind status : String) : List String :=
  (if eligibleTypes.contains kind then [] else ["account_type_not_eligible"]) ++
    if status = successfulStatus then [] else ["certification_not_successful"]

/-- One record of `canonical_records`. -/
def BindingRecord.canonical (r : BindingRecord) : Except QualificationError CanonicalRecord := do
  let kind ← r.field ["账号类型", "账户类型", "account_type"]
  let status ← r.field ["抖音号绑定状态", "绑定状态", "binding_status"]
  let contract := QualificationError.refused "unknown_type_or_certification_contract"
  let kind ← ofOption kind contract
  let status ← ofOption status contract
  ensure (r.followsContract kind status) contract
  let reasons := reasonsOf kind status
  let account ← r.field ["账户所属id", "账户所属ID", "所属账户id", "所属账户ID", "account_id"]
  let parsed := (r.accountId.map PythonText.strip).filter (· ≠ "")
  ensure (account = parsed && (account.isSome || !reasons.isEmpty))
    (.refused "source_account_identity_missing_or_conflicting")
  let uid ← r.field ["douyin_uid"]
  return {
    accountId := account
    douyinId := r.douyinId
    douyinUid := uid
    poiId := r.poiId
    accountType := kind
    bindingStatus := status
    rawPayload := r.rawPayload
    reasonCodes := reasons ++ if account.isNone then ["nonqualifying_record_without_account_id"]
      else [] }

abbrev Identity := Option String × Option String × Option String × String

def CanonicalRecord.identity? (r : CanonicalRecord) : Option Identity :=
  if [r.accountId, r.douyinId, r.poiId].any fun part => part.any (· ≠ "") then
    some (r.accountId, r.douyinId, r.poiId, r.accountType)
  else none

section

variable (env : Platform)

/-- A record joins the canonical ones; no two of them share an identity. -/
def joinCanonical (rows : List CanonicalRecord) (record : BindingRecord) :
    Except QualificationError (List CanonicalRecord) := do
  let row ← record.canonical
  ensure (!row.identity?.any fun identity =>
      (rows.filterMap CanonicalRecord.identity?).contains identity)
    (.refused "duplicate_or_conflicting_binding_identity")
  return rows ++ [row]

def canonicalRecords (records : List BindingRecord) :
    Except QualificationError (List CanonicalRecord) := do
  let rows ← records.foldlM joinCanonical []
  return rows.insertionSort fun a b => env.recordDigest a ≤ env.recordDigest b

/-! ### The tables -/

inductive ObservationState
  | running | success | failed
deriving DecidableEq

/-- `account_qualification_observation`. -/
structure Observation where
  observationId : String
  sourceRunId : String
  sourceType : String := "backend_export"
  startedAt : Timestamp
  endedAt : Option Timestamp := none
  state : ObservationState := .running
  complete : Bool := false
  contentSha256 : Option String := none
  proof : List (String × JsonValue) := []
  errorCode : Option String := none

/-- `account_qualification_snapshot`. -/
structure Snapshot where
  contentSha256 : String
  records : List CanonicalRecord
  policyVersion : String

/-- `account_qualification_version`. -/
structure Version where
  versionId : String
  businessMonth : String
  cutoffAt : Timestamp
  observationId : String
  contentSha256 : String
  policyVersion : String
  frozenAt : Timestamp
deriving DecidableEq

structure Db where
  observations : Table Observation.observationId := .empty
  snapshots : Table Snapshot.contentSha256 := .empty
  versions : Table Version.businessMonth := .empty

/-! ### Observations -/

/-- `start_observation`; `identity` is the new identifier. -/
def Db.startObservation (db : Db) (identity sourceRunId : String) (startedAt : Timestamp)
    (proof : List (String × JsonValue)) : Except QualificationError Db := do
  let observations ← ofOption
    (db.observations.insert? { observationId := identity, sourceRunId, startedAt, proof })
    (.integrityError "account_qualification_observation_pkey")
  return { db with observations }

/-- The end of the month of an instant inside the window of automatic captures. -/
def captureCutoff? (current : Timestamp) : Option Timestamp :=
  if env.monthOf current < firstMonth then none
  else (env.cutoff (env.monthOf current)).filter fun cutoff =>
    cutoff - maxAge ≤ current && current < cutoff

def Observation.captureMode (o : Observation) : Option String :=
  ((JsonValue.obj o.proof).get? "capture_mode").bind JsonValue.asString?

def Db.automaticAttempts (db : Db) (cutoff : Timestamp) : List Observation :=
  db.observations.rows.filter fun o => cutoff - maxAge ≤ o.startedAt && o.startedAt < cutoff &&
    o.captureMode = some "automatic"

def budgetMarkerId (month : String) : String := "account-observation-budget-" ++ month

def budgetMarker (month sourceRunId : String) (current : Timestamp) : Observation where
  observationId := budgetMarkerId month
  sourceRunId
  startedAt := current
  endedAt := some current
  state := .failed
  proof := [("capture_mode", .str "automatic_budget"), ("business_month", .str month),
    ("maximum_attempts", .num maxAutomaticMonthAttempts)]
  errorCode := some "monthend_capture_budget_exhausted"

structure CaptureAdmission where
  observationId : Option String := none
  blockedReason : Option String := none
deriving DecidableEq

def Db.beginAutomaticObservation (db : Db) (identity sourceRunId : String)
    (startedAt : Timestamp) : Except QualificationError (Db × CaptureAdmission) :=
  match captureCutoff? env startedAt with
  | none => .ok (db, {})
  | some cutoff =>
    let month := env.monthOf startedAt
    let exhausted := db.observations.get? (budgetMarkerId month)
    if exhausted.isSome || maxAutomaticMonthAttempts ≤ (db.automaticAttempts cutoff).length then
      .ok ({ db with
        observations := if exhausted.isSome then db.observations
          else db.observations.put (budgetMarker month sourceRunId startedAt) },
        { blockedReason := some "monthend_capture_budget_exhausted" })
    else do
      let db ← db.startObservation identity sourceRunId startedAt
        [("capture_mode", .str "automatic"), ("business_month", .str month)]
      return (db, { observationId := some identity })

def Db.update (db : Db) (o : Observation) : Db :=
  { db with
    observations := db.observations.update (fun row => row.observationId = o.observationId)
      (fun row => { o with observationId := row.observationId }) fun _ => rfl }

/-- `proof.get("record_count") == count`. -/
def provesCount (proof : List (String × JsonValue)) (count : Nat) : Bool :=
  match (JsonValue.obj proof).get? "record_count" with
  | some (.num n) => n = count
  | some (.bool b) => b.toNat = count
  | _ => false

/-- The collection is over and its proof says that nothing is missing. -/
def isCompleteCollection (o : Observation) (endedAt : Timestamp) (proof : List (String × JsonValue))
    (count : Nat) : Bool :=
  o.startedAt ≤ endedAt && (((JsonValue.obj proof).get? "complete").any JsonValue.truthy) &&
    provesCount proof count

def collected (o : Observation) (batch : BindingRecords) (endedAt : Timestamp)
    (proof : List (String × JsonValue)) : Except QualificationError (List CanonicalRecord) := do
  ensure (isCompleteCollection o endedAt proof batch.records.length)
    (.refused "incomplete_collection")
  canonicalRecords env batch.records

def QualificationError.code : QualificationError → String
  | refused code => code
  | valueError => "valueError"
  | integrityError constraint => constraint

/-- `complete_observation`: a collection that proves too little ends the observation as failed. -/
def Db.completeObservation (db : Db) (observationId : String) (batch : BindingRecords)
    (endedAt : Timestamp) : Except QualificationError Db := do
  let found ← ofOption ((db.observations.get? observationId).filter fun o =>
    o.state = .running) (.refused "observation_not_running")
  let proof := JsonValue.updateFields batch.proof found.proof
  let o := { found with sourceType := batch.sourceType, endedAt := some endedAt, proof }
  match collected env o batch endedAt proof with
  | .error e => return db.update { o with
      state := .failed, complete := false, errorCode := some e.code }
  | .ok records =>
    if maxSnapshotBytes < env.encodedSize records then
      return db.update { o with
        state := .failed
        complete := false
        errorCode := some "qualification_snapshot_size_limit"
        proof := JsonValue.updateFields proof [("snapshot_bytes", .num (env.encodedSize records)),
          ("maximum_snapshot_bytes", .num maxSnapshotBytes)] }
    else
      let content := env.contentDigest records
      let snapshot : Snapshot := { contentSha256 := content, records, policyVersion }
      return { db.update { o with
          contentSha256 := some content, state := .success, complete := true } with
        snapshots := if (db.snapshots.get? content).isSome then db.snapshots
          else db.snapshots.put snapshot }

def Db.failObservation (db : Db) (observationId errorCode : String) (endedAt : Timestamp) : Db :=
  match (db.observations.get? observationId).filter fun o => o.state = .running with
  | none => db
  | some o => db.update { o with
      state := .failed
      complete := false
      endedAt := some endedAt
      errorCode := some (String.ofList (errorCode.toList.take 128)) }

/-! ### Freezing a month -/

/-- The observations that started on the last day of the month. -/
def Db.lastDay (db : Db) (cutoff : Timestamp) : List Observation :=
  db.observations.rows.filter fun o => cutoff - 24 * hour ≤ o.startedAt && o.startedAt < cutoff

def Observation.startRank (o : Observation) : Timestamp ×ₗ String := toLex (o.startedAt, o.observationId)

/-- By end, an open one at the cutoff, then by start and identifier. -/
def Observation.endRank (cutoff : Timestamp) (o : Observation) :
    Timestamp ×ₗ (Timestamp ×ₗ String) :=
  toLex (o.endedAt.getD cutoff, o.startRank)

/-- The observation is a success inside the last two hours. -/
def Observation.isFresh (o : Observation) (cutoff : Timestamp) : Bool :=
  o.state = .success && o.complete && o.contentSha256.isSome &&
    o.endedAt.any (fun ended => ended < cutoff && cutoff - maxAge ≤ ended) &&
    cutoff - maxAge ≤ o.startedAt

def Db.monthEnd (db : Db) (cutoff : Timestamp) : Except QualificationError Observation := do
  let rows := db.lastDay cutoff
  let missing := QualificationError.refused "monthend_observation_missing"
  let latestStarted ← ofOption (LatestRegister.writeAll Observation.startRank none rows) missing
  let last ← ofOption (LatestRegister.writeAll (Observation.endRank cutoff) none rows) missing
  ensure (latestStarted.state = .success && last.isFresh cutoff &&
      !rows.any fun o => o.state = .running)
    (.refused "monthend_latest_attempt_not_complete_or_fresh")
  return last

def Db.freezeMonth (db : Db) (month : String) (now : Timestamp) :
    Except QualificationError (Db × Version) := do
  ensure (!decide (month < firstMonth)) (.refused "legacy_month_has_no_qualification_version")
  let cutoff ← ofOption (env.cutoff month) .valueError
  ensure (cutoff ≤ now) (.refused "month_not_finished")
  match db.versions.get? month with
  | some existing => return (db, existing)
  | none =>
    let last ← db.monthEnd cutoff
    let content := last.contentSha256.getD ""
    let snapshot ← ofOption (db.snapshots.get? content)
      (.refused "qualification_snapshot_missing")
    let version : Version := {
      versionId := "account-month-" ++
        env.versionDigest month last.observationId content snapshot.policyVersion
      businessMonth := month
      cutoffAt := cutoff
      observationId := last.observationId
      contentSha256 := content
      policyVersion := snapshot.policyVersion
      frozenAt := now }
    ensure (!db.versions.rows.any fun v => v.versionId = version.versionId)
      (.integrityError "account_qualification_version_pkey")
    return ({ db with versions := db.versions.put version }, version)

/-! ### Runs -/

inductive Action
  | beginAutomatic (identity sourceRunId : String) (startedAt : Timestamp)
  | start (identity sourceRunId : String) (startedAt : Timestamp)
      (proof : List (String × JsonValue))
  | complete (observationId : String) (batch : BindingRecords) (endedAt : Timestamp)
  | fail (observationId errorCode : String) (endedAt : Timestamp)
  | freeze (month : String) (now : Timestamp)

def Db.tryAct (db : Db) : Action → Except QualificationError Db
  | .beginAutomatic identity sourceRunId startedAt =>
    (db.beginAutomaticObservation env identity sourceRunId startedAt).map Prod.fst
  | .start identity sourceRunId startedAt proof =>
    db.startObservation identity sourceRunId startedAt proof
  | .complete observationId batch endedAt => db.completeObservation env observationId batch endedAt
  | .fail observationId errorCode endedAt => .ok (db.failObservation observationId errorCode endedAt)
  | .freeze month now => (db.freezeMonth env month now).map Prod.fst

/-- A transaction that raises is rolled back. -/
def Db.act (db : Db) (action : Action) : Db :=
  match db.tryAct env action with
  | .ok db' => db'
  | .error _ => db

def Db.run (db : Db) (actions : List Action) : Db := actions.foldl (Db.act env) db

end

end DyData.Qualification
