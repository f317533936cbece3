import DyData.ExceptBind
import DyData.MaterializationQueue
import DyData.PythonText
import DyData.RelationalTable

/-!
The raw records of the collection: orders, coupons, verification records, refunds and the stores of
the POIs.  An observation of a record is applied when it is newer than the row; every change of the
canonical values of a row is captured as an impact with a work item of the materialization.
-/

namespace DyData.RawRecords

open Relational Materialization
open Except (ensure)

inductive Entity
  | order | coupon | verify | refund | storePoiMapping
deriving DecidableEq

/-- `entity_type`. -/
def Entity.name : Entity → String
  | order => "order"
  | coupon => "coupon"
  | verify => "verify"
  | refund => "refund"
  | storePoiMapping => "store_poi_mapping"

/-- The columns of the five tables, and the status that `_canonical_values` adds. -/
inductive Field
  | orderId | couponId | verifyId | refundEventId | poiId | storeId
  | orderStatus | orderStatusRaw | orderStatusNormalized | skuId | productName | payTime | saleTime
  | createOrderTime | paidAmountCent | orderPaidAmountCent | ownerAccountId | ownerDouyinUid
  | ownerAccountName | saleRole | saleChannel | saleChannelRaw | saleChannelNormalized
  | intentionPoiId
  | rawOrderId | orderItemId | couponStatus | couponStatusRaw | couponStatusNormalized
  | couponPaidAmountCent | couponUpdatedAt | couponRefundedCent | couponRefundedAmountCent
  | couponRefundTime | latestRefundAt
  | verifyStatus | verifyTime | verifyStoreNameRaw | cancelTime | verifyStatusNormalized
  | refundType | refundStatus | refundAmountCent | occurredAt | successfulObservedAt
  | poiName | mappingSource | isPrimary
  | sourceRunId | payloadFingerprint | sourceObservedAt | observationKey | createdAt | updatedAt
deriving DecidableEq

inductive Value
  | null
  | text (s : String)
  | int (n : Int)
  | bool (b : Bool)
  | instant (t : Timestamp)
deriving DecidableEq

abbrev Payload := String

/-! ### The tables -/

def Entity.keyField : Entity → Field
  | order => .orderId
  | coupon => .couponId
  | verify => .verifyId
  | refund => .refundEventId
  | storePoiMapping => .poiId

/-- The columns outside `_AUDIT_FIELDS`, the key apart. -/
def Entity.businessFields : Entity → List Field
  | order => [.orderStatus, .orderStatusRaw, .orderStatusNormalized, .skuId, .productName, .payTime,
      .saleTime, .createOrderTime, .paidAmountCent, .orderPaidAmountCent, .ownerAccountId,
      .ownerDouyinUid, .ownerAccountName, .saleRole, .saleChannel, .saleChannelRaw,
      .saleChannelNormalized, .intentionPoiId]
  | coupon => [.orderId, .rawOrderId, .orderItemId, .couponStatus, .couponStatusRaw,
      .couponStatusNormalized, .couponPaidAmountCent, .couponUpdatedAt, .couponRefundedCent,
      .couponRefundedAmountCent, .couponRefundTime, .latestRefundAt]
  | verify => [.couponId, .verifyStatus, .verifyTime, .poiId, .verifyStoreNameRaw, .skuId,
      .productName, .paidAmountCent, .cancelTime]
  | refund => [.orderId, .couponId, .refundType, .refundStatus, .refundAmountCent, .occurredAt,
      .successfulObservedAt]
  | storePoiMapping => [.storeId, .poiName, .mappingSource, .isPrimary]

/-- The table has `created_at` and `updated_at`. -/
def Entity.isStamped : Entity → Bool
  | order | refund => true
  | _ => false

def Entity.hasRawPayload : Entity → Bool
  | storePoiMapping => false
  | _ => true

def Entity.columns (e : Entity) : List Field :=
  e.businessFields ++ [.sourceRunId, .payloadFingerprint, .sourceObservedAt, .observationKey] ++
    if e.isStamped then [.createdAt, .updatedAt] else []

def Entity.notNull : Entity → List Field
  | order => [.orderPaidAmountCent, .createdAt, .updatedAt]
  | coupon => [.orderId, .rawOrderId, .couponRefundedAmountCent]
  | verify => []
  | refund => [.orderId, .refundType, .refundStatus, .refundAmountCent, .occurredAt, .createdAt,
      .updatedAt]
  | storePoiMapping => [.storeId, .isPrimary]

def Entity.default (e : Entity) (clock : Timestamp) (f : Field) : Value :=
  match e, f with
  | .order, .orderPaidAmountCent => .int 0
  | .coupon, .couponRefundedAmountCent => .int 0
  | .refund, .refundAmountCent => .int 0
  | .storePoiMapping, .isPrimary => .bool false
  | .order, .createdAt => .instant clock
  | .order, .updatedAt => .instant clock
  | .refund, .createdAt => .instant clock
  | .refund, .updatedAt => .instant clock
  | _, _ => .null

def Entity.canonicalFields : Entity → List Field
  | order => [.orderId, .orderStatusNormalized, .skuId, .productName, .payTime, .saleTime,
      .createOrderTime, .paidAmountCent, .orderPaidAmountCent, .ownerAccountId, .ownerDouyinUid,
      .ownerAccountName, .saleRole, .saleChannelNormalized, .intentionPoiId]
  | coupon => [.couponId, .orderId, .orderItemId, .couponStatusNormalized, .couponPaidAmountCent,
      .couponUpdatedAt, .couponRefundedCent, .couponRefundedAmountCent, .couponRefundTime,
      .latestRefundAt]
  | verify => [.verifyId, .couponId, .verifyTime, .poiId, .verifyStoreNameRaw, .skuId,
      .productName, .paidAmountCent, .cancelTime]
  | refund => [.refundEventId, .orderId, .couponId, .refundType, .refundStatus, .refundAmountCent,
      .occurredAt]
  | storePoiMapping => [.storeId, .poiId, .poiName, .isPrimary]

/-- `_STALE_SAFE_AUDIT_FIELDS`, those that are columns here. -/
def Field.isStaleSafe : Field → Bool
  | sourceRunId | updatedAt => true
  | _ => false

structure Row where
  entity : Entity
  key : String
  id : Nat
  columns : Field → Value
  rawPayload : Payload

structure Values where
  fields : List (Field × Value) := []
  rawPayload : Option Payload := none

def Values.has (v : Values) (f : Field) : Bool := v.fields.any fun entry => entry.1 = f

/-- `values.get(f)`. -/
def Values.get (v : Values) (f : Field) : Value :=
  ((v.fields.find? fun entry => entry.1 = f).map Prod.snd).getD .null

/-- `{**defaults, **values}`. -/
def Values.over (v : Values) (defaults : List (Field × Value)) : Values :=
  { v with fields := v.fields ++ defaults }

def Value.instant? : Value → Option Timestamp
  | instant t => some t
  | _ => none

def Value.text? : Value → Option String
  | text s => some s
  | _ => none

def Row.get (row : Row) (f : Field) : Value :=
  if f = row.entity.keyField then .text row.key else row.columns f

def Row.observedAt (row : Row) : Option Timestamp := (row.columns .sourceObservedAt).instant?

def Row.observationKey (row : Row) : Option String := (row.columns .observationKey).text?

def Values.observedAt (v : Values) : Option Timestamp := (v.get .sourceObservedAt).instant?

def Values.observationKey (v : Values) : Option String := (v.get .observationKey).text?

/-! ### Changes -/

/-- `affected_closure_json`, without the entries of the clues. -/
structure Closure where
  orderIds : List String := []
  couponIds : List String := []
  poiIds : List String := []
  storeIds : List String := []
  saleMonths : List String := []
  verifyMonths : List String := []
  refundMonths : List String := []
  affectedMonths : List String := []
deriving DecidableEq

abbrev Canonical := List (Field × Value)

/-- `digest_payload`. -/
structure Change where
  entity : Entity
  entityKey : String
  before : Canonical
  after : Canonical
  closure : Closure
  observationKey : Option String
  sourceObservedAt : Option Timestamp
deriving DecidableEq

/-- What the records take from outside: the calendar, the times in a source document and the
digests. -/
structure Platform where
  /-- `source_datetime(get_path(payload, path))`. -/
  sourceTime : Payload → String → Option Timestamp
  /-- `payload_fingerprint`. -/
  fingerprint : Payload → String
  isoformat : Timestamp → String
  /-- The digest of the `impact_key`. -/
  digest : Change → String

inductive UpsertError
  | typeError
  | attributeError (name : String)
  | valueError (message : String)
  | integrityError (constraint : String)
  | queue (error : QueueError)
deriving DecidableEq

section

variable (env : Platform)

def jsonSafe : Value → Value
  | .instant t => .text (env.isoformat t)
  | v => v

def normalizeVerifyStatus (value cancelTime : Value) : String :=
  let normalized := String.ofList ((PythonText.strip (value.text?.getD "")).toList.map fun c =>
    if c.toLower = '-' then '_' else c.toLower)
  if cancelTime ≠ .null || ["2", "cancelled", "canceled", "revoked", "reversed", "refunded"].contains
      normalized then "cancelled"
  else if ["1", "valid", "verified", "success", "fulfilled", "used"].contains normalized then
    "verified"
  else "unknown"

def Row.canonicalValues (row : Row) : Canonical :=
  row.entity.canonicalFields.map (fun f => (f, jsonSafe env (row.get f))) ++
    if row.entity = .verify then [(.verifyStatusNormalized, .text (normalizeVerifyStatus
      (row.columns .verifyStatus) (row.columns .cancelTime)))]
    else []

/-! ### Which observation is newer -/

def latestSourceTime (payload : Payload) (paths : List String) : Option Timestamp :=
  (paths.filterMap (env.sourceTime payload)).max?

def Entity.sourcePaths : Entity → Option (List String)
  | order => some ["update_order_time", "modify_time", "update_time", "updated_at"]
  | coupon => some ["coupon_updated_at", "item_update_time", "update_time", "updated_at",
      "refund_time"]
  | verify => some ["modify_time", "update_time", "updated_at", "cancel_time", "verify_time"]
  | _ => none

def Entity.eventFields : Entity → List Field
  | order => [.payTime, .saleTime, .createOrderTime]
  | coupon => [.couponUpdatedAt, .latestRefundAt, .couponRefundTime]
  | verify => [.cancelTime, .verifyTime]
  | refund => [.successfulObservedAt, .occurredAt]
  | storePoiMapping => []

/-- `raw_payload or {}`. -/
def Row.document (row : Row) : Payload :=
  if ["null", "false", "0", "\"\"", "[]", "{}"].contains row.rawPayload then "{}"
  else row.rawPayload

def Row.eventTimes (row : Row) : List Timestamp :=
  row.entity.eventFields.filterMap fun f => (row.columns f).instant?

/-- `_legacy_observation_lower_bound`; `parentUpdatedAt` is read for coupons only. -/
def Row.legacyObservationLowerBound (row : Row) (parentUpdatedAt : Option Timestamp) :
    Option Timestamp :=
  match row.entity.sourcePaths.bind (latestSourceTime env row.document) with
  | some version => (version :: row.eventTimes).max?
  | none => ([(row.columns .updatedAt).instant?, (row.columns .createdAt).instant?,
      parentUpdatedAt].reduceOption ++ row.eventTimes).max?

/-- `key.startswith("source:")`. -/
def isContentKey (key : Option String) : Bool := "source:".toList.isPrefixOf (key.getD "").toList

def Row.isNewerAtSameTime (row : Row) (values : Values) : Except UpsertError Bool :=
  if isContentKey values.observationKey then
    if row.entity.hasRawPayload then
      .ok (values.observationKey = some ("source:" ++ env.fingerprint row.document) &&
        row.observationKey ≠ values.observationKey)
    else .error (.attributeError "raw_payload")
  else
    match row.observationKey, values.observationKey with
    | none, candidate => .ok candidate.isSome
    | some _, none => .ok false
    | some current, some candidate => .ok (current < candidate)

def Row.isNewerThan (row : Row) (values : Values) (currentAt : Timestamp) :
    Except UpsertError Bool :=
  match values.observedAt with
  | none => .ok false
  | some candidateAt =>
    if candidateAt < currentAt then .ok false
    else if currentAt < candidateAt then .ok true
    else row.isNewerAtSameTime env values

def Row.hasOtherKey (row : Row) (values : Values) : Bool :=
  match row.observationKey, values.observationKey with
  | none, candidate => candidate.isSome
  | some _, none => true
  | some current, some candidate => candidate ≠ current

def Row.observationIsNewer (row : Row) (values : Values) (parentUpdatedAt : Option Timestamp) :
    Except UpsertError Bool :=
  match row.observedAt.or (row.legacyObservationLowerBound env parentUpdatedAt) with
  | some currentAt => row.isNewerThan env values currentAt
  | none =>
    match values.observedAt with
    | some _ => .ok true
    | none => .ok (row.entity = .storePoiMapping && row.hasOtherKey values)

/-! ### Writing a row -/

/-- `setattr(row, f, value)`. -/
def Row.set (row : Row) (f : Field) (value : Value) : Row :=
  { row with columns := fun g => if g = f then value else row.columns g }

/-- The field is assigned by `_set_observed_values`. -/
def Row.accepts (row : Row) (applyBusiness : Bool) (values : Values) (f : Field) : Bool :=
  row.entity.columns.contains f && values.has f && (applyBusiness || f.isStaleSafe)

def Row.setObservedValues (row : Row) (values : Values) (applyBusiness : Bool) : Row :=
  { row with
    columns := fun f => if row.accepts applyBusiness values f then values.get f else row.columns f
    rawPayload := if applyBusiness && row.entity.hasRawPayload then
      values.rawPayload.getD row.rawPayload else row.rawPayload }

/-- `_freeze_refund_success_observed_at`. -/
def Row.freezeSuccess (row : Row) (clock : Timestamp) : Row :=
  if row.entity = .refund && row.columns .refundStatus = .int 2 &&
      row.columns .successfulObservedAt = .null then
    row.set .successfulObservedAt (.instant clock)
  else row

def Row.sameColumns (row other : Row) : Bool :=
  row.entity.columns.all (fun f => row.columns f = other.columns f) &&
    row.rawPayload = other.rawPayload

/-- `onupdate`: a row that is written is stamped, unless the values stamp it. -/
def Row.stamped (row old : Row) (clock : Timestamp) : Row :=
  if row.entity.isStamped && !row.sameColumns old && row.columns .updatedAt = old.columns .updatedAt
  then row.set .updatedAt (.instant clock)
  else row

/-- The flush of the row that was `old`. -/
def Row.flushed (row old : Row) (clock : Timestamp) : Row :=
  (if row.sameColumns old then row else row.freezeSuccess clock).stamped old clock

def Row.inserted (entity : Entity) (key : String) (id : Nat) (values : Values) (clock : Timestamp) :
    Row :=
  Row.freezeSuccess {
    entity
    key
    id
    columns := fun f =>
      if entity.columns.contains f then
        if values.get f = .null then entity.default clock f else values.get f
      else .null
    rawPayload := values.rawPayload.getD "{}" } clock

def Row.isStorable (row : Row) : Bool := row.entity.notNull.all fun f => row.columns f ≠ .null

/-! ### The closure of a change -/

/-- `sorted(set(texts))`. -/
def sortedSet (texts : List String) : List String := texts.dedup.insertionSort (· ≤ ·)

def collect (before after : Canonical) (names : List Field) : List String :=
  sortedSet ((before ++ after).filterMap fun entry =>
    if names.contains entry.1 then entry.2.text?.filter (· ≠ "") else none)

def monthOf? (raw : String) : Option String :=
  if 7 ≤ raw.toList.length && raw.toList.getD 4 ' ' = '-' then
    some (String.ofList (raw.toList.take 7))
  else none

def collectMonth (before after : Canonical) (names : List Field) : List String :=
  sortedSet ((before ++ after).filterMap fun entry =>
    if names.contains entry.1 then entry.2.text?.bind monthOf? else none)

def closureFor (entity : Entity) (before after : Canonical) : Closure :=
  match entity with
  | .order => {
      orderIds := collect before after [.orderId]
      poiIds := collect before after [.intentionPoiId]
      saleMonths := collectMonth before after [.saleTime, .payTime, .createOrderTime] }
  | .coupon => {
      couponIds := collect before after [.couponId]
      orderIds := collect before after [.orderId]
      refundMonths := collectMonth before after [.couponRefundTime, .latestRefundAt] }
  | .verify => {
      couponIds := collect before after [.couponId]
      poiIds := collect before after [.poiId]
      verifyMonths := collectMonth before after [.verifyTime, .cancelTime] }
  | .refund => {
      orderIds := collect before after [.orderId]
      couponIds := collect before after [.couponId]
      refundMonths := collectMonth before after [.occurredAt] }
  | .storePoiMapping => {
      poiIds := collect before after [.poiId]
      storeIds := collect before after [.storeId] }

structure Records where
  rows : Table (fun row : Row => (row.entity, row.key)) := .empty
  nextRowId : Nat := 1

def Records.find (r : Records) (entity : Entity) (key : String) : Option Row :=
  r.rows.get? (entity, key)

def Records.rowsOf (r : Records) (entity : Entity) (keys : List String) : List Row :=
  r.rows.rows.filter fun row => row.entity = entity && keys.contains row.key

/-- `_attach_bounded_coupon_closure`. -/
def Records.attachCoupons (r : Records) (c : Closure) : Closure :=
  { c with
    orderIds := sortedSet (c.orderIds ++ (r.rowsOf .coupon (c.couponIds.take 2)).filterMap
      fun row => (row.columns .orderId).text?.filter (· ≠ "")) }

/-- `_attach_bounded_store_closure`. -/
def Records.attachStores (r : Records) (c : Closure) : Closure :=
  { c with
    storeIds := sortedSet (c.storeIds ++ (r.rowsOf .storePoiMapping (c.poiIds.take 8)).filterMap
      fun row => (row.columns .storeId).text?) }

/-- `_attach_bounded_order_closure`. -/
def Records.attachOrders (r : Records) (c : Closure) : Closure :=
  let orders := r.rowsOf .order (c.orderIds.take 2)
  { c with
    saleMonths := sortedSet (c.saleMonths ++ orders.flatMap fun row =>
      [.saleTime, .payTime, .createOrderTime].filterMap fun f =>
        (jsonSafe env (row.columns f)).text?.bind monthOf?)
    poiIds := sortedSet (c.poiIds ++ orders.filterMap fun row =>
      (row.columns .intentionPoiId).text?.filter (· ≠ "")) }

def Records.closure (r : Records) (entity : Entity) (before after : Canonical) : Closure :=
  let c := r.attachStores (r.attachOrders env (r.attachStores (r.attachCoupons
    (closureFor entity before after))))
  { c with affectedMonths := sortedSet (c.saleMonths ++ c.verifyMonths ++ c.refundMonths) }

/-- The change that `_capture_job_impact` captures, in the records after the flush. -/
def Records.captured (r : Records) (row : Row) (before : Canonical) (values : Values) :
    Option Change :=
  if before = row.canonicalValues env then none
  else some {
    entity := row.entity
    entityKey := row.key
    before
    after := row.canonicalValues env
    closure := r.closure env row.entity before (row.canonicalValues env)
    observationKey := values.observationKey
    sourceObservedAt := values.observedAt }

/-! ### Upserts -/

def Records.put (r : Records) (row : Row) : Records := { r with rows := r.rows.put row }

def Records.insertRow (r : Records) (clock : Timestamp) (entity : Entity) (key : String)
    (values : Values) : Except UpsertError (Records × Option Change) := do
  let row := Row.inserted entity key r.nextRowId values clock
  ensure row.isStorable (.integrityError "not null")
  let r := { r.put row with nextRowId := r.nextRowId + 1 }
  return (r, r.captured env row [] values)

def Records.updateRow (r : Records) (clock : Timestamp) (row : Row) (values : Values)
    (applyBusiness : Bool) : Except UpsertError (Records × Option Change) := do
  let updated := (row.setObservedValues values applyBusiness).flushed row clock
  ensure updated.isStorable (.integrityError "not null")
  let r := r.put updated
  return (r, r.captured env updated (row.canonicalValues env) values)

/-- The upsert of a record by its key; a value that is no column cannot be inserted. -/
def Records.upsertRow (r : Records) (clock : Timestamp) (entity : Entity) (key : String)
    (values : Values) (parentUpdatedAt : Option Timestamp) :
    Except UpsertError (Records × Option Change) :=
  match r.find entity key with
  | none => do
    ensure (values.fields.all fun entry => entity.columns.contains entry.1) .typeError
    r.insertRow env clock entity key values
  | some row => do
    let applyBusiness ← row.observationIsNewer env values parentUpdatedAt
    r.updateRow env clock row values applyBusiness

def Records.upsertRawOrder (r : Records) (clock : Timestamp) (orderId : String) (values : Values) :=
  r.upsertRow env clock .order orderId values none

def Records.upsertVerifyRecord (r : Records) (clock : Timestamp) (verifyId : String)
    (values : Values) :=
  r.upsertRow env clock .verify verifyId values none

def Records.upsertRefundEvent (r : Records) (clock : Timestamp) (refundEventId : String)
    (values : Values) :=
  r.upsertRow env clock .refund refundEventId values none

/-- `upsert_order_coupon`; a coupon of another order is left alone. -/
def Records.upsertOrderCoupon (r : Records) (clock : Timestamp) (couponId orderId : String)
    (values : Values) : Except UpsertError (Records × Option Change) := do
  let order ← Except.ofOption (r.find .order orderId)
    (.valueError ("raw order does not exist: order_id=" ++ orderId))
  let payload := values.over [(.orderId, .text orderId), (.rawOrderId, .int order.id)]
  if (r.find .coupon couponId).any fun row =>
      row.columns .orderId ≠ .text orderId || row.columns .rawOrderId ≠ .int order.id then
    return (r, none)
  else r.upsertRow env clock .coupon couponId payload (order.columns .updatedAt).instant?

def Values.hasObservationIdentity (values : Values) : Bool :=
  [.sourceRunId, .payloadFingerprint, .sourceObservedAt, .observationKey].any fun f =>
    values.get f ≠ .null && values.get f ≠ .text ""

def Row.acceptsMapping (row : Row) (values : Values) : Except UpsertError Bool :=
  if values.hasObservationIdentity then row.observationIsNewer env values none else .ok true

def Records.upsertStorePoiMapping (r : Records) (clock : Timestamp) (storeId poiId : String)
    (preserveExistingStore : Bool) (values : Values) :
    Except UpsertError (Records × Option Change) :=
  let payload := values.over [(.storeId, .text storeId)]
  match r.find .storePoiMapping poiId with
  | none => r.insertRow env clock .storePoiMapping poiId payload
  | some row =>
    if preserveExistingStore then do
      ensure (row.columns .storeId = .text storeId)
        (.valueError "Shop POI mapping ownership conflict")
      return (r, none)
    else do
      let applyBusiness ← row.acceptsMapping env values
      r.updateRow env clock row payload applyBusiness

inductive Upsert
  | order (orderId : String) (values : Values)
  | coupon (couponId orderId : String) (values : Values)
  | verify (verifyId : String) (values : Values)
  | refund (refundEventId : String) (values : Values)
  | storePoiMapping (storeId poiId : String) (preserveExistingStore : Bool) (values : Values)

def Upsert.target : Upsert → Entity × String
  | order orderId _ => (.order, orderId)
  | coupon couponId _ _ => (.coupon, couponId)
  | verify verifyId _ => (.verify, verifyId)
  | refund refundEventId _ => (.refund, refundEventId)
  | storePoiMapping _ poiId _ _ => (.storePoiMapping, poiId)

def Upsert.values : Upsert → Values
  | order _ values => values
  | coupon _ _ values => values
  | verify _ values => values
  | refund _ values => values
  | storePoiMapping _ _ _ values => values

def Upsert.reserved : Upsert → List Field
  | coupon .. => [.couponId, .orderId]
  | storePoiMapping .. => [.poiId, .storeId]
  | u => [u.target.1.keyField]

def Records.upsert (r : Records) (clock : Timestamp) (u : Upsert) :
    Except UpsertError (Records × Option Change) := do
  ensure (!u.reserved.any u.values.has) .typeError
  match u with
  | .order orderId values => r.upsertRawOrder env clock orderId values
  | .coupon couponId orderId values => r.upsertOrderCoupon env clock couponId orderId values
  | .verify verifyId values => r.upsertVerifyRecord env clock verifyId values
  | .refund refundEventId values => r.upsertRefundEvent env clock refundEventId values
  | .storePoiMapping storeId poiId preserveExistingStore values =>
    r.upsertStorePoiMapping env clock storeId poiId preserveExistingStore values

/-! ### Runs -/

structure Db where
  records : Records := {}
  queue : Materialization.Db := {}

/-- The queue after `_capture_job_impact` in the transaction of `writer`, which commits. -/
def captureJobImpact (queue : Materialization.Db) (writer : String) :
    Option Change → Except UpsertError Materialization.Db
  | none => .ok queue
  | some change =>
    ((queue.captureJobImpact writer (env.digest change) change.entity.name change.entityKey).mapError
      UpsertError.queue).map fun queue => queue.commit writer

def Db.upsert (db : Db) (writer : String) (clock : Timestamp) (u : Upsert) :
    Except UpsertError Db := do
  let (records, change) ← db.records.upsert env clock u
  let queue ← captureJobImpact env db.queue writer change
  return { records, queue }

def isCycleStep : Materialization.Action → Bool
  | .capture .. | .commit _ | .rollback _ => false
  | _ => true

inductive Action
  | upsert (writer : String) (clock : Timestamp) (u : Upsert)
  | cycle (step : { action : Materialization.Action // isCycleStep action = true })

/-- A transaction that raises is rolled back. -/
def Db.act (db : Db) : Action → Db
  | .upsert writer clock u =>
    match db.upsert env writer clock u with
    | .ok db' => db'
    | .error _ => db
  | .cycle step => { db with queue := db.queue.act step.1 }

def Db.run (db : Db) (actions : List Action) : Db := actions.foldl (Db.act env) db

end

end DyData.RawRecords
