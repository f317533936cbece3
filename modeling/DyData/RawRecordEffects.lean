import DyData.MaterializationCompleteness
import DyData.RawRecords

/-!
What one step of a run does: an upsert keeps the records, inserts a row or updates one, and adds an
impact with its work item unless the same change was captured before; a step of a cycle leaves the
records and the impacts alone.
-/

namespace DyData.RawRecords

open Relational Materialization List
open Except (of_bind ofOption)

variable {row : Row} {values payload : Values} {f : Field} {entity : Entity}

/-! ### The queue between two transactions -/

structure Settled (q : Materialization.Db) : Prop where
  impacts : ∀ v ∈ q.impacts.rows, v.writer = none ∧ v.row.id < q.nextImpactId
  items : ∀ v ∈ q.workItems.rows, v.writer = none ∧ v.row.workItemId < q.nextWorkItemId

theorem settled_empty : Settled {} where
  impacts := nofun
  items := nofun

structure KeepsImpacts (q q' : Materialization.Db) : Prop where
  impacts : q'.impacts = q.impacts
  nextImpactId : q'.nextImpactId = q.nextImpactId
  settled : Settled q → Settled q'

theorem KeepsImpacts.refl (q : Materialization.Db) : KeepsImpacts q q := ⟨rfl, rfl, id⟩

theorem KeepsImpacts.trans {q q' q'' : Materialization.Db} (h : KeepsImpacts q q')
    (h' : KeepsImpacts q' q'') : KeepsImpacts q q'' where
  impacts := h'.impacts.trans h.impacts
  nextImpactId := h'.nextImpactId.trans h.nextImpactId
  settled := fun hs => h'.settled (h.settled hs)

theorem keepsImpacts_updateItems (q : Materialization.Db) (p : WorkItem → Bool)
    (f : WorkItem → WorkItem) (hf : ∀ i, (f i).workItemId = i.workItemId) :
    KeepsImpacts q (q.updateItems p f hf) where
  impacts := rfl
  nextImpactId := rfl
  settled := by
    intro hs
    refine ⟨hs.impacts, ?_⟩
    intro v hv
    obtain ⟨old, hold, rfl⟩ := mem_map.mp hv
    obtain ⟨hwr, hid⟩ := hs.items old hold
    split
    · exact ⟨hwr, by rw [hf]; exact hid⟩
    · exact ⟨hwr, hid⟩

theorem keepsImpacts_freeze {q q' : Materialization.Db} {scope cycleId : String}
    (h : q.freeze scope cycleId = .ok q') : KeepsImpacts q q' := by
  obtain ⟨_, happ, h⟩ := Except.of_ofOption_bind h
  cases h
  refine ⟨rfl, rfl, fun hs => ⟨hs.impacts, ?_⟩⟩
  intro v hv
  rw [Table.rows_append? happ] at hv
  rcases mem_append.mp hv with hv | hv
  · obtain ⟨hwr, hid⟩ := hs.items v hv
    exact ⟨hwr, Nat.lt_add_right _ hid⟩
  · -- the added items are numbered from the next one on
    obtain ⟨_, hn, rfl⟩ := mem_mapIdx.mp hv
    exact ⟨rfl, Nat.add_lt_add_left hn _⟩

theorem keepsImpacts_cycle (q : Materialization.Db) : CycleInvariant (KeepsImpacts q) where
  freeze h hfreeze := h.trans (keepsImpacts_freeze hfreeze)
  update h _ _ := h.trans (keepsImpacts_updateItems _ _ _ _)
  -- the cursor is no part of the impacts and items
  advance h := h.trans ⟨rfl, rfl, fun hs => ⟨hs.impacts, hs.items⟩⟩

theorem keepsImpacts_act (q : Materialization.Db)
    (step : { action : Materialization.Action // isCycleStep action = true }) :
    KeepsImpacts q (q.act step.1) := by
  unfold Materialization.Db.act
  cases h : q.tryAct step.1 with
  | ok q' => exact (keepsImpacts_cycle q).tryAct step.2 h (.refl q)
  | error e => exact .refl _

/-! ### Capturing a change -/

section Capture

variable {env : Platform} {q : Materialization.Db} {writer : String} {change : Change}

def Recorded (env : Platform) (q : Materialization.Db) (change : Change) : Prop :=
  ∃ v ∈ q.impacts.rows, v.row.impactKey = env.digest change

def impactOf (env : Platform) (q : Materialization.Db) (change : Change) : JobImpact where
  id := q.nextImpactId
  impactKey := env.digest change
  entityType := change.entity.name
  entityKey := change.entityKey

def workItemOf (q : Materialization.Db) (change : Change) : WorkItem where
  workItemId := q.nextWorkItemId
  scope := "clue_materialization"
  impactId := q.nextImpactId
  entityType := change.entity.name
  entityKey := change.entityKey

inductive Captured (env : Platform) (q : Materialization.Db) (change : Change)
    (q' : Materialization.Db) : Prop
  | before (recorded : Recorded env q change) (impacts : q'.impacts.rows = q.impacts.rows)
      (items : q'.workItems.rows = q.workItems.rows)
  | now (unrecorded : ¬ Recorded env q change)
      (impacts : q'.impacts.rows = q.impacts.rows ++ [⟨impactOf env q change, none⟩])
      (items : q'.workItems.rows = q.workItems.rows ++ [⟨workItemOf q change, none⟩])

theorem map_commit_of_committed {ρ : Type} {rows : List (Stored ρ)}
    (h : ∀ v ∈ rows, v.writer = none) (writer : String) :
    rows.map (fun v => if decide (v.writer = some writer) then { v with writer := none } else v) =
      rows := by
  have hid : ∀ v ∈ rows, (if decide (v.writer = some writer) then
      ({ v with writer := none } : Stored ρ) else v) = id v := by
    intro v hv
    rw [if_neg (by rw [h v hv]; simp), id]
  rw [map_congr_left hid, map_id]

theorem recorded_iff_any (hs : Settled q) :
    (q.impacts.rows.any fun v => v.row.impactKey = env.digest change &&
      (v.writer.isNone || v.writer = some writer)) = true ↔ Recorded env q change := by
  rw [any_eq_true]
  constructor
  · rintro ⟨v, hv, hkey⟩
    rw [Bool.and_eq_true, decide_eq_true_eq] at hkey
    exact ⟨v, hv, hkey.1⟩
  · rintro ⟨v, hv, hkey⟩
    exact ⟨v, hv, by rw [hkey, (hs.impacts v hv).1]; simp⟩

theorem exists_captureJobImpact (hs : Settled q) (env : Platform) (writer : String)
    (change : Change) : ∃ q', captureJobImpact env q writer (some change) = .ok q' ∧ Settled q' ∧
      Captured env q change q' ∧ q.nextImpactId ≤ q'.nextImpactId := by
  have himp : ∀ v ∈ q.impacts.rows, v.writer = none := fun v hv => (hs.impacts v hv).1
  have hitems : ∀ v ∈ q.workItems.rows, v.writer = none := fun v hv => (hs.items v hv).1
  by_cases hrec : Recorded env q change
  · -- the commit finds nothing to publish
    have hcapt : q.captureJobImpact writer (env.digest change) change.entity.name
        change.entityKey = .ok q := by
      rw [Materialization.Db.captureJobImpact, if_pos ((recorded_iff_any hs).mpr hrec)]
    have hrows : (q.commit writer).impacts.rows = q.impacts.rows :=
      map_commit_of_committed himp writer
    have hrows' : (q.commit writer).workItems.rows = q.workItems.rows :=
      map_commit_of_committed hitems writer
    refine ⟨q.commit writer, ?_, ⟨?_, ?_⟩, .before hrec hrows hrows', le_rfl⟩
    · rw [captureJobImpact, hcapt]
      rfl
    · rw [hrows]
      exact hs.impacts
    · rw [hrows']
      exact hs.items
  · have hnone : q.impacts.get? q.nextImpactId = none := by
      refine q.impacts.get?_eq_none_iff.mpr fun v hv hid => ?_
      exact absurd (hs.impacts v hv).2 (by rw [hid]; exact lt_irrefl _)
    have hnone' : q.workItems.get? q.nextWorkItemId = none := by
      refine q.workItems.get?_eq_none_iff.mpr fun v hv hid => ?_
      exact absurd (hs.items v hv).2 (by rw [hid]; exact lt_irrefl _)
    obtain ⟨impacts, hins⟩ := Table.exists_insert? (t := q.impacts)
      (r := ⟨impactOf env q change, some writer⟩) hnone
    obtain ⟨workItems, hins'⟩ := Table.exists_insert? (t := q.workItems)
      (r := ⟨workItemOf q change, some writer⟩) hnone'
    have huniq : (!q.impacts.rows.any fun v => v.row.impactKey = env.digest change) = true := by
      rw [Bool.not_eq_true', any_eq_false]
      exact fun v hv hkey => hrec ⟨v, hv, of_decide_eq_true hkey⟩
    have hcapt : q.captureJobImpact writer (env.digest change) change.entity.name
        change.entityKey = .ok { q with
          impacts
          workItems
          nextImpactId := q.nextImpactId + 1
          nextWorkItemId := q.nextWorkItemId + 1 } := by
      rw [Materialization.Db.captureJobImpact,
        if_neg fun hany => hrec ((recorded_iff_any hs).mp hany), huniq]
      change Except.bind (ofOption (q.impacts.insert? ⟨impactOf env q change, some writer⟩) _)
        _ = _
      rw [hins]
      change Except.bind (ofOption (q.workItems.insert? ⟨workItemOf q change, some writer⟩) _)
        _ = _
      rw [hins']
      rfl
    have hrows : impacts.rows.map (fun v => if decide (v.writer = some writer) then
        { v with writer := none } else v) = q.impacts.rows ++ [⟨impactOf env q change, none⟩] := by
      rw [Table.rows_insert? hins, map_append, map_commit_of_committed himp]
      simp
    have hrows' : workItems.rows.map (fun v => if decide (v.writer = some writer) then
        { v with writer := none } else v) = q.workItems.rows ++ [⟨workItemOf q change, none⟩] := by
      rw [Table.rows_insert? hins', map_append, map_commit_of_committed hitems]
      simp
    refine ⟨Materialization.Db.commit { q with
      impacts
      workItems
      nextImpactId := q.nextImpactId + 1
      nextWorkItemId := q.nextWorkItemId + 1 } writer, ?_, ⟨?_, ?_⟩, .now hrec hrows hrows',
      Nat.le_succ _⟩
    · rw [captureJobImpact, hcapt]
      rfl
    · intro v hv
      change v ∈ impacts.rows.map _ at hv
      rw [hrows] at hv
      rcases mem_append.mp hv with hv | hv
      · exact ⟨(hs.impacts v hv).1, Nat.lt_succ_of_lt (hs.impacts v hv).2⟩
      · rw [mem_singleton.mp hv]
        exact ⟨rfl, Nat.lt_succ_self _⟩
    · intro v hv
      change v ∈ workItems.rows.map _ at hv
      rw [hrows'] at hv
      rcases mem_append.mp hv with hv | hv
      · exact ⟨(hs.items v hv).1, Nat.lt_succ_of_lt (hs.items v hv).2⟩
      · rw [mem_singleton.mp hv]
        exact ⟨rfl, Nat.lt_succ_self _⟩

end Capture

/-! ### Rows -/

theorem Row.observationIsNewer_congr {env : Platform} {parentUpdatedAt : Option Timestamp}
    (htime : payload.observedAt = values.observedAt)
    (hkey : payload.observationKey = values.observationKey) :
    row.observationIsNewer env payload parentUpdatedAt =
      row.observationIsNewer env values parentUpdatedAt := by
  unfold Row.observationIsNewer Row.isNewerThan Row.isNewerAtSameTime Row.hasOtherKey
  rw [htime, hkey]

@[simp] theorem Row.entity_freezeSuccess (row : Row) (clock : Timestamp) :
    (row.freezeSuccess clock).entity = row.entity := by
  unfold Row.freezeSuccess
  split
  · rfl
  · rfl

@[simp] theorem Row.key_freezeSuccess (row : Row) (clock : Timestamp) :
    (row.freezeSuccess clock).key = row.key := by
  unfold Row.freezeSuccess
  split
  · rfl
  · rfl

theorem Row.columns_freezeSuccess (row : Row) (clock : Timestamp) (hf : f ≠ .successfulObservedAt) :
    (row.freezeSuccess clock).columns f = row.columns f := by
  unfold Row.freezeSuccess
  split
  · exact if_neg hf
  · rfl

theorem Row.inserted_target (entity : Entity) (key : String) (id : Nat) (values : Values)
    (clock : Timestamp) : ((Row.inserted entity key id values clock).entity,
      (Row.inserted entity key id values clock).key) = (entity, key) := by
  simp [Row.inserted]

theorem Row.flushed_target (row old : Row) (clock : Timestamp) :
    ((row.flushed old clock).entity, (row.flushed old clock).key) = (row.entity, row.key) := by
  unfold Row.flushed Row.stamped
  split
  · split
    · rfl
    · rfl
  · split
    · simp [Row.set]
    · simp

theorem Row.columns_stamped (row old : Row) (clock : Timestamp) (hf : f ≠ .updatedAt) :
    (row.stamped old clock).columns f = row.columns f := by
  unfold Row.stamped
  split
  · exact if_neg hf
  · rfl

theorem Row.updatedAt_flushed (row old : Row) (clock : Timestamp) :
    (row.flushed old clock).columns .updatedAt = .instant clock ∨
      (row.flushed old clock).columns .updatedAt = row.columns .updatedAt := by
  have hfree : (if row.sameColumns old then row else row.freezeSuccess clock).columns .updatedAt =
      row.columns .updatedAt := by
    split
    · rfl
    · exact row.columns_freezeSuccess clock (by decide)
  unfold Row.flushed
  rw [← hfree]
  generalize (if row.sameColumns old then row else row.freezeSuccess clock) = frozen
  unfold Row.stamped
  split
  · left
    simp [Row.set]
  · right
    rfl

theorem Row.columns_flushed (row old : Row) (clock : Timestamp) (hsuc : f ≠ .successfulObservedAt)
    (hupd : f ≠ .updatedAt) : (row.flushed old clock).columns f = row.columns f := by
  unfold Row.flushed
  rw [Row.columns_stamped _ _ _ hupd]
  split
  · rfl
  · exact row.columns_freezeSuccess clock hsuc

theorem Row.updated_target (row : Row) (payload : Values) (applyBusiness : Bool)
    (clock : Timestamp) :
    (((row.setObservedValues payload applyBusiness).flushed row clock).entity,
      ((row.setObservedValues payload applyBusiness).flushed row clock).key) =
        (row.entity, row.key) :=
  Row.flushed_target _ _ _

/-! ### What an upsert does to the records -/

structure Upsert.Carries (u : Upsert) (payload : Values) : Prop where
  observedAt : payload.observedAt = u.values.observedAt
  observationKey : payload.observationKey = u.values.observationKey

theorem Upsert.Carries.refl (u : Upsert) : u.Carries u.values := ⟨rfl, rfl⟩

theorem Values.get_over {v : Values} {defaults : List (Field × Value)}
    (hf : ∀ entry ∈ defaults, entry.1 ≠ f) : (v.over defaults).get f = v.get f := by
  have hnone : (defaults.find? fun entry => decide (entry.1 = f)) = none :=
    find?_eq_none.mpr fun entry hent => by simpa using hf entry hent
  simp only [Values.get, Values.over, find?_append, hnone, Option.or_none]

theorem Upsert.carries_over {u : Upsert} {defaults : List (Field × Value)}
    (htime : ∀ entry ∈ defaults, entry.1 ≠ .sourceObservedAt)
    (hkey : ∀ entry ∈ defaults, entry.1 ≠ .observationKey) :
    u.Carries (u.values.over defaults) where
  observedAt := congrArg Value.instant? (Values.get_over htime)
  observationKey := congrArg Value.text? (Values.get_over hkey)

def Supersedes (env : Platform) (row : Row) (payload : Values) : Prop :=
  (∃ parentUpdatedAt, row.observationIsNewer env payload parentUpdatedAt = .ok true) ∨
    row.entity = .storePoiMapping ∧ payload.observedAt = none

inductive Outcome (env : Platform) (r : Records) (clock : Timestamp) (u : Upsert) :
    Records → Option Change → Prop
  | kept : Outcome env r clock u r none
  | inserted (payload : Values) (r' : Records) (carries : u.Carries payload)
      (find : r.find u.target.1 u.target.2 = none)
      (records : r'.rows =
        r.rows.put (Row.inserted u.target.1 u.target.2 r.nextRowId payload clock)) :
      Outcome env r clock u r'
        (r'.captured env (Row.inserted u.target.1 u.target.2 r.nextRowId payload clock) [] payload)
  | updated (row : Row) (payload : Values) (applyBusiness : Bool) (carries : u.Carries payload)
      (find : r.find u.target.1 u.target.2 = some row)
      (apply : applyBusiness = true → Supersedes env row payload) :
      Outcome env r clock u
        (r.put ((row.setObservedValues payload applyBusiness).flushed row clock))
        ((r.put ((row.setObservedValues payload applyBusiness).flushed row clock)).captured env
          ((row.setObservedValues payload applyBusiness).flushed row clock)
          (row.canonicalValues env) payload)

section Upserts

variable {env : Platform} {r r' : Records} {clock : Timestamp} {u : Upsert} {change : Option Change}

theorem insertRow_ok {key : String}
    (h : (Row.inserted entity key r.nextRowId values clock).isStorable = true) (env : Platform) :
    ∃ r' change, r.insertRow env clock entity key values = .ok (r', change) ∧
      r'.find entity key = some (Row.inserted entity key r.nextRowId values clock) := by
  let row := Row.inserted entity key r.nextRowId values clock
  let r' : Records := { r.put row with nextRowId := r.nextRowId + 1 }
  have hfind : r'.find entity key = some row := by
    change (r.rows.put row).get? (entity, key) = _
    rw [Table.get?_put, Row.inserted_target, if_pos rfl]
  refine ⟨r', r'.captured env row [] values, ?_, hfind⟩
  rw [Records.insertRow, h]
  rfl

theorem updateRow_ok {applyBusiness : Bool}
    (h : ((row.setObservedValues values applyBusiness).flushed row clock).isStorable = true)
    (env : Platform) (r : Records) :
    ∃ r' change, r.updateRow env clock row values applyBusiness = .ok (r', change) ∧
      r'.find row.entity row.key =
        some ((row.setObservedValues values applyBusiness).flushed row clock) := by
  let updated := (row.setObservedValues values applyBusiness).flushed row clock
  have hfind : (r.put updated).find row.entity row.key = some updated := by
    change (r.rows.put updated).get? (row.entity, row.key) = _
    rw [Table.get?_put, Row.updated_target, if_pos rfl]
  refine ⟨r.put updated, (r.put updated).captured env updated (row.canonicalValues env) values, ?_,
    hfind⟩
  rw [Records.updateRow, h]
  rfl

theorem outcome_insertRow (hcarr : u.Carries payload) (hfind : r.find u.target.1 u.target.2 = none)
    (h : r.insertRow env clock u.target.1 u.target.2 payload = .ok (r', change)) :
    Outcome env r clock u r' change := by
  obtain ⟨_, _, h⟩ := of_bind h
  cases h
  exact .inserted payload _ hcarr hfind rfl

theorem outcome_updateRow {applyBusiness : Bool} (hcarr : u.Carries payload)
    (hfind : r.find u.target.1 u.target.2 = some row)
    (happly : applyBusiness = true → Supersedes env row payload)
    (h : r.updateRow env clock row payload applyBusiness = .ok (r', change)) :
    Outcome env r clock u r' change := by
  obtain ⟨_, _, h⟩ := of_bind h
  cases h
  exact .updated row payload applyBusiness hcarr hfind happly

theorem outcome_upsertRow {parentUpdatedAt : Option Timestamp} (hcarr : u.Carries payload)
    (h : r.upsertRow env clock u.target.1 u.target.2 payload parentUpdatedAt = .ok (r', change)) :
    Outcome env r clock u r' change := by
  unfold Records.upsertRow at h
  split at h
  · rename_i hfind
    obtain ⟨_, _, h⟩ := of_bind h
    exact outcome_insertRow hcarr hfind h
  · rename_i hfind
    obtain ⟨_, hnewer, h⟩ := of_bind h
    refine outcome_updateRow hcarr hfind (fun happly => .inl ⟨parentUpdatedAt, ?_⟩) h
    rw [hnewer, happly]

theorem outcome_upsertOrderCoupon {couponId orderId : String}
    (h : r.upsertOrderCoupon env clock couponId orderId values = .ok (r', change)) :
    Outcome env r clock (.coupon couponId orderId values) r' change := by
  obtain ⟨_, _, h⟩ := of_bind h
  split at h
  · cases h
    exact .kept
  · refine outcome_upsertRow (u := .coupon couponId orderId values)
      (Upsert.carries_over ?_ ?_) h
    · simp
    · simp

theorem Values.observedAt_of_unidentified (h : values.hasObservationIdentity = false) :
    values.observedAt = none := by
  have hget := any_eq_false.mp h .sourceObservedAt (by simp)
  cases hval : values.get .sourceObservedAt with
  | instant t => simp [hval] at hget
  | null | text | int | bool => simp [Values.observedAt, hval, Value.instant?]

theorem outcome_upsertStorePoiMapping {storeId poiId : String} {preserveExistingStore : Bool}
    (h : r.upsertStorePoiMapping env clock storeId poiId preserveExistingStore values =
      .ok (r', change)) :
    Outcome env r clock (.storePoiMapping storeId poiId preserveExistingStore values) r' change := by
  have hcarr : (Upsert.storePoiMapping storeId poiId preserveExistingStore values).Carries
      (values.over [(.storeId, .text storeId)]) := by
    refine Upsert.carries_over ?_ ?_
    · simp
    · simp
  unfold Records.upsertStorePoiMapping at h
  split at h
  · rename_i hfind
    exact outcome_insertRow hcarr hfind h
  · rename_i row hfind
    have hent : row.entity = .storePoiMapping := congrArg Prod.fst (r.rows.key_of_get? hfind)
    split at h
    · obtain ⟨_, _, h⟩ := of_bind h
      cases h
      exact .kept
    · obtain ⟨_, hnewer, h⟩ := of_bind h
      refine outcome_updateRow hcarr hfind (fun happly => ?_) h
      subst happly
      unfold Row.acceptsMapping at hnewer
      cases hidn : values.hasObservationIdentity with
      | true =>
        rw [hidn] at hnewer
        refine .inl ⟨none, ?_⟩
        rw [Row.observationIsNewer_congr hcarr.observedAt hcarr.observationKey]
        exact hnewer
      | false =>
        refine .inr ⟨hent, ?_⟩
        rw [hcarr.observedAt]
        exact Values.observedAt_of_unidentified hidn

/-- Every upsert that does not raise has one of the outcomes. -/
theorem outcome_upsert (h : r.upsert env clock u = .ok (r', change)) :
    Outcome env r clock u r' change := by
  obtain ⟨_, _, h⟩ := of_bind h
  cases u with
  | order orderId values => exact outcome_upsertRow (u := .order orderId values) (.refl _) h
  | coupon couponId orderId values => exact outcome_upsertOrderCoupon h
  | verify verifyId values => exact outcome_upsertRow (u := .verify verifyId values) (.refl _) h
  | refund refundEventId values =>
    exact outcome_upsertRow (u := .refund refundEventId values) (.refl _) h
  | storePoiMapping storeId poiId preserveExistingStore values =>
    exact outcome_upsertStorePoiMapping h

theorem Outcome.find_other (h : Outcome env r clock u r' change) {key : String}
    (hoth : u.target ≠ (entity, key)) : r'.find entity key = r.find entity key := by
  cases h with
  | kept => rfl
  | inserted payload _ carries find records =>
    unfold Records.find
    rw [records, Table.get?_put, if_neg]
    rw [Row.inserted_target]
    exact fun he => hoth he.symm
  | updated row payload applyBusiness carries find apply =>
    unfold Records.find Records.put
    rw [Table.get?_put, if_neg]
    rw [Row.updated_target, r.rows.key_of_get? find]
    exact fun he => hoth he.symm

end Upserts

/-! ### Steps of a run -/

section Steps

variable {env : Platform} {db : Db} {writer : String} {clock : Timestamp} {u : Upsert}

theorem exists_capture (hs : Settled db.queue) (env : Platform) (writer : String)
    (change : Option Change) : ∃ q', captureJobImpact env db.queue writer change = .ok q' ∧
      Settled q' ∧ (∀ c, change = some c → Captured env db.queue c q') ∧
      (change = none → q' = db.queue) := by
  cases change with
  | none => exact ⟨db.queue, rfl, hs, fun _ h => (by cases h), fun _ => rfl⟩
  | some c =>
    obtain ⟨q', hok, hsett, hcap, _⟩ := exists_captureJobImpact hs env writer c
    refine ⟨q', hok, hsett, fun c' h => ?_, nofun⟩
    cases h
    exact hcap

/-- An upsert of the records that does not raise is a step of the run. -/
theorem Db.act_of_upsert_ok (hs : Settled db.queue) (writer : String) {r' : Records} {change : Option Change}
    (h : db.records.upsert env clock u = .ok (r', change)) :
    ∃ q', db.act env (.upsert writer clock u) = ⟨r', q'⟩ ∧ Settled q' ∧
      (∀ c, change = some c → Captured env db.queue c q') ∧ (change = none → q' = db.queue) := by
  obtain ⟨q', hok, hrest⟩ := exists_capture hs env writer change
  refine ⟨q', ?_, hrest⟩
  have hups : db.upsert env writer clock u = .ok ⟨r', q'⟩ := by
    rw [Db.upsert, h]
    change Except.bind (captureJobImpact env db.queue writer change) _ = _
    rw [hok]
    rfl
  rw [Db.act, hups]

theorem Db.act_of_upsert_error {e : UpsertError} (h : db.records.upsert env clock u = .error e) :
    db.act env (.upsert writer clock u) = db := by
  have hups : db.upsert env writer clock u = .error e := by
    rw [Db.upsert, h]
    rfl
  rw [Db.act, hups]

theorem Db.settled_act (hs : Settled db.queue) (action : Action) :
    Settled (db.act env action).queue := by
  cases action with
  | cycle step => exact (keepsImpacts_act db.queue step).settled hs
  | upsert writer clock u =>
    cases h : db.records.upsert env clock u with
    | error e =>
      rw [Db.act_of_upsert_error h]
      exact hs
    | ok result =>
      obtain ⟨_, hact, hsett, _⟩ := Db.act_of_upsert_ok hs writer h
      rw [hact]
      exact hsett

theorem Db.settled_run (env : Platform) (actions : List Action) {db : Db}
    (hs : Settled db.queue) : Settled (Db.run env db actions).queue := by
  induction actions generalizing db with
  | nil => exact hs
  | cons action actions ih => exact ih (Db.settled_act hs action)

theorem Db.find_act_other (hs : Settled db.queue) {action : Action} {key : String}
    (hoth : ∀ writer clock u, action = .upsert writer clock u → u.target ≠ (entity, key)) :
    (db.act env action).records.find entity key = db.records.find entity key := by
  cases action with
  | cycle step => rfl
  | upsert writer clock u =>
    cases h : db.records.upsert env clock u with
    | error e => rw [Db.act_of_upsert_error h]
    | ok result =>
      obtain ⟨_, hact, _⟩ := Db.act_of_upsert_ok hs writer h
      rw [hact]
      exact (outcome_upsert h).find_other (hoth writer clock u rfl)

end Steps

end DyData.RawRecords
