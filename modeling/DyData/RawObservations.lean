import DyData.LatestRegister
import DyData.RawRecordEffects

/-!
The order of the observations of a record does not matter.  A row holds one observation, the others
are newer or not by their time and key alone, so a row ends with the greatest observation whatever
the order in which they came, and an observation that came before never changes it again.
-/

namespace DyData.RawRecords

open Relational Materialization List

variable {f : Field} {u : Upsert}

/-- An observation of a record: it gives every business field a value the column can hold, a source
time and a key that is no content hash. -/
structure Observation (entity : Entity) where
  values : Values
  sourceTime : Timestamp
  key : String
  known : ∀ entry ∈ values.fields, entry.1 ∈ entity.columns
  complete : ∀ f ∈ entity.businessFields, values.has f = true
  storable : ∀ f ∈ entity.notNull, values.has f = true → values.get f ≠ .null
  observedAt : values.get .sourceObservedAt = .instant sourceTime
  observationKey : values.get .observationKey = .text key
  plain : isContentKey (some key) = false

namespace Observation

variable {entity : Entity}

def rank (o : Observation entity) : Timestamp ×ₗ String := toLex (o.sourceTime, o.key)

def SameFields (o o' : Observation entity) : Prop :=
  ∀ f ∈ entity.businessFields, o.values.get f = o'.values.get f

theorem values_observedAt (o : Observation entity) : o.values.observedAt = some o.sourceTime := by
  rw [Values.observedAt, o.observedAt]
  rfl

theorem values_observationKey (o : Observation entity) : o.values.observationKey = some o.key := by
  rw [Values.observationKey, o.observationKey]
  rfl

end Observation

structure Row.Shows {entity : Entity} (row : Row) (o : Observation entity) : Prop where
  fields : ∀ f ∈ entity.businessFields, row.columns f = o.values.get f
  sourceTime : row.columns .sourceObservedAt = .instant o.sourceTime
  key : row.columns .observationKey = .text o.key

/-! ### Values -/

theorem Values.has_of_get {v : Values} (h : v.get f ≠ .null) : v.has f = true := by
  unfold Values.get at h
  cases hfind : v.fields.find? fun entry => decide (entry.1 = f) with
  | none =>
    rw [hfind] at h
    exact absurd rfl h
  | some entry =>
    have hent : entry.1 = f := by simpa using find?_some hfind
    exact any_eq_true.mpr ⟨entry, mem_of_find?_eq_some hfind, decide_eq_true hent⟩

theorem mem_columns_of_business {entity : Entity} (h : f ∈ entity.businessFields) :
    f ∈ entity.columns :=
  mem_append_left _ (mem_append_left _ h)

theorem sourceObservedAt_mem_columns (entity : Entity) : Field.sourceObservedAt ∈ entity.columns :=
  mem_append_left _ (mem_append_right _ (by simp))

theorem observationKey_mem_columns (entity : Entity) : Field.observationKey ∈ entity.columns :=
  mem_append_left _ (mem_append_right _ (by simp))

theorem default_of_notMem {entity : Entity} (h : f ∉ entity.notNull) (clock : Timestamp) :
    entity.default clock f = .null := by
  unfold Entity.default
  split <;> simp_all [Entity.notNull]

/-! ### Columns of a written row -/

theorem columns_inserted {entity : Entity} (key : String) (id : Nat) (values : Values)
    (clock : Timestamp) (hcol : f ∈ entity.columns) (hf : f ≠ .successfulObservedAt) :
    (Row.inserted entity key id values clock).columns f =
      if values.get f = .null then entity.default clock f else values.get f := by
  unfold Row.inserted
  rw [Row.columns_freezeSuccess _ _ hf]
  exact if_pos (contains_iff_mem.mpr hcol)

theorem columns_stale (row : Row) (values : Values) (clock : Timestamp)
    (hsuc : f ≠ .successfulObservedAt) (hstale : f.isStaleSafe = false) :
    ((row.setObservedValues values false).flushed row clock).columns f = row.columns f := by
  have hupd : f ≠ .updatedAt := by
    rintro rfl
    cases hstale
  rw [Row.columns_flushed _ _ _ hsuc hupd]
  refine if_neg ?_
  rw [Row.accepts, hstale]
  simp

/-! ### The two tables -/

section Record

variable {entity : Entity} (hentity : entity = .order ∨ entity = .verify)
include hentity

theorem business_ne_stamp (hf : f ∈ entity.businessFields) :
    f ≠ .successfulObservedAt ∧ f ≠ .updatedAt := by
  rcases hentity with rfl | rfl
  · constructor <;> rintro rfl <;> exact absurd hf (by decide)
  · constructor <;> rintro rfl <;> exact absurd hf (by decide)

theorem business_not_staleSafe (hf : f ∈ entity.businessFields) : f.isStaleSafe = false := by
  rcases hentity with rfl | rfl
  · revert f
    decide
  · revert f
    decide

theorem notNull_ne_success (hf : f ∈ entity.notNull) : f ≠ .successfulObservedAt := by
  rcases hentity with rfl | rfl
  · rintro rfl
    exact absurd hf (by decide)
  · cases hf

/-- A column that cannot be empty is a business field or has a stamp as its default. -/
theorem notNull_cases (hf : f ∈ entity.notNull) :
    f ∈ entity.businessFields ∨ ∀ clock, entity.default clock f ≠ .null := by
  rcases hentity with rfl | rfl
  · rcases mem_cons.mp hf with rfl | hf
    · exact .inl (by decide)
    · rcases mem_cons.mp hf with rfl | hf
      · exact .inr nofun
      · rw [mem_singleton.mp hf]
        exact .inr nofun
  · cases hf

theorem notNull_mem_columns (hf : f ∈ entity.notNull) : f ∈ entity.columns := by
  rcases hentity with rfl | rfl
  · revert f
    decide
  · cases hf

/-! ### Rows after an observation -/

theorem shows_inserted (key : String) (id : Nat) (o : Observation entity) (clock : Timestamp) :
    (Row.inserted entity key id o.values clock).Shows o := by
  refine ⟨?_, ?_, ?_⟩
  · intro f hf
    rw [columns_inserted key id o.values clock (mem_columns_of_business hf)
      (business_ne_stamp hentity hf).1]
    split
    · rename_i hnull
      -- a column with a default is never given as empty
      have hnulla : f ∉ entity.notNull :=
        fun hmem => o.storable f hmem (o.complete f hf) hnull
      rw [default_of_notMem hnulla, hnull]
    · rfl
  · rw [columns_inserted key id o.values clock (sourceObservedAt_mem_columns entity)
      (by decide), o.observedAt]
    rfl
  · rw [columns_inserted key id o.values clock (observationKey_mem_columns entity)
      (by decide), o.observationKey]
    rfl

theorem storable_inserted (key : String) (id : Nat) (o : Observation entity) (clock : Timestamp) :
    (Row.inserted entity key id o.values clock).isStorable = true := by
  have htgt : (Row.inserted entity key id o.values clock).entity = entity :=
    congrArg Prod.fst (Row.inserted_target entity key id o.values clock)
  unfold Row.isStorable
  rw [htgt, all_eq_true]
  intro f hf
  refine decide_eq_true ?_
  rw [columns_inserted key id o.values clock (notNull_mem_columns hentity hf)
    (notNull_ne_success hentity hf)]
  split
  · rename_i hnull
    rcases notNull_cases hentity hf with hbus | hdef
    · exact absurd hnull (o.storable f hf (o.complete f hbus))
    · exact hdef clock
  · rename_i hgiven
    exact hgiven

variable {row : Row} (hrow : row.entity = entity)
include hrow

theorem shows_updated (o : Observation entity) (clock : Timestamp) :
    ((row.setObservedValues o.values true).flushed row clock).Shows o := by
  have hacc : ∀ f ∈ entity.columns, o.values.has f = true → row.accepts true o.values f = true := by
    intro f hf hgiven
    rw [Row.accepts, hrow, contains_iff_mem.mpr hf, hgiven]
    rfl
  have hset : ∀ f ∈ entity.columns, o.values.has f = true →
      (row.setObservedValues o.values true).columns f = o.values.get f :=
    fun f hf hgiven => if_pos (hacc f hf hgiven)
  refine ⟨?_, ?_, ?_⟩
  · intro f hf
    obtain ⟨hsuc, hupd⟩ := business_ne_stamp hentity hf
    rw [Row.columns_flushed _ _ _ hsuc hupd]
    exact hset f (mem_columns_of_business hf) (o.complete f hf)
  · rw [Row.columns_flushed _ _ _ (by decide) (by decide),
      hset _ (sourceObservedAt_mem_columns entity) (Values.has_of_get (by rw [o.observedAt]; simp))]
    exact o.observedAt
  · rw [Row.columns_flushed _ _ _ (by decide) (by decide), hset _ (observationKey_mem_columns entity)
      (Values.has_of_get (by rw [o.observationKey]; simp))]
    exact o.observationKey

omit hrow in
theorem shows_stale {cur : Observation entity} (hshows : row.Shows cur) (values : Values)
    (clock : Timestamp) : ((row.setObservedValues values false).flushed row clock).Shows cur := by
  refine ⟨?_, ?_, ?_⟩
  · intro f hf
    rw [columns_stale row values clock (business_ne_stamp hentity hf).1
      (business_not_staleSafe hentity hf)]
    exact hshows.fields f hf
  · rw [columns_stale row values clock (by decide) rfl]
    exact hshows.sourceTime
  · rw [columns_stale row values clock (by decide) rfl]
    exact hshows.key

theorem storable_flushed (hstor : row.isStorable = true) (o : Observation entity)
    (applyBusiness : Bool) (clock : Timestamp) :
    ((row.setObservedValues o.values applyBusiness).flushed row clock).isStorable = true := by
  have htgt : ((row.setObservedValues o.values applyBusiness).flushed row clock).entity =
      entity := by
    exact (congrArg Prod.fst (Row.updated_target row o.values applyBusiness clock)).trans hrow
  have hset : ∀ f ∈ entity.notNull, (row.setObservedValues o.values applyBusiness).columns f ≠
      .null := by
    intro f hf
    change (if row.accepts applyBusiness o.values f then o.values.get f else row.columns f) ≠ .null
    split
    · rename_i hacc
      rw [Row.accepts, Bool.and_eq_true, Bool.and_eq_true] at hacc
      exact o.storable f hf hacc.1.2
    · rw [Row.isStorable, hrow, all_eq_true] at hstor
      exact of_decide_eq_true (hstor f hf)
  unfold Row.isStorable
  rw [htgt, all_eq_true]
  intro f hf
  refine decide_eq_true ?_
  have hsuc := notNull_ne_success hentity hf
  by_cases hupd : f = .updatedAt
  · subst hupd
    rcases Row.updatedAt_flushed (row.setObservedValues o.values applyBusiness) row clock with
      hclock | hgiven
    · rw [hclock]
      simp
    · rw [hgiven]
      exact hset _ hf
  · rw [Row.columns_flushed _ _ _ hsuc hupd]
    exact hset f hf

omit hentity hrow in
/-- Observations with a time and a plain key are newer by their rank. -/
theorem observationIsNewer_of_shows {cur : Observation entity} (hshows : row.Shows cur)
    (env : Platform) (o : Observation entity) (parentUpdatedAt : Option Timestamp) :
    row.observationIsNewer env o.values parentUpdatedAt = .ok (decide (cur.rank < o.rank)) := by
  have hrowTime : row.observedAt = some cur.sourceTime := by
    rw [Row.observedAt, hshows.sourceTime]
    rfl
  have hrowKey : row.observationKey = some cur.key := by
    rw [Row.observationKey, hshows.key]
    rfl
  have hlex : cur.rank < o.rank ↔ cur.sourceTime < o.sourceTime ∨
      cur.sourceTime = o.sourceTime ∧ cur.key < o.key := by
    simp [Observation.rank, Prod.Lex.toLex_lt_toLex]
  rw [Row.observationIsNewer, hrowTime]
  change row.isNewerThan env o.values cur.sourceTime = _
  unfold Row.isNewerThan
  rw [o.values_observedAt]
  dsimp only
  split
  · rename_i hlt
    rw [decide_eq_false fun h => ?_]
    rcases hlex.mp h with h | h
    · exact absurd h (lt_asymm hlt)
    · exact absurd h.1.symm (ne_of_lt hlt)
  · rename_i hle
    split
    · rename_i hlt
      rw [decide_eq_true (hlex.mpr (.inl hlt))]
    · rename_i hge
      have heq : cur.sourceTime = o.sourceTime := le_antisymm (not_lt.mp hle) (not_lt.mp hge)
      unfold Row.isNewerAtSameTime
      rw [o.values_observationKey, o.plain, hrowKey]
      change Except.ok (decide (cur.key < o.key)) = _
      congr 1
      rw [decide_eq_decide, hlex]
      exact ⟨fun h => .inr ⟨heq, h⟩, fun h => h.resolve_left (by rw [heq]; exact lt_irrefl _) |>.2⟩

end Record

/-! ### Runs -/

def Action.observation? (entity : Entity) (key : String) : Action → Option Values
  | .upsert _ _ u => if u.target = (entity, key) then some u.values else none
  | .cycle _ => none

def arrivals (entity : Entity) (key : String) (actions : List Action) : List Values :=
  actions.filterMap (Action.observation? entity key)

section Runs

variable {entity : Entity} {key : String}

structure Row.Holds (row : Row) (o : Observation entity) : Prop where
  entity : row.entity = entity
  storable : row.isStorable = true
  shows : row.Shows o

def Tracks (db : Db) (key : String) (held : Option (Observation entity)) : Prop :=
  match db.records.find entity key, held with
  | none, none => True
  | some row, some o => row.Holds o
  | _, _ => False

variable (hentity : entity = .order ∨ entity = .verify)
include hentity

/-- An upsert of the record goes through the one upsert of rows. -/
theorem upsert_eq (htgt : u.target = (entity, key)) {o : Observation entity}
    (hvals : u.values = o.values) (env : Platform) (r : Records) (clock : Timestamp) :
    r.upsert env clock u = r.upsertRow env clock entity key o.values none := by
  have hkey : o.values.has entity.keyField = false := by
    -- the key is no column that an observation gives
    have hcol : entity.keyField ∉ entity.columns := by
      rcases hentity with rfl | rfl
      · decide
      · decide
    rw [Values.has, any_eq_false]
    intro entry hent he
    exact hcol (of_decide_eq_true he ▸ o.known entry hent)
  have hres : (!u.reserved.any u.values.has) = true ∧
      r.upsert env clock u = Except.bind (Except.ensure (!u.reserved.any u.values.has) .typeError)
        fun _ => r.upsertRow env clock entity key u.values none := by
    cases u with
    | order orderId values =>
      cases htgt
      refine ⟨?_, rfl⟩
      rw [hvals]
      simpa [Upsert.reserved, Upsert.target] using hkey
    | verify verifyId values =>
      cases htgt
      refine ⟨?_, rfl⟩
      rw [hvals]
      simpa [Upsert.reserved, Upsert.target] using hkey
    | coupon | refund | storePoiMapping =>
      cases htgt
      rcases hentity with h | h
      · cases h
      · cases h
  rw [hres.2, hres.1, hvals]
  rfl

theorem exists_upsert_first (htgt : u.target = (entity, key)) {o : Observation entity}
    (hvals : u.values = o.values) {r : Records} (hfind : r.find entity key = none)
    (env : Platform) (clock : Timestamp) :
    ∃ r' change row, r.upsert env clock u = .ok (r', change) ∧ r'.find entity key = some row ∧
      row.Holds o := by
  have hknown : (o.values.fields.all fun entry => entity.columns.contains entry.1) = true :=
    all_eq_true.mpr fun entry hent => contains_iff_mem.mpr (o.known entry hent)
  have hstor := storable_inserted hentity key r.nextRowId o clock
  have htable := congrArg Prod.fst (Row.inserted_target entity key r.nextRowId o.values clock)
  obtain ⟨r', change, hins, hfind'⟩ := insertRow_ok hstor env
  refine ⟨r', change, _, ?_, hfind', htable, hstor, shows_inserted hentity key _ o clock⟩
  rw [upsert_eq hentity htgt hvals, Records.upsertRow, hfind, hknown]
  exact hins

/-- A later one is taken exactly when it is greater than what the row holds. -/
theorem exists_upsert_later (htgt : u.target = (entity, key)) {o cur : Observation entity}
    (hvals : u.values = o.values) {r : Records} {row : Row} (hfind : r.find entity key = some row)
    (hholds : row.Holds cur) (env : Platform) (clock : Timestamp) :
    ∃ r' change row', r.upsert env clock u = .ok (r', change) ∧ r'.find entity key = some row' ∧
      row'.Holds (if cur.rank < o.rank then o else cur) := by
  have hkeyOf : (row.entity, row.key) = (entity, key) := r.rows.key_of_get? hfind
  have hrowKey : row.key = key := congrArg Prod.snd hkeyOf
  have hstor :=
    storable_flushed hentity hholds.entity hholds.storable o (decide (cur.rank < o.rank)) clock
  have htable :=
    (congrArg Prod.fst (Row.updated_target row o.values (decide (cur.rank < o.rank)) clock)).trans
      hholds.entity
  obtain ⟨r', change, hupd, hfind'⟩ := updateRow_ok hstor env r
  rw [hholds.entity, hrowKey] at hfind'
  refine ⟨r', change, _, ?_, hfind', htable, hstor, ?_⟩
  · rw [upsert_eq hentity htgt hvals, Records.upsertRow, hfind]
    dsimp only
    rw [observationIsNewer_of_shows hholds.shows]
    exact hupd
  · by_cases hlt : cur.rank < o.rank
    · rw [decide_eq_true hlt, if_pos hlt]
      exact shows_updated hentity hholds.entity o clock
    · rw [decide_eq_false hlt, if_neg hlt]
      exact shows_stale hentity hholds.shows o.values clock

/-- An observation of the record is a write of the register. -/
theorem Tracks.observe {db : Db} (hs : Settled db.queue) {held : Option (Observation entity)}
    (h : Tracks db key held) (htgt : u.target = (entity, key)) {o : Observation entity}
    (hvals : u.values = o.values) (env : Platform) (writer : String) (clock : Timestamp) :
    Tracks (db.act env (.upsert writer clock u)) key
      (LatestRegister.write Observation.rank held o) := by
  have hstor : ∃ r' change row cur, db.records.upsert env clock u = .ok (r', change) ∧
      r'.find entity key = some row ∧ row.Holds cur ∧
      LatestRegister.write Observation.rank held o = some cur := by
    unfold Tracks at h
    split at h
    · rename_i hfind
      obtain ⟨r', change, row, hok, hfind', hholds⟩ :=
        exists_upsert_first hentity htgt hvals hfind env clock
      exact ⟨r', change, row, o, hok, hfind', hholds, rfl⟩
    · rename_i row cur hfind
      obtain ⟨r', change, row', hok, hfind', hholds⟩ :=
        exists_upsert_later hentity htgt hvals hfind h env clock
      refine ⟨r', change, row', _, hok, hfind', hholds, ?_⟩
      exact (apply_ite some (cur.rank < o.rank) o cur).symm
    · cases h
  obtain ⟨_, _, _, _, hok, hfind, hholds, hwr⟩ := hstor
  obtain ⟨_, hact, _⟩ := Db.act_of_upsert_ok hs writer hok
  rw [hact, hwr]
  unfold Tracks
  rw [hfind]
  exact hholds

omit hentity in
theorem Tracks.other {db : Db} (hs : Settled db.queue) {held : Option (Observation entity)}
    (h : Tracks db key held) {action : Action} (hnone : action.observation? entity key = none)
    (env : Platform) : Tracks (db.act env action) key held := by
  have hoth : ∀ writer clock u, action = .upsert writer clock u → u.target ≠ (entity, key) := by
    rintro writer clock u rfl htgt
    rw [Action.observation?, if_pos htgt] at hnone
    cases hnone
  unfold Tracks
  rw [Db.find_act_other hs hoth]
  exact h

theorem Tracks.run (env : Platform) {actions : List Action} :
    ∀ {db : Db} {held : Option (Observation entity)} {obs : List (Observation entity)},
      Settled db.queue → Tracks db key held →
      arrivals entity key actions = obs.map Observation.values →
        Tracks (Db.run env db actions) key (LatestRegister.writeAll Observation.rank held obs) := by
  induction actions with
  | nil =>
    intro db held obs _ h harr
    have hnil : obs = [] := map_eq_nil_iff.mp harr.symm
    rw [hnil]
    exact h
  | cons action actions ih =>
    intro db held obs hs h harr
    have hs' : Settled (db.act env action).queue := Db.settled_act hs action
    cases hobs : action.observation? entity key with
    | none =>
      rw [arrivals, filterMap_cons_none hobs] at harr
      exact ih hs' (h.other hs hobs env) harr
    | some values =>
      rw [arrivals, filterMap_cons_some hobs] at harr
      obtain ⟨o, later, rfl, rfl, hlater⟩ := map_eq_cons_iff.mp harr.symm
      cases action with
      | cycle step => cases hobs
      | upsert writer clock u =>
        have htgt : u.target = (entity, key) := by
          by_contra hne
          rw [Action.observation?, if_neg hne] at hobs
          cases hobs
        rw [Action.observation?, if_pos htgt] at hobs
        have hvals : u.values = o.values := Option.some.inj hobs
        change Tracks (Db.run env (db.act env (.upsert writer clock u)) actions) key
          (LatestRegister.writeAll Observation.rank (LatestRegister.write Observation.rank held o)
            later)
        exact ih hs' (h.observe hentity hs htgt hvals env writer clock) hlater.symm

end Runs

structure Row.SameObservation (entity : Entity) (row row' : Row) : Prop where
  fields : ∀ f ∈ entity.businessFields, row'.columns f = row.columns f
  sourceTime : row'.columns .sourceObservedAt = row.columns .sourceObservedAt
  key : row'.columns .observationKey = row.columns .observationKey

theorem Row.Shows.same {entity : Entity} {row row' : Row} {o : Observation entity}
    (h : row.Shows o) (h' : row'.Shows o) : row.SameObservation entity row' where
  fields := fun f hf => (h'.fields f hf).trans (h.fields f hf).symm
  sourceTime := h'.sourceTime.trans h.sourceTime.symm
  key := h'.key.trans h.key.symm

/-- An order or verification record that only complete observations reach ends with a greatest one,
whatever the order and the repetitions; if the greatest ones agree, it is determined.  Replays of
observations that came change neither the business fields nor the source time and key. -/
theorem observation_order_irrelevant (env : Platform) {entity : Entity}
    (hentity : entity = .order ∨ entity = .verify) (key : String) (actions later : List Action)
    (obs replays : List (Observation entity)) (hne : obs ≠ [])
    (harrived : arrivals entity key actions = obs.map Observation.values)
    (hlater : arrivals entity key later = replays.map Observation.values)
    (hreplays : ∀ o ∈ replays, o ∈ obs) :
    ∃ row, (Db.run env {} actions).records.find entity key = some row ∧
      (∃ o ∈ obs, row.Shows o ∧ ∀ o' ∈ obs, o'.rank ≤ o.rank) ∧
      (∀ o ∈ obs, (∀ o' ∈ obs, o'.rank < o.rank ∨ o'.rank = o.rank ∧ o'.SameFields o) →
        row.Shows o) ∧
      ∃ row', (Db.run env {} (actions ++ later)).records.find entity key = some row' ∧
        row.SameObservation entity row' := by
  have hstart : Tracks {} key (none : Option (Observation entity)) := trivial
  have htracks := Tracks.run hentity env settled_empty hstart harrived
  obtain ⟨cur, hcur, hheld, hgreatest⟩ :=
    @LatestRegister.writeAll_none _ _ _ Observation.rank _ hne
  rw [hheld] at htracks
  -- the replays are writes that are not greater
  have hkept : LatestRegister.writeAll Observation.rank (some cur) replays = some cur :=
    LatestRegister.writeAll_of_le fun o ho => hgreatest o (hreplays o ho)
  have htracks' :=
    Tracks.run hentity env (Db.settled_run env actions settled_empty) htracks hlater
  have happend : Db.run env (Db.run env {} actions) later = Db.run env {} (actions ++ later) :=
    foldl_append.symm
  rw [hkept, happend] at htracks'
  unfold Tracks at htracks htracks'
  split at htracks
  · rename_i heq
    cases heq
  · rename_i row o hfind heq
    cases heq
    split at htracks'
    · rename_i heq
      cases heq
    · rename_i row' _ hfind' heq'
      cases heq'
      refine ⟨row, hfind, ⟨cur, hcur, htracks.shows, hgreatest⟩, ?_, row', hfind',
        htracks.shows.same htracks'.shows⟩
      intro o ho hall
      -- the observation held is `o`, or agrees with it
      rcases hall cur hcur with hlt | ⟨hrank, hsame⟩
      · exact absurd (hgreatest o ho) (not_le.mpr hlt)
      · obtain ⟨htime, hkey⟩ := Prod.mk.inj (toLex_inj.mp hrank)
        refine ⟨fun f hf => (htracks.shows.fields f hf).trans (hsame f hf), ?_, ?_⟩
        · rw [← htime]
          exact htracks.shows.sourceTime
        · rw [← hkey]
          exact htracks.shows.key
    · cases htracks'
  · cases htracks

namespace ObservationSample

def platform : Platform where
  sourceTime := fun _ _ => none
  fingerprint := id
  isoformat := fun _ => ""
  digest := Change.entityKey

def values (status : String) (sourceTime : Timestamp) (key : String) : Values where
  fields := [(.couponId, .text "coupon-1"), (.verifyStatus, .text status), (.verifyTime, .null),
    (.poiId, .text "poi-1"), (.verifyStoreNameRaw, .null), (.skuId, .null), (.productName, .null),
    (.paidAmountCent, .int 100), (.cancelTime, .null), (.sourceObservedAt, .instant sourceTime),
    (.observationKey, .text key)]

def valid : Observation .verify where
  values := values "1" 10 "page-2"
  sourceTime := 10
  key := "page-2"
  known := by decide
  complete := by decide
  storable := by decide
  observedAt := rfl
  observationKey := rfl
  plain := by decide

def cancelled : Observation .verify where
  values := values "2" 20 "page-1"
  sourceTime := 20
  key := "page-1"
  known := by decide
  complete := by decide
  storable := by decide
  observedAt := rfl
  observationKey := rfl
  plain := by decide

def arrive (o : Observation .verify) : Action := .upsert "run-1" 30 (.verify "verify-1" o.values)

/-- The cancellation comes first and again after the older state, and stays when that is replayed. -/
theorem cancelled_record_stays_cancelled :
    ∃ row, (Db.run platform {} ([cancelled, valid, cancelled].map arrive)).records.find .verify
        "verify-1" = some row ∧ row.Shows cancelled ∧
      ∃ row', (Db.run platform {} ([cancelled, valid, cancelled].map arrive ++
          [valid].map arrive)).records.find .verify "verify-1" = some row' ∧
        row.SameObservation .verify row' := by
  obtain ⟨row, hfind, _, hgreatest, row', hfind', hsame⟩ :=
    observation_order_irrelevant platform (.inr rfl) "verify-1"
      ([cancelled, valid, cancelled].map arrive) ([valid].map arrive) [cancelled, valid, cancelled]
      [valid] (cons_ne_nil _ _) rfl rfl (by simp)
  refine ⟨row, hfind, hgreatest cancelled (by simp) ?_, row', hfind', hsame⟩
  intro o ho
  have hcases : o = cancelled ∨ o = valid := by simpa [or_comm, or_left_comm] using ho
  rcases hcases with rfl | rfl
  · exact .inr ⟨rfl, fun f _ => rfl⟩
  · have hlt : valid.sourceTime < cancelled.sourceTime := by decide
    exact .inl (Prod.Lex.toLex_lt_toLex.mpr (.inl hlt))

end ObservationSample

end DyData.RawRecords
