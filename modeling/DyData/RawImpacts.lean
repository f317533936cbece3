import DyData.RawObservations
import DyData.TextCode

/-!
Whether every change of a record leaves fresh work.  An impact is recorded once for each digest, so a
change that was captured before leaves nothing; that cannot happen while the times and keys of the
observations order the changes of a row.
-/

namespace DyData.RawRecords

open Option
open Relational Materialization List

section

variable (env : Platform)

def Db.canonical (db : Db) (target : Entity × String) : Option Canonical :=
  (db.records.find target.1 target.2).map (Row.canonicalValues env)

/-- The second state holds an impact of the record that the first one lacks, and open work on it. -/
def LeavesWork (db db' : Db) (target : Entity × String) : Prop :=
  ∃ m ∈ db'.queue.visibleImpacts, m ∉ db.queue.visibleImpacts ∧ m.entityType = target.1.name ∧
    m.entityKey = target.2 ∧ ∃ i ∈ db'.queue.visibleItems, i.impactId = m.id ∧ i.state ≠ .completed

def Db.StepLeavesWork (db : Db) : Action → Prop
  | .upsert writer clock u =>
    db.canonical env u.target ≠ (db.act env (.upsert writer clock u)).canonical env u.target →
      LeavesWork db (db.act env (.upsert writer clock u)) u.target
  | .cycle _ => True

def Db.LeavesAllWork (db : Db) (actions : List Action) : Prop :=
  ∀ before action after, actions = before ++ action :: after →
    (Db.run env db before).StepLeavesWork env action

def Db.change? (db : Db) : Action → Option Change
  | .upsert _ clock u =>
    match db.records.upsert env clock u with
    | .ok (_, change) => change
    | .error _ => none
  | .cycle _ => none

def Db.changes (db : Db) : List Action → List Change
  | [] => []
  | action :: actions => (db.change? env action).toList ++ (db.act env action).changes actions

end

/-! ### Changes and canonical values -/

section Changes

variable {env : Platform} {db : Db} {r r' : Records} {clock : Timestamp} {u : Upsert}
  {change : Option Change}

theorem canonicalValues_ne_nil (env : Platform) (row : Row) : row.canonicalValues env ≠ [] := by
  unfold Row.canonicalValues
  cases row.entity with
  | order | coupon | verify | refund | storePoiMapping => simp [Entity.canonicalFields]

theorem Outcome.find_target (h : Outcome env r clock u r' change) :
    (r' = r ∧ change = none) ∨ ∃ row before payload, u.Carries payload ∧
      r'.find u.target.1 u.target.2 = some row ∧ (row.entity, row.key) = u.target ∧
      change = r'.captured env row before payload ∧
      (before = [] ∧ r.find u.target.1 u.target.2 = none ∨
        ∃ old, r.find u.target.1 u.target.2 = some old ∧ before = old.canonicalValues env) := by
  cases h with
  | kept => exact .inl ⟨rfl, rfl⟩
  | inserted payload _ carries find records =>
    have htgt := Row.inserted_target u.target.1 u.target.2 r.nextRowId payload clock
    refine .inr ⟨_, [], payload, carries, ?_, htgt, rfl, .inl ⟨rfl, find⟩⟩
    unfold Records.find
    rw [records, Table.get?_put, htgt, if_pos rfl]
  | updated row payload applyBusiness carries find apply =>
    have htgt := (Row.updated_target row payload applyBusiness clock).trans
      (r.rows.key_of_get? find)
    refine .inr ⟨_, _, payload, carries, ?_, htgt, rfl, .inr ⟨row, find, rfl⟩⟩
    unfold Records.find Records.put
    rw [Table.get?_put, htgt, if_pos rfl]

theorem Records.captured_eq_some {row : Row} {before : Canonical} {values : Values} {c : Change}
    (h : r.captured env row before values = some c) :
    before ≠ row.canonicalValues env ∧ c.entity = row.entity ∧ c.entityKey = row.key ∧
      c.observationKey = values.observationKey ∧ c.sourceObservedAt = values.observedAt := by
  unfold Records.captured at h
  split at h
  · cases h
  · rename_i hne
    cases h
    exact ⟨hne, rfl, rfl, rfl, rfl⟩

theorem Outcome.change_target {c : Change} (h : Outcome env r clock u r' (some c)) :
    c.entity = u.target.1 ∧ c.entityKey = u.target.2 := by
  rcases h.find_target with ⟨_, hnone⟩ | ⟨row, before, payload, _, _, htgt, hchg, _⟩
  · cases hnone
  · obtain ⟨_, hent, hkey, _⟩ := Records.captured_eq_some hchg.symm
    rw [hent, hkey, ← htgt]
    exact ⟨rfl, rfl⟩

theorem upsert_of_change {writer : String} {c : Change}
    (h : db.change? env (.upsert writer clock u) = some c) :
    ∃ r', db.records.upsert env clock u = .ok (r', some c) := by
  cases hups : db.records.upsert env clock u with
  | error e =>
    rw [Db.change?, hups] at h
    cases h
  | ok result =>
    rw [Db.change?, hups] at h
    exact ⟨result.1, by rw [← h]⟩

/-- A step captures a change exactly when it changes the canonical values. -/
theorem canonical_ne_iff (hs : Settled db.queue) (writer : String) :
    db.canonical env u.target ≠ (db.act env (.upsert writer clock u)).canonical env u.target ↔
      ∃ c, db.change? env (.upsert writer clock u) = some c := by
  cases hups : db.records.upsert env clock u with
  | error e =>
    have hnone : db.change? env (.upsert writer clock u) = none := by rw [Db.change?, hups]
    rw [Db.act_of_upsert_error hups, hnone]
    exact ⟨fun h => absurd rfl h, fun ⟨c, h⟩ => by cases h⟩
  | ok result =>
    obtain ⟨_, change⟩ := result
    obtain ⟨_, hact, _⟩ := Db.act_of_upsert_ok hs writer hups
    have hchg : db.change? env (.upsert writer clock u) = change := by rw [Db.change?, hups]
    rw [hact, hchg]
    unfold Db.canonical
    rcases (outcome_upsert hups).find_target with ⟨hr, hnone⟩ |
      ⟨row, before, payload, _, hfind, _, hcap, hold⟩
    · rw [hr, hnone]
      exact ⟨fun h => absurd rfl h, fun ⟨c, h⟩ => by cases h⟩
    · rw [hfind, hcap, map_some]
      have hbef : (db.records.find u.target.1 u.target.2).map (Row.canonicalValues env) ≠
          some (row.canonicalValues env) ↔ before ≠ row.canonicalValues env := by
        rcases hold with ⟨rfl, hnone⟩ | ⟨old, hfindOld, rfl⟩
        · rw [hnone]
          exact ⟨fun _ h => canonicalValues_ne_nil env row h.symm, fun _ h => by cases h⟩
        · rw [hfindOld]
          exact not_congr ⟨some.inj, congrArg some⟩
      rw [hbef]
      constructor
      · intro hne
        exact ⟨_, if_neg hne⟩
      · rintro ⟨c, hc⟩
        exact (Records.captured_eq_some hc).1

end Changes

/-! ### What is recorded -/

structure Recording (env : Platform) (db : Db) (seen : List Change) : Prop where
  settled : Settled db.queue
  recorded : ∀ change, Recorded env db.queue change ↔ change ∈ seen

section Recording

variable {env : Platform} {db : Db} {seen : List Change}

theorem recording_empty (env : Platform) : Recording env {} [] where
  settled := settled_empty
  recorded := fun _ => ⟨fun ⟨_, hv, _⟩ => absurd hv not_mem_nil, fun h => absurd h not_mem_nil⟩

/-- The queue after a step: what the step captured, or the same impacts. -/
theorem Db.queue_act (hs : Settled db.queue) (env : Platform) (action : Action) :
    (db.change? env action = none ∧ (db.act env action).queue.impacts.rows = db.queue.impacts.rows) ∨
      ∃ c, db.change? env action = some c ∧ Captured env db.queue c (db.act env action).queue := by
  cases action with
  | cycle step =>
    refine .inl ⟨rfl, ?_⟩
    change (db.queue.act step.1).impacts.rows = _
    rw [(keepsImpacts_act db.queue step).impacts]
  | upsert writer clock u =>
    cases hups : db.records.upsert env clock u with
    | error e =>
      rw [Db.change?, hups, Db.act_of_upsert_error hups]
      exact .inl ⟨rfl, rfl⟩
    | ok result =>
      obtain ⟨_, change⟩ := result
      obtain ⟨_, hact, _, hcap, hsame⟩ := Db.act_of_upsert_ok hs writer hups
      rw [Db.change?, hups, hact]
      cases change with
      | none => exact .inl ⟨rfl, by rw [hsame rfl]⟩
      | some c => exact .inr ⟨c, rfl, hcap c rfl⟩

theorem Recording.act (h : Recording env db seen) (hdig : Function.Injective env.digest)
    (action : Action) :
    Recording env (db.act env action) (seen ++ (db.change? env action).toList) := by
  refine ⟨Db.settled_act h.settled action, ?_⟩
  intro change
  have hold := h.recorded change
  unfold Recorded at hold ⊢
  rcases Db.queue_act h.settled env action with ⟨hnone, hrows⟩ | ⟨c, hsome, hcap⟩
  · rw [hnone, hrows, hold]
    simp
  · rw [hsome, toList_some, mem_append, mem_singleton]
    cases hcap with
    | before recorded impacts items =>
      -- the digest was there, and so was the change
      have hc : c ∈ seen := (h.recorded c).mp recorded
      rw [impacts, hold]
      exact ⟨.inl, fun hmem => hmem.elim id fun he => he ▸ hc⟩
    | now unrecorded impacts items =>
      rw [impacts]
      constructor
      · rintro ⟨v, hv, hkey⟩
        rcases mem_append.mp hv with hv | hv
        · exact .inl (hold.mp ⟨v, hv, hkey⟩)
        · rw [mem_singleton.mp hv] at hkey
          exact .inr (hdig hkey).symm
      · rintro (hmem | rfl)
        · obtain ⟨v, hv, hkey⟩ := hold.mpr hmem
          exact ⟨v, mem_append_left _ hv, hkey⟩
        · exact ⟨⟨impactOf env db.queue change, none⟩, by simp, rfl⟩

/-- A step leaves its work exactly when its change is new. -/
theorem Recording.stepLeavesWork_iff (h : Recording env db seen) (action : Action) :
    db.StepLeavesWork env action ↔ ∀ c, db.change? env action = some c → c ∉ seen := by
  cases action with
  | cycle step =>
    refine ⟨fun _ c hc => ?_, fun _ => trivial⟩
    cases hc
  | upsert writer clock u =>
    change (db.canonical env u.target ≠ (db.act env (.upsert writer clock u)).canonical env u.target →
      LeavesWork db (db.act env (.upsert writer clock u)) u.target) ↔ _
    rw [canonical_ne_iff h.settled writer]
    rcases Db.queue_act h.settled env (.upsert writer clock u) with ⟨hnone, _⟩ |
      ⟨c, hsome, hcap⟩
    · rw [hnone]
      exact ⟨fun _ c hc => (by cases hc), fun _ ⟨c, hc⟩ => by cases hc⟩
    · rw [hsome]
      have huns : (∀ c', some c = some c' → c' ∉ seen) ↔ c ∉ seen :=
        ⟨fun hall => hall c rfl, fun hc c' he => some.inj he ▸ hc⟩
      rw [huns]
      cases hcap with
      | before recorded impacts items =>
        have hc : c ∈ seen := (h.recorded c).mp recorded
        refine ⟨fun hleav => ?_, fun hnot => absurd hc hnot⟩
        -- the impacts are the same before and after
        obtain ⟨_, hm, hnew, _⟩ := hleav ⟨c, rfl⟩
        unfold Materialization.Db.visibleImpacts at hm
        rw [impacts] at hm
        exact absurd hm hnew
      | now unrecorded impacts items =>
        refine ⟨fun _ hc => unrecorded ((h.recorded c).mpr hc), fun _ _ => ?_⟩
        have htgt : c.entity = u.target.1 ∧ c.entityKey = u.target.2 := by
          obtain ⟨_, hups⟩ := upsert_of_change hsome
          exact (outcome_upsert hups).change_target
        refine ⟨impactOf env db.queue c, ?_, ?_, ?_, ?_, workItemOf db.queue c, ?_, rfl, ?_⟩
        · unfold Materialization.Db.visibleImpacts
          rw [impacts]
          simp
        · -- its number is above those in use
          intro hmem
          obtain ⟨v, hv, hrow⟩ := List.mem_map.mp hmem
          have hlt := (h.settled.impacts v (mem_filter.mp hv).1).2
          rw [hrow] at hlt
          exact absurd hlt (lt_irrefl _)
        · exact congrArg Entity.name htgt.1
        · exact htgt.2
        · unfold Materialization.Db.visibleItems
          rw [items]
          simp
        · exact fun hstt => by cases hstt

/-- A run leaves all its work exactly when no change comes twice. -/
theorem Recording.leavesAllWork_iff (hdig : Function.Injective env.digest)
    (actions : List Action) : ∀ {db : Db} {seen : List Change}, Recording env db seen →
      (db.LeavesAllWork env actions ↔
        (db.changes env actions).Nodup ∧ ∀ c ∈ db.changes env actions, c ∉ seen) := by
  induction actions with
  | nil =>
    intro db seen _
    refine ⟨fun _ => ⟨nodup_nil, fun c hc => absurd hc not_mem_nil⟩, fun _ => ?_⟩
    intro before action after heq
    simp at heq
  | cons action actions ih =>
    intro db seen h
    have hstep : db.LeavesAllWork env (action :: actions) ↔
        db.StepLeavesWork env action ∧ (db.act env action).LeavesAllWork env actions := by
      constructor
      · intro hall
        refine ⟨hall [] action actions rfl, ?_⟩
        intro before next after heq
        exact hall (action :: before) next after (by rw [heq]; rfl)
      · rintro ⟨hfst, hrest⟩ before next after heq
        cases before with
        | nil =>
          obtain ⟨rfl, rfl⟩ := cons.inj heq
          exact hfst
        | cons first before =>
          obtain ⟨rfl, hact⟩ := cons.inj heq
          exact hrest before next after hact
    have hchgs : db.changes env (action :: actions) =
        (db.change? env action).toList ++ (db.act env action).changes env actions := rfl
    rw [hstep, h.stepLeavesWork_iff, ih (h.act hdig action), hchgs]
    cases db.change? env action with
    | none => simp
    | some c =>
      simp only [some.injEq, forall_eq', toList_some, cons_append,
        nil_append, nodup_cons, mem_append, mem_singleton, not_or,
        forall_mem_cons]
      constructor
      · rintro ⟨hc, hnd, hrest⟩
        exact ⟨⟨fun hmem => (hrest c hmem).2 rfl, hnd⟩, hc, fun d hd => (hrest d hd).1⟩
      · rintro ⟨⟨hmem, hnd⟩, hc, hrest⟩
        exact ⟨hc, hnd, fun d hd => ⟨hrest d hd, fun he => hmem (he ▸ hd)⟩⟩

end Recording

/-! ### Changes in the order of their observations -/

def rankOf (observedAt : Option Timestamp) (key : Option String) :
    WithBot Timestamp ×ₗ WithBot String :=
  toLex (observedAt.elim ⊥ WithBot.some, key.elim ⊥ WithBot.some)

def Row.rank (row : Row) := rankOf row.observedAt row.observationKey

def Values.rank (values : Values) := rankOf values.observedAt values.observationKey

def Change.rank (c : Change) := rankOf c.sourceObservedAt c.observationKey

/-- At the time of the row, the content key of its document comes to a row with another key. -/
def Row.isReset (env : Platform) (row : Row) (values : Values) : Bool :=
  row.observedAt.isSome && row.observedAt = values.observedAt &&
    isContentKey values.observationKey &&
    values.observationKey = some ("source:" ++ env.fingerprint row.document) &&
    row.observationKey ≠ values.observationKey

/-- The upsert gives a source time, if it maps a POI, and does not reset the key of its row. -/
def Db.isOrdered (env : Platform) (db : Db) : Action → Bool
  | .upsert _ _ u =>
    (u.target.1 ≠ .storePoiMapping || u.values.observedAt.isSome) &&
      !(db.records.find u.target.1 u.target.2).any fun row => row.isReset env u.values
  | .cycle _ => true

def Db.isOrderedRun (env : Platform) (db : Db) : List Action → Bool
  | [] => true
  | action :: actions => db.isOrdered env action && (db.act env action).isOrderedRun env actions

section Ranks

variable {t t' : Timestamp} {key key' : Option String}

theorem rankOf_lt_of_none : rankOf none key < rankOf (some t) key' :=
  Prod.Lex.toLex_lt_toLex.mpr (.inl (WithBot.bot_lt_coe t))

theorem rankOf_lt_of_time (h : t < t') : rankOf (some t) key < rankOf (some t') key' :=
  Prod.Lex.toLex_lt_toLex.mpr (.inl (WithBot.coe_lt_coe.mpr h))

theorem rankOf_lt_of_key {o : Option Timestamp} {k k' : String} (h : k < k') :
    rankOf o (some k) < rankOf o (some k') :=
  Prod.Lex.toLex_lt_toLex.mpr (.inr ⟨rfl, WithBot.coe_lt_coe.mpr h⟩)

theorem rankOf_lt_of_no_key {o : Option Timestamp} {k : String} :
    rankOf o none < rankOf o (some k) :=
  Prod.Lex.toLex_lt_toLex.mpr (.inr ⟨rfl, WithBot.bot_lt_coe k⟩)

theorem rankOf_none_le (o : Option Timestamp) : rankOf o none ≤ rankOf o key := by
  cases key with
  | none => exact le_rfl
  | some k => exact rankOf_lt_of_no_key.le

end Ranks

section Ordered

variable {env : Platform} {row : Row} {values : Values}

/-- At the time of the row, a newer observation has a greater key. -/
theorem rank_lt_of_isNewerAtSameTime (htime : values.observedAt = row.observedAt)
    (hsome : row.observedAt.isSome = true) (hreset : row.isReset env values = false)
    (h : row.isNewerAtSameTime env values = .ok true) : row.rank < values.rank := by
  unfold Row.rank Values.rank
  rw [htime]
  unfold Row.isNewerAtSameTime at h
  split at h
  · rename_i hcont
    split at h
    · -- the one way to be newer under a content key is a reset
      have hboth := Except.ok.inj h
      rw [Bool.and_eq_true] at hboth
      rw [Row.isReset, hsome, htime, hcont, hboth.1, hboth.2] at hreset
      simp at hreset
    · cases h
  · cases hrow : row.observationKey with
    | none =>
      cases hvals : values.observationKey with
      | none =>
        rw [hrow, hvals] at h
        cases h
      | some candidate => exact rankOf_lt_of_no_key
    | some current =>
      cases hvals : values.observationKey with
      | none =>
        rw [hrow, hvals] at h
        cases h
      | some candidate =>
        rw [hrow, hvals] at h
        exact rankOf_lt_of_key (of_decide_eq_true (Except.ok.inj h))

/-- An observation that is newer in order has a time, and a greater rank than the row. -/
theorem rank_lt_of_newer {parentUpdatedAt : Option Timestamp}
    (hmapp : row.entity = .storePoiMapping → values.observedAt.isSome = true)
    (hreset : row.isReset env values = false)
    (h : row.observationIsNewer env values parentUpdatedAt = .ok true) :
    values.observedAt.isSome = true ∧ row.rank < values.rank := by
  unfold Row.observationIsNewer at h
  split at h
  · rename_i currentAt hcur
    unfold Row.isNewerThan at h
    split at h
    · cases h
    · rename_i candidateAt hcand
      refine ⟨by rw [hcand]; rfl, ?_⟩
      cases hrow : row.observedAt with
      | none =>
        unfold Row.rank Values.rank
        rw [hrow, hcand]
        exact rankOf_lt_of_none
      | some t =>
        rw [hrow] at hcur
        obtain rfl : t = currentAt := some.inj hcur
        split at h
        · cases h
        · rename_i hle
          split at h
          · rename_i hlt
            unfold Row.rank Values.rank
            rw [hrow, hcand]
            exact rankOf_lt_of_time hlt
          · rename_i hge
            have heq : candidateAt = t := le_antisymm (not_lt.mp hge) (not_lt.mp hle)
            exact rank_lt_of_isNewerAtSameTime (by rw [hcand, hrow, heq])
              (by rw [hrow]; rfl) hreset h
  · rename_i hcur
    split at h
    · rename_i hcand
      refine ⟨by rw [hcand]; rfl, ?_⟩
      unfold Row.rank Values.rank
      rw [hcand, (or_eq_none_iff.mp hcur).1]
      exact rankOf_lt_of_none
    · -- without a time, only a mapping can be newer
      rename_i hnone
      have hboth := Except.ok.inj h
      rw [Bool.and_eq_true, decide_eq_true_eq] at hboth
      rw [hnone] at hmapp
      cases hmapp hboth.1

/-- The row of an applied observation ranks no lower than it. -/
theorem rank_le_updated (hsome : values.observedAt.isSome = true) (clock : Timestamp) :
    values.rank ≤ ((row.setObservedValues values true).flushed row clock).rank := by
  have hcol : ∀ f, f ∈ row.entity.columns → f ≠ .successfulObservedAt → f ≠ .updatedAt →
      ((row.setObservedValues values true).flushed row clock).columns f =
        if values.has f then values.get f else row.columns f := by
    intro f hf hsuc hupd
    rw [Row.columns_flushed _ _ _ hsuc hupd]
    change (if row.accepts true values f then _ else _) = _
    rw [Row.accepts, contains_iff_mem.mpr hf]
    simp
  have htime : ((row.setObservedValues values true).flushed row clock).observedAt =
      values.observedAt := by
    have hget : values.get .sourceObservedAt ≠ .null := by
      intro hnull
      rw [Values.observedAt, hnull] at hsome
      cases hsome
    rw [Row.observedAt, hcol _ (sourceObservedAt_mem_columns _) (by decide) (by decide),
      if_pos (Values.has_of_get hget)]
    rfl
  unfold Values.rank Row.rank
  rw [htime]
  cases hkey : values.observationKey with
  | none => exact rankOf_none_le _
  | some k =>
    have hget : values.get .observationKey ≠ .null := by
      intro hnull
      rw [Values.observationKey, hnull] at hkey
      cases hkey
    have hrowKey : ((row.setObservedValues values true).flushed row clock).observationKey =
        some k := by
      rw [Row.observationKey, hcol _ (observationKey_mem_columns _) (by decide) (by decide),
        if_pos (Values.has_of_get hget)]
      exact hkey
    rw [hrowKey]

theorem rank_inserted (entity : Entity) (key : String) (id : Nat) (values : Values)
    (clock : Timestamp) : (Row.inserted entity key id values clock).rank = values.rank := by
  have hdef : ∀ f, (f = .sourceObservedAt ∨ f = .observationKey) → f ∈ entity.columns →
      (Row.inserted entity key id values clock).columns f = values.get f := by
    intro f hf hcol
    have hsuc : f ≠ .successfulObservedAt := by
      rcases hf with rfl | rfl
      · decide
      · decide
    have hnulla : f ∉ entity.notNull := by
      rcases hf with rfl | rfl
      · cases entity <;> decide
      · cases entity <;> decide
    rw [columns_inserted key id values clock hcol hsuc, default_of_notMem hnulla]
    split
    · rename_i hnull
      exact hnull.symm
    · rfl
  unfold Row.rank Values.rank Row.observedAt Row.observationKey Values.observedAt
    Values.observationKey
  rw [hdef _ (.inl rfl) (sourceObservedAt_mem_columns entity),
    hdef _ (.inr rfl) (observationKey_mem_columns entity)]

/-- An observation that is not applied changes neither the rank nor the canonical values. -/
theorem rank_stale (row : Row) (values : Values) (clock : Timestamp) :
    ((row.setObservedValues values false).flushed row clock).rank = row.rank := by
  unfold Row.rank Row.observedAt Row.observationKey
  rw [columns_stale row values clock (by decide) rfl, columns_stale row values clock (by decide) rfl]

theorem canonicalValues_stale (env : Platform) (row : Row) (values : Values) (clock : Timestamp) :
    ((row.setObservedValues values false).flushed row clock).canonicalValues env =
      row.canonicalValues env := by
  have htgt := Row.updated_target row values false clock
  have hent := congrArg Prod.fst htgt
  have hkey := congrArg Prod.snd htgt
  have hcan : ∀ f ∈ row.entity.canonicalFields, f ≠ .successfulObservedAt ∧
      f.isStaleSafe = false := by
    cases row.entity with
    | order | coupon | verify | refund | storePoiMapping => decide
  dsimp only at hent hkey
  unfold Row.canonicalValues
  rw [hent, columns_stale row values clock (by decide) rfl,
    columns_stale row values clock (by decide) rfl]
  congr 1
  refine map_congr_left fun f hf => ?_
  obtain ⟨hsuc, hstale⟩ := hcan f hf
  unfold Row.get
  rw [hent, hkey, columns_stale row values clock hsuc hstale]

/-- An ordered upsert does not lower the rank of its row, and its change lies above the old rank and
not above the new one. -/
theorem Outcome.ranks {r r' : Records} {clock : Timestamp} {u : Upsert} {change : Option Change}
    (h : Outcome env r clock u r' change)
    (hmapp : u.target.1 = .storePoiMapping → u.values.observedAt.isSome = true)
    (hreset : ∀ row, r.find u.target.1 u.target.2 = some row → row.isReset env u.values = false) :
    (∀ row, r.find u.target.1 u.target.2 = some row →
      ∃ row', r'.find u.target.1 u.target.2 = some row' ∧ row.rank ≤ row'.rank) ∧
    ∀ c, change = some c → ∃ row', r'.find u.target.1 u.target.2 = some row' ∧ c.rank ≤ row'.rank ∧
      ∀ row, r.find u.target.1 u.target.2 = some row → row.rank < c.rank := by
  cases h with
  | kept => exact ⟨fun row hfind => ⟨row, hfind, le_rfl⟩, fun c hc => by cases hc⟩
  | inserted payload _ carries find records =>
    have hfind' : r'.find u.target.1 u.target.2 =
        some (Row.inserted u.target.1 u.target.2 r.nextRowId payload clock) := by
      unfold Records.find
      rw [records, Table.get?_put, Row.inserted_target, if_pos rfl]
    refine ⟨fun row hfind => ?_, fun c hc => ⟨_, hfind', ?_, fun row hfind => ?_⟩⟩
    · rw [find] at hfind
      cases hfind
    · obtain ⟨_, _, _, hkey, htime⟩ := Records.captured_eq_some hc
      rw [rank_inserted, Change.rank, hkey, htime]
      exact le_rfl
    · rw [find] at hfind
      cases hfind
  | updated row payload applyBusiness carries find apply =>
    have hent : row.entity = u.target.1 := congrArg Prod.fst (r.rows.key_of_get? find)
    have hfind' : (r.put ((row.setObservedValues payload applyBusiness).flushed row clock)).find
        u.target.1 u.target.2 =
          some ((row.setObservedValues payload applyBusiness).flushed row clock) := by
      unfold Records.find Records.put
      rw [Table.get?_put, (Row.updated_target row payload applyBusiness clock).trans
        (r.rows.key_of_get? find), if_pos rfl]
    cases applyBusiness with
    | false =>
      refine ⟨fun old hfind => ⟨_, hfind', ?_⟩, fun c hc => ?_⟩
      · obtain rfl : row = old := mem_unique find hfind
        rw [rank_stale]
      · have hne := (Records.captured_eq_some hc).1
        rw [canonicalValues_stale] at hne
        exact absurd rfl hne
    | true =>
      have hmapp' : row.entity = .storePoiMapping → payload.observedAt.isSome = true := by
        rw [hent, carries.observedAt]
        exact hmapp
      have hreset' : row.isReset env payload = false := by
        have hrow := hreset row find
        unfold Row.isReset at hrow ⊢
        rw [carries.observedAt, carries.observationKey]
        exact hrow
      have hnewer : payload.observedAt.isSome = true ∧ row.rank < payload.rank := by
        rcases apply rfl with ⟨parentUpdatedAt, hnewer⟩ | ⟨hst, hnone⟩
        · exact rank_lt_of_newer hmapp' hreset' hnewer
        · rw [hnone] at hmapp'
          cases hmapp' hst
      have hle : payload.rank ≤ ((row.setObservedValues payload true).flushed row clock).rank :=
        rank_le_updated hnewer.1 clock
      refine ⟨fun old hfind => ⟨_, hfind', ?_⟩, fun c hc => ⟨_, hfind', ?_, fun old hfind => ?_⟩⟩
      · obtain rfl : row = old := mem_unique find hfind
        exact hnewer.2.le.trans hle
      · obtain ⟨_, _, _, hkey, htime⟩ := Records.captured_eq_some hc
        rw [Change.rank, hkey, htime]
        exact hle
      · obtain rfl : row = old := mem_unique find hfind
        obtain ⟨_, _, _, hkey, htime⟩ := Records.captured_eq_some hc
        rw [Change.rank, hkey, htime]
        exact hnewer.2

def Ranked (db : Db) (seen : List Change) : Prop :=
  ∀ c ∈ seen, ∃ row, db.records.find c.entity c.entityKey = some row ∧ c.rank ≤ row.rank

variable {db : Db} {seen : List Change}

theorem Ranked.act (h : Ranked db seen) (hs : Settled db.queue) {action : Action}
    (hord : db.isOrdered env action = true) : (∀ c, db.change? env action = some c → c ∉ seen) ∧
      Ranked (db.act env action) (seen ++ (db.change? env action).toList) := by
  cases action with
  | cycle step =>
    refine ⟨fun c hc => (by cases hc), ?_⟩
    rw [Db.change?, toList_none, append_nil]
    exact h
  | upsert writer clock u =>
    cases hups : db.records.upsert env clock u with
    | error e =>
      rw [Db.change?, hups, Db.act_of_upsert_error hups, toList_none, append_nil]
      exact ⟨fun c hc => (by cases hc), h⟩
    | ok result =>
      obtain ⟨_, change⟩ := result
      have houtc := outcome_upsert hups
      rw [Db.isOrdered, Bool.and_eq_true, Bool.or_eq_true, decide_eq_true_eq] at hord
      have hmapp : u.target.1 = .storePoiMapping → u.values.observedAt.isSome = true :=
        fun hst => hord.1.resolve_left fun hne => hne hst
      have hreset : ∀ row, db.records.find u.target.1 u.target.2 = some row →
          row.isReset env u.values = false := by
        intro row hfind
        have hany := hord.2
        rw [hfind] at hany
        simpa using hany
      obtain ⟨hold, hnew⟩ := houtc.ranks hmapp hreset
      obtain ⟨_, hact, _⟩ := Db.act_of_upsert_ok hs writer hups
      rw [Db.change?, hups, hact]
      refine ⟨?_, ?_⟩
      · rintro c rfl hc
        have htgt := houtc.change_target
        obtain ⟨row, hfind, hle⟩ := h c hc
        obtain ⟨_, _, _, hlt⟩ := hnew c rfl
        rw [htgt.1, htgt.2] at hfind
        exact absurd hle (not_le.mpr (hlt row hfind))
      · intro c hc
        rcases mem_append.mp hc with hc | hc
        · obtain ⟨row, hfind, hle⟩ := h c hc
          by_cases htgt : u.target = (c.entity, c.entityKey)
          · have hent := congrArg Prod.fst htgt
            have hkey := congrArg Prod.snd htgt
            rw [hent, hkey] at hold
            obtain ⟨row', hfind', hle'⟩ := hold row hfind
            exact ⟨row', hfind', hle.trans hle'⟩
          · exact ⟨row, (houtc.find_other htgt).trans hfind, hle⟩
        · obtain rfl : change = some c := by
            cases change with
            | none => cases hc
            | some c' => rw [mem_singleton.mp hc]
          have htgt := houtc.change_target
          obtain ⟨row', hfind', hle, _⟩ := hnew c rfl
          refine ⟨row', ?_, hle⟩
          rw [htgt.1, htgt.2]
          exact hfind'

theorem Ranked.nodup_changes (actions : List Action) :
    ∀ {db : Db} {seen : List Change}, Ranked db seen → Settled db.queue →
      db.isOrderedRun env actions = true →
        (db.changes env actions).Nodup ∧ ∀ c ∈ db.changes env actions, c ∉ seen := by
  induction actions with
  | nil => exact fun _ _ _ => ⟨nodup_nil, fun c hc => absurd hc not_mem_nil⟩
  | cons action actions ih =>
    intro db seen h hs hord
    rw [Db.isOrderedRun, Bool.and_eq_true] at hord
    obtain ⟨hfr, hrank⟩ := h.act hs hord.1
    obtain ⟨hnd, huns⟩ := ih hrank (Db.settled_act hs action) hord.2
    have hchgs : db.changes env (action :: actions) =
        (db.change? env action).toList ++ (db.act env action).changes env actions := rfl
    refine ⟨nodup_append.mpr ⟨?_, hnd, ?_⟩, ?_⟩
    · cases db.change? env action with
      | none => exact nodup_nil
      | some c => exact nodup_singleton c
    · rintro c hc d hd rfl
      exact huns c hd (mem_append_right _ hc)
    · intro c hc
      rcases mem_append.mp hc with hc | hc
      · exact hfr c (mem_toList.mp hc)
      · exact fun hseen => huns c hc (mem_append_left _ hseen)

end Ordered

/-- With digests that do not collide, every upsert of a run that changes the canonical values of its
record leaves an impact of its own and open work, exactly when no change of the run comes twice: the
same record, values, closure, key and source time.  This is so when every mapping of a POI comes with
a source time and no upsert resets the key of its row. -/
theorem changes_leave_fresh_work_iff {env : Platform} (hdigest : Function.Injective env.digest)
    (actions : List Action) :
    (Db.LeavesAllWork env {} actions ↔ (Db.changes env {} actions).Nodup) ∧
      (Db.isOrderedRun env {} actions = true → Db.LeavesAllWork env {} actions) := by
  have hiff : Db.LeavesAllWork env {} actions ↔ (Db.changes env {} actions).Nodup := by
    rw [(recording_empty env).leavesAllWork_iff hdigest]
    exact ⟨And.left, fun h => ⟨h, fun _ _ => not_mem_nil⟩⟩
  refine ⟨hiff, fun hordered => hiff.mpr ?_⟩
  have hranked : Ranked {} [] := fun c hc => absurd hc not_mem_nil
  exact (hranked.nodup_changes actions settled_empty hordered).1

namespace ImpactSample

theorem fieldIdx_injective : Function.Injective Field.ctorIdx := fun f g h => by
  rw [← Field.ofNat_ctorIdx f, h, Field.ofNat_ctorIdx]

def fieldCode : TextCode Field := TextCode.nat.ofInjective Field.ctorIdx fieldIdx_injective

theorem entityIdx_injective : Function.Injective Entity.ctorIdx := fun e e' h => by
  rw [← Entity.ofNat_ctorIdx e, h, Entity.ofNat_ctorIdx]

def entityCode : TextCode Entity := TextCode.nat.ofInjective Entity.ctorIdx entityIdx_injective

def valueParts : Value → Option (String ⊕ Int ⊕ Int ⊕ Nat)
  | .null => none
  | .text s => some (.inl s)
  | .int n => some (.inr (.inl n))
  | .instant t => some (.inr (.inr (.inl t)))
  | .bool b => some (.inr (.inr (.inr b.toNat)))

theorem valueParts_injective : Function.Injective valueParts := by
  intro v w h
  cases v <;> cases w <;> simp_all [valueParts]
  rename_i b b'
  cases b <;> cases b' <;> simp_all

def valueCode : TextCode Value :=
  ((TextCode.string.sum (TextCode.int.sum (TextCode.int.sum TextCode.nat))).option).ofInjective
    valueParts valueParts_injective

def closureCode : TextCode Closure :=
  (TextCode.string.list.list).ofInjective
    (fun c => [c.orderIds, c.couponIds, c.poiIds, c.storeIds, c.saleMonths, c.verifyMonths,
      c.refundMonths, c.affectedMonths]) fun c d h => by
    cases c
    cases d
    simp_all

def changeCode : TextCode Change :=
  (entityCode.pair (TextCode.string.pair ((fieldCode.pair valueCode).list.pair
    ((fieldCode.pair valueCode).list.pair (closureCode.pair
      (TextCode.string.option.pair TextCode.int.option)))))).ofInjective
    (fun c => (c.entity, c.entityKey, c.before, c.after, c.closure, c.observationKey,
      c.sourceObservedAt)) fun c d h => by
    cases c
    cases d
    simp_all

def platform : Platform where
  sourceTime := fun _ _ => none
  fingerprint := id
  isoformat := fun _ => ""
  digest := changeCode.write

def map (storeId : String) : Action := .upsert "run-1" 0 (.storePoiMapping storeId "poi-1" false {})

def completeCycle (workItemId : Nat) : List Action :=
  [.cycle ⟨.begin "clue_materialization" "cycle", rfl⟩,
    .cycle ⟨.claim { cycleId := "cycle", leaseToken := "attempt", clock := 0 }, rfl⟩,
    .cycle ⟨.complete [workItemId] "attempt" 1, rfl⟩]

/-- From one store to the other, back, and there again, each time followed by a cycle. -/
def backAndForth : List Action :=
  map "a" :: completeCycle 1 ++ map "b" :: completeCycle 2 ++ map "a" :: completeCycle 3

/-- The last change repeats an earlier one: it leaves neither an impact nor open work. -/
theorem repeated_mapping_leaves_no_work :
    ¬ Db.LeavesAllWork platform {} (backAndForth ++ [map "b"]) ∧
      (Db.run platform {} backAndForth).canonical platform (.storePoiMapping, "poi-1") =
        some [(.storeId, .text "a"), (.poiId, .text "poi-1"), (.poiName, .null),
          (.isPrimary, .bool false)] ∧
      (Db.run platform {} (backAndForth ++ [map "b"])).canonical platform
          (.storePoiMapping, "poi-1") =
        some [(.storeId, .text "b"), (.poiId, .text "poi-1"), (.poiName, .null),
          (.isPrimary, .bool false)] ∧
      (Db.run platform {} (backAndForth ++ [map "b"])).queue.visibleItems.map
          (fun i => (i.workItemId, i.state)) =
        [(1, .completed), (2, .completed), (3, .completed)] := by
  refine ⟨?_, ?_, ?_, ?_⟩
  · rw [(recording_empty platform).leavesAllWork_iff changeCode.write_injective]
    decide +kernel
  · decide +kernel
  · decide +kernel
  · decide +kernel

def observed : List Action :=
  [.upsert "run-1" 0 (.order "order-1" { fields := [(.sourceObservedAt, .instant 1)] }),
    .upsert "run-1" 0 (.coupon "coupon-1" "order-1" { fields := [(.sourceObservedAt, .instant 1)] }),
    .upsert "run-2" 5 (.coupon "coupon-1" "order-1" { fields := [(.sourceObservedAt, .instant 2),
      (.couponRefundedAmountCent, .int 100)] })]

theorem observed_changes_leave_work :
    (Db.changes platform {} observed).length = 3 ∧ Db.LeavesAllWork platform {} observed := by
  refine ⟨by decide +kernel, ?_⟩
  exact (changes_leave_fresh_work_iff changeCode.write_injective observed).2 (by decide +kernel)

end ImpactSample

end DyData.RawRecords
