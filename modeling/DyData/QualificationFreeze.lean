import DyData.AccountQualification

/-!
A month is frozen once, from evidence that no observation of its last day contradicts.  Versions are
never written again and an observation that has ended never changes.
-/

namespace DyData.Qualification

open Relational
open Except (of_bind of_ofOption_bind)

/-- The state holds the evidence for the version: the observation it stems from is complete and lies
inside the last two hours of the month, and no observation of the last day is still running, ended
later, or was the latest started without success. -/
structure Evidence (env : Platform) (db : Db) (v : Version) (cutoff ended : Timestamp)
    (o : Observation) : Prop where
  ofMonth : env.cutoff v.businessMonth = some cutoff
  stored : db.observations.get? v.observationId = some o
  success : o.state = .success
  complete : o.complete = true
  startedInside : cutoff - maxAge ≤ o.startedAt ∧ o.startedAt < cutoff
  endedAt : o.endedAt = some ended
  endedInside : cutoff - maxAge ≤ ended ∧ ended < cutoff
  noneRunning : ∀ x ∈ db.lastDay cutoff, x.state ≠ .running
  noneLater : ∀ x ∈ db.lastDay cutoff, ∀ e, x.endedAt = some e → e ≤ ended
  latestSucceeded : ∀ x ∈ db.lastDay cutoff,
    (∀ y ∈ db.lastDay cutoff, y.startRank ≤ x.startRank) → x.state = .success

section

variable {env : Platform} {db db' : Db}

/-! ### The freeze -/

/-- The observation of the month end is the last to end, and the latest started one succeeded. -/
theorem monthEnd_ok {cutoff : Timestamp} {last : Observation} (h : db.monthEnd cutoff = .ok last) :
    last ∈ db.lastDay cutoff ∧ last.isFresh cutoff = true ∧
      (∀ x ∈ db.lastDay cutoff, x.endRank cutoff ≤ last.endRank cutoff) ∧
      (∀ x ∈ db.lastDay cutoff, x.state ≠ .running) ∧
      ∃ latest ∈ db.lastDay cutoff, latest.state = .success ∧
        ∀ x ∈ db.lastDay cutoff, x.startRank ≤ latest.startRank := by
  obtain ⟨latest, hlat, h⟩ := of_ofOption_bind h
  obtain ⟨_, hfd, h⟩ := of_ofOption_bind h
  obtain ⟨_, hens, h⟩ := of_bind h
  cases h
  have hne : db.lastDay cutoff ≠ [] := by
    intro hnil
    rw [hnil] at hlat
    cases hlat
  rw [Except.ensure_eq_ok_iff, Bool.and_eq_true, Bool.and_eq_true, decide_eq_true_eq,
    Bool.not_eq_true', List.any_eq_false] at hens
  obtain ⟨⟨hsuc, hfr⟩, hrun⟩ := hens
  obtain ⟨a, ha, heq, hmax⟩ := @LatestRegister.writeAll_none _ _ _ Observation.startRank _ hne
  obtain ⟨b, hb, heq', hmax'⟩ :=
    @LatestRegister.writeAll_none _ _ _ (Observation.endRank cutoff) _ hne
  obtain rfl : a = latest := Option.mem_unique heq hlat
  obtain rfl : b = last := Option.mem_unique heq' hfd
  refine ⟨hb, hfr, hmax', ?_, a, ha, hsuc, hmax⟩
  intro x hx hstt
  exact hrun x hx (decide_eq_true hstt)

/-- Ranks by end compare the ends. -/
theorem ended_le_of_endRank_le {cutoff e ended : Timestamp} {x o : Observation}
    (h : x.endRank cutoff ≤ o.endRank cutoff) (hx : x.endedAt = some e) (ho : o.endedAt = some ended) :
    e ≤ ended := by
  rcases Prod.Lex.toLex_le_toLex.mp h with hlt | ⟨heq, _⟩
  · rw [hx, ho] at hlt
    exact le_of_lt hlt
  · rw [hx, ho] at heq
    exact le_of_eq heq

theorem monthEnd_evidence {cutoff : Timestamp} {last : Observation}
    (h : db.monthEnd cutoff = .ok last) :
    ∃ ended, ∀ v : Version, env.cutoff v.businessMonth = some cutoff →
      v.observationId = last.observationId → Evidence env db v cutoff ended last := by
  obtain ⟨hmem, hfr, hends, hrun, latest, hlat, hsuc, hstar⟩ := monthEnd_ok h
  obtain ⟨hrow, hday⟩ := List.mem_filter.mp hmem
  rw [Bool.and_eq_true, decide_eq_true_eq, decide_eq_true_eq] at hday
  unfold Observation.isFresh at hfr
  simp only [bool_to_prop] at hfr
  obtain ⟨⟨⟨⟨hstt, hcomp⟩, _⟩, hended⟩, hstart⟩ := hfr
  cases hend : last.endedAt with
  | none =>
    rw [hend] at hended
    cases hended
  | some ended =>
    rw [hend] at hended
    have hins : ended < cutoff ∧ cutoff - maxAge ≤ ended := by simpa using hended
    refine ⟨ended, fun v hcut hobs => ⟨hcut, ?_, hstt, hcomp,
      ⟨hstart, hday.2⟩, hend, ⟨hins.2, hins.1⟩, hrun, ?_, ?_⟩⟩
    · rw [hobs]
      exact db.observations.get?_of_mem hrow
    · intro x hx e he
      exact ended_le_of_endRank_le (hends x hx) he hend
    · -- the latest started one is unique, by its identifier
      intro x hx hall
      have hrank : x.startRank = latest.startRank := le_antisymm (hstar x hx) (hall latest hlat)
      have hid : x.observationId = latest.observationId := (Prod.mk.inj (toLex_inj.mp hrank)).2
      have hsame : x = latest := db.observations.eq_of_key_eq (List.mem_filter.mp hx).1
        (List.mem_filter.mp hlat).1 hid
      rw [hsame]
      exact hsuc

/-- A freeze returns the version of the month, or writes it from evidence. -/
theorem freezeMonth_ok {month : String} {now : Timestamp} {v : Version}
    (h : db.freezeMonth env month now = .ok (db', v)) : db' = db ∧ db.versions.get? month = some v ∨
      db.versions.get? month = none ∧ v.businessMonth = month ∧
        db' = { db with versions := db.versions.put v } ∧
        ∃ cutoff ended o, Evidence env db v cutoff ended o := by
  obtain ⟨_, _, h⟩ := of_bind h
  obtain ⟨cutoff, hcut, h⟩ := of_ofOption_bind h
  obtain ⟨_, _, h⟩ := of_bind h
  split at h
  · rename_i hex
    cases h
    exact .inl ⟨rfl, hex⟩
  · rename_i hnone
    obtain ⟨last, hlast, h⟩ := of_bind h
    obtain ⟨_, _, h⟩ := of_bind h
    obtain ⟨_, _, h⟩ := of_bind h
    cases h
    obtain ⟨ended, hev⟩ := monthEnd_evidence hlast
    exact .inr ⟨hnone, rfl, rfl, cutoff, ended, last, hev _ hcut rfl⟩

/-! ### What a step keeps -/

/-- What every step keeps: the versions, and the observations that have ended. -/
structure Keeps (db db' : Db) : Prop where
  versions : ∀ month v, db.versions.get? month = some v → db'.versions.get? month = some v
  ended : ∀ id o, db.observations.get? id = some o → o.state ≠ .running →
    db'.observations.get? id = some o

theorem Keeps.refl (db : Db) : Keeps db db := ⟨fun _ _ h => h, fun _ _ h _ => h⟩

theorem Keeps.trans {db'' : Db} (h : Keeps db db') (h' : Keeps db' db'') : Keeps db db'' where
  versions := fun month v hv => h'.versions month v (h.versions month v hv)
  ended := fun id o ho hstt => h'.ended id o (h.ended id o ho hstt) hstt

theorem startObservation_ok {identity sourceRunId : String} {startedAt : Timestamp}
    {proof : List (String × JsonValue)}
    (h : db.startObservation identity sourceRunId startedAt proof = .ok db') :
    Keeps db db' ∧ db'.versions = db.versions := by
  obtain ⟨_, hins, h⟩ := of_ofOption_bind h
  cases h
  exact ⟨⟨fun _ _ hv => hv, fun id o ho _ => Table.get?_insert?_of_some hins ho⟩, rfl⟩

/-- A running observation is written back. -/
theorem keeps_update {found o : Observation} {id : String}
    (hfd : (db.observations.get? id).filter (fun o => o.state = .running) = some found)
    (hid : o.observationId = found.observationId) :
    Keeps db (db.update o) ∧ (db.update o).versions = db.versions := by
  obtain ⟨hget, hrun⟩ := Option.filter_eq_some_iff.mp hfd
  have hkey : found.observationId = id := db.observations.key_of_get? hget
  refine ⟨⟨fun _ _ hv => hv, fun id' other hoth hstt => ?_⟩, rfl⟩
  have hotherKey : other.observationId = id' := db.observations.key_of_get? hoth
  have hne : ¬ other.observationId = o.observationId := by
    intro he
    have hids : id' = id := by rw [← hotherKey, he, hid, hkey]
    rw [hids, hget] at hoth
    cases hoth
    exact hstt (of_decide_eq_true hrun)
  unfold Db.update
  rw [Table.get?_update, hoth, Option.map_some, if_neg (by simpa using hne)]

theorem completeObservation_ok {id : String} {batch : BindingRecords} {endedAt : Timestamp}
    (h : db.completeObservation env id batch endedAt = .ok db') :
    Keeps db db' ∧ db'.versions = db.versions := by
  obtain ⟨found, hfd, h⟩ := of_ofOption_bind h
  dsimp only at h
  split at h
  · cases h
    exact keeps_update hfd rfl
  · split at h
    · cases h
      exact keeps_update hfd rfl
    · rename_i records _ _
      cases h
      -- the snapshot is no part of what is kept
      have hupd := keeps_update (o := { found with
        sourceType := batch.sourceType
        endedAt := some endedAt
        proof := JsonValue.updateFields batch.proof found.proof
        contentSha256 := some (env.contentDigest records)
        state := .success
        complete := true }) hfd rfl
      exact ⟨⟨hupd.1.versions, hupd.1.ended⟩, hupd.2⟩

theorem failObservation_keeps (db : Db) (id errorCode : String) (endedAt : Timestamp) :
    Keeps db (db.failObservation id errorCode endedAt) ∧
      (db.failObservation id errorCode endedAt).versions = db.versions := by
  unfold Db.failObservation
  split
  · exact ⟨.refl db, rfl⟩
  · rename_i hfd
    exact keeps_update hfd rfl

theorem beginAutomaticObservation_ok {identity sourceRunId : String} {startedAt : Timestamp}
    {admission : CaptureAdmission}
    (h : db.beginAutomaticObservation env identity sourceRunId startedAt = .ok (db', admission)) :
    Keeps db db' ∧ db'.versions = db.versions := by
  unfold Db.beginAutomaticObservation at h
  split at h
  · cases h
    exact ⟨.refl db, rfl⟩
  · dsimp only at h
    split at h
    · cases h
      refine ⟨⟨fun _ _ hv => hv, fun id o ho hstt => ?_⟩, rfl⟩
      split
      · exact ho
      · -- there was no marker
        rename_i hmark
        rw [Table.get?_put, if_neg]
        · exact ho
        · intro he
          apply hmark
          rw [show budgetMarkerId (env.monthOf startedAt) = id from he.symm, ho]
          rfl
    · obtain ⟨_, hst0, h⟩ := of_bind h
      cases h
      exact startObservation_ok hst0

/-- A step keeps what is kept, and writes a version only by a freeze with evidence. -/
theorem act_effect (env : Platform) (db : Db) (action : Action) : Keeps db (db.act env action) ∧
      ∀ month v, (db.act env action).versions.get? month = some v → db.versions.get? month = none →
        v.businessMonth = month ∧ ∃ now, action = .freeze month now ∧
          ∃ cutoff ended o, Evidence env db v cutoff ended o := by
  -- the steps that leave the versions alone
  have hsame : ∀ db', Keeps db db' ∧ db'.versions = db.versions → Keeps db db' ∧
      ∀ month v, db'.versions.get? month = some v → db.versions.get? month = none →
        v.businessMonth = month ∧ ∃ now, action = .freeze month now ∧
          ∃ cutoff ended o, Evidence env db v cutoff ended o := by
    intro db' h
    refine ⟨h.1, fun month v hv hnone => ?_⟩
    rw [h.2, hnone] at hv
    cases hv
  unfold Db.act
  cases htry : db.tryAct env action with
  | error e => exact hsame db ⟨.refl db, rfl⟩
  | ok db' =>
    cases action with
    | beginAutomatic identity sourceRunId startedAt =>
      obtain ⟨⟨_, _⟩, hbegin, rfl⟩ := Except.map_eq_ok_iff.mp htry
      exact hsame _ (beginAutomaticObservation_ok hbegin)
    | start identity sourceRunId startedAt proof => exact hsame db' (startObservation_ok htry)
    | complete id batch endedAt => exact hsame db' (completeObservation_ok htry)
    | fail id errorCode endedAt =>
      cases htry
      exact hsame _ (failObservation_keeps db id errorCode endedAt)
    | freeze month now =>
      obtain ⟨⟨_, version⟩, hfree, rfl⟩ := Except.map_eq_ok_iff.mp htry
      rcases freezeMonth_ok hfree with ⟨rfl, _⟩ | ⟨hnone, hmo, rfl, hev⟩
      · exact hsame _ ⟨.refl _, rfl⟩
      · have hget : ∀ month', (db.versions.put version).get? month' =
            if month' = month then some version else db.versions.get? month' := by
          intro month'
          rw [Table.get?_put, hmo]
        refine ⟨⟨fun month' v hv => ?_, fun _ _ ho _ => ho⟩, fun month' v hv hnone' => ?_⟩
        · have hne : ¬ month' = month := by
            rintro rfl
            rw [hnone] at hv
            cases hv
          exact (hget month').trans ((if_neg hne).trans hv)
        · rw [hget] at hv
          split at hv
          · rename_i he
            cases hv
            subst he
            exact ⟨hmo, now, rfl, hev⟩
          · rw [hnone'] at hv
            cases hv

theorem keeps_run (env : Platform) (actions : List Action) :
    ∀ db : Db, Keeps db (db.run env actions) := by
  induction actions with
  | nil => exact Keeps.refl
  | cons action actions ih => exact fun db => (act_effect env db action).1.trans (ih _)

/-- The first step after which a month has a version is a freeze of it, and it keeps this
version. -/
theorem exists_freeze {month : String} {v : Version} (env : Platform) (actions : List Action) :
    ∀ db : Db, db.versions.get? month = none → (db.run env actions).versions.get? month = some v →
      ∃ before now after, actions = before ++ .freeze month now :: after ∧
        (db.run env before).versions.get? month = none ∧
        ((db.run env before).act env (.freeze month now)).versions.get? month = some v := by
  induction actions with
  | nil =>
    intro db hnone h
    rw [show db.run env [] = db from rfl, hnone] at h
    cases h
  | cons action actions ih =>
    intro db hnone h
    cases hstep : (db.act env action).versions.get? month with
    | none =>
      obtain ⟨before, now, after, rfl, hbef, hfroz⟩ := ih _ hstep h
      exact ⟨action :: before, now, after, rfl, hbef, hfroz⟩
    | some w =>
      have hkept := (keeps_run env actions (db.act env action)).versions month w hstep
      obtain rfl : w = v := Option.mem_unique hkept h
      obtain ⟨_, now, rfl, _⟩ := (act_effect env db action).2 month w hstep hnone
      exact ⟨[], now, actions, rfl, hnone, hstep⟩

/-- The version of a month stems from one freeze, which found the month without version and had the
evidence for it; after that neither the version nor its observation changes. -/
theorem month_frozen_once (env : Platform) (actions : List Action) (month : String) (v : Version)
    (h : (Db.run env {} actions).versions.get? month = some v) :
    ∃ before now after, actions = before ++ .freeze month now :: after ∧
      (Db.run env {} before).versions.get? month = none ∧ v.businessMonth = month ∧
      ∃ cutoff ended o, Evidence env (Db.run env {} before) v cutoff ended o ∧
        ∀ middle rest, after = middle ++ rest →
          (Db.run env {} (before ++ .freeze month now :: middle)).versions.get? month = some v ∧
          (Db.run env {} (before ++ .freeze month now :: middle)).observations.get?
            v.observationId = some o := by
  obtain ⟨before, now, after, hsplit, hnone, hfrozen⟩ := exists_freeze env actions {} rfl h
  obtain ⟨hkeeps, hwrites⟩ := act_effect env (Db.run env {} before) (.freeze month now)
  obtain ⟨hmonth, _, _, cutoff, ended, o, hevidence⟩ := hwrites month v hfrozen hnone
  have hended : o.state ≠ .running := by
    rw [hevidence.success]
    decide
  refine ⟨before, now, after, hsplit, hnone, hmonth, cutoff, ended, o, hevidence, ?_⟩
  intro middle rest _
  have hlater := keeps_run env middle ((Db.run env {} before).act env (.freeze month now))
  rw [show Db.run env {} (before ++ .freeze month now :: middle) =
    ((Db.run env {} before).act env (.freeze month now)).run env middle from List.foldl_append]
  exact ⟨hlater.versions month v hfrozen,
    hlater.ended _ o (hkeeps.ended _ o hevidence.stored hended) hended⟩

end

namespace FreezeSample

/-- One month, 2026-10, that ends at the origin of time. -/
def platform : Platform where
  cutoff month := if month = "2026-10" then some 0 else none
  monthOf _ := "2026-10"
  recordDigest _ := ""
  contentDigest _ := "content"
  encodedSize _ := 2
  versionDigest month observation content policy :=
    String.intercalate "|" [month, observation, content, policy]

def october : Version where
  versionId := "account-month-2026-10|evening|content|settlement-monthend-cn-v2"
  businessMonth := "2026-10"
  cutoffAt := 0
  observationId := "evening"
  contentSha256 := "content"
  policyVersion := "settlement-monthend-cn-v2"
  frozenAt := 5

/-- An hour before the end an empty collection proves itself; the month is frozen, and a second
freeze finds it frozen. -/
def monthEndRun : List Action :=
  [.start "evening" "run" (-hour) [], .complete "evening"
    { records := [], proof := [("complete", .bool true), ("record_count", .num 0)] } (-1),
    .freeze "2026-10" 5, .freeze "2026-10" 9]

theorem october_is_frozen_once :
    (Db.run platform {} monthEndRun).versions.get? "2026-10" = some october ∧
      ∃ before now after, monthEndRun = before ++ .freeze "2026-10" now :: after ∧
        (Db.run platform {} before).versions.get? "2026-10" = none ∧
        october.businessMonth = "2026-10" ∧
        ∃ cutoff ended o, Evidence platform (Db.run platform {} before) october cutoff ended o ∧
          ∀ middle rest, after = middle ++ rest →
            (Db.run platform {} (before ++ .freeze "2026-10" now :: middle)).versions.get?
              "2026-10" = some october ∧
            (Db.run platform {} (before ++ .freeze "2026-10" now :: middle)).observations.get?
              october.observationId = some o := by
  have hfrozen : (Db.run platform {} monthEndRun).versions.get? "2026-10" = some october := by
    decide +kernel
  exact ⟨hfrozen, month_frozen_once platform monthEndRun "2026-10" october hfrozen⟩

end FreezeSample

end DyData.Qualification
