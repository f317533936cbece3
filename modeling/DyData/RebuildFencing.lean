import DyData.RebuildEffects
import DyData.ProjectionFrame

/-!
The fencing of settlement rebuilds over any interleaving of transactions: what an operation
without the claim does, how many attempts a job makes, and how a published job ends.
-/

namespace DyData.Rebuild

open Relational List Option
open Except (of_bind map_eq_ok_iff)
open DyData.HeavyQueue
open DyData.HeavySlot

section Claims

variable {s : Slot} {jobId claimId : String} {now : Timestamp}

/-- The claim id is the claim of the job, and its lease is live at each of the readings. -/
def HoldsClaim (s : Slot) (jobId claimId : String) (readings : List Timestamp) : Prop :=
  ∃ row, s.jobs.get? jobId = some row ∧ row.claimToken = some claimId ∧
    ∀ now ∈ readings, Projection.leaseLive row now = true

theorem token_of_claimActive {row : JobRun} (h : Projection.claimActive row claimId now = true) :
    row.status = .running ∧ row.claimToken = some claimId ∧
      Projection.leaseLive row now = true := by
  simp only [Projection.claimActive, bool_to_prop] at h
  exact ⟨h.1.1, h.1.2, h.2⟩

theorem claimedJob?_some {row : JobRun} (h : claimedJob? s jobId claimId now = some row) :
    s.jobs.get? jobId = some row ∧ Projection.claimActive row claimId now = true :=
  filter_eq_some_iff.mp h

theorem holdsClaim_of_claimed {row : JobRun} (hrow : s.jobs.get? jobId = some row)
    (h : Projection.claimActive row claimId now = true) : HoldsClaim s jobId claimId [now] := by
  obtain ⟨-, htoken, hlive⟩ := token_of_claimActive h
  refine ⟨row, hrow, htoken, fun t ht => ?_⟩
  rw [mem_singleton.mp ht]
  exact hlive

theorem claimedJob?_none (h : ¬ HoldsClaim s jobId claimId [now]) :
    claimedJob? s jobId claimId now = none := by
  cases hclm : claimedJob? s jobId claimId now with
  | none => rfl
  | some row =>
    obtain ⟨hrow, hact⟩ := claimedJob?_some hclm
    exact absurd (holdsClaim_of_claimed hrow hact) h

theorem assertActive_ok {row : JobRun}
    (h : assertActiveSettlementRebuildClaim s jobId claimId now = .ok row) :
    s.jobs.get? jobId = some row ∧ row.jobName = settlementRebuildJobName ∧
      Projection.claimActive row claimId now = true := by
  unfold assertActiveSettlementRebuildClaim at h
  rw [Except.ofOption_eq_ok_iff] at h
  obtain ⟨hrow, hgrd⟩ := filter_eq_some_iff.mp h
  rw [Bool.and_eq_true, decide_eq_true_eq] at hgrd
  exact ⟨hrow, hgrd.1, hgrd.2⟩

end Claims

namespace World

variable {Data : Type} {ctx : Projection.PublishContext} {w w' : World Data}
  {jobId claimId : String} {now : Timestamp}

/-- Writing the metadata of a job changes nothing the queue decides by. -/
theorem updateMetadata_change (sha256 : String → String) (w : World Data) (jobId : String)
    (metadata : List (String × JsonValue)) :
    SlotChange sha256 w.slot (w.updateMetadata jobId metadata).slot :=
  slotChange_updateJob fun _ _ => rowChange_of_alive rfl rfl ⟨rfl, rfl⟩ id

theorem fencedCommit_ok {step : DataStep Data (List (String × JsonValue))}
    (h : w.fencedCommit jobId claimId now step = .ok w') :
    (∃ row, assertActiveSettlementRebuildClaim w.slot jobId claimId now = .ok row) ∧
      (w'.slot = w.slot ∨ ∃ metadata, w'.slot = (w.updateMetadata jobId metadata).slot) := by
  obtain ⟨⟨_, _⟩, -, h⟩ := of_bind h
  obtain ⟨job, hjob, h⟩ := of_bind h
  refine ⟨⟨job, hjob⟩, ?_⟩
  split at h
  · cases h
    exact .inl rfl
  · obtain ⟨_, -, h⟩ := of_bind h
    cases h
    exact .inr ⟨_, rfl⟩

theorem fencedBuild_ok {generations : List BuiltGeneration} {step : DataStep Data Unit}
    (h : w.fencedBuild jobId claimId now generations step = .ok w') :
    (∃ row, assertActiveSettlementRebuildClaim w.slot jobId claimId now = .ok row) ∧
      w'.slot = { w.slot with projection := buildAll w.slot.projection generations } := by
  obtain ⟨⟨_, _⟩, -, h⟩ := of_bind h
  obtain ⟨job, hjob, h⟩ := of_bind h
  cases h
  exact ⟨⟨job, hjob⟩, rfl⟩

theorem recordNoop_ok (h : w.recordSettlementProjectionNoop jobId claimId now = .ok w') :
    (∃ row, assertActiveSettlementRebuildClaim w.slot jobId claimId now = .ok row) ∧
      ∃ metadata, w' = w.updateMetadata jobId metadata := by
  obtain ⟨job, hjob, h⟩ := of_bind h
  obtain ⟨_, -, h⟩ := of_bind h
  cases h
  exact ⟨⟨job, hjob⟩, _, rfl⟩

/-- The publishing transaction is a publication followed by a note in the metadata. -/
theorem publishLineage_ok {plan : LineageRefreshPlan} {totals : ManifestTotals}
    {guardedAt : Timestamp} {clock : Projection.PublishClock} {capture : DataStep Data Unit}
    {bill : DataStep Data JsonValue}
    (h : w.publishLineage ctx plan claimId totals guardedAt clock capture bill = .ok w') :
    (∃ row, assertActiveSettlementRebuildClaim w.slot plan.jobId claimId guardedAt = .ok row) ∧
      ∃ projection payload data metadata,
        Projection.publishSettlementRebuild ctx clock w.slot.projection
          (plan.publication claimId totals.checksum) = .ok (projection, payload) ∧
        w' = updateMetadata ⟨{ w.slot with projection }, data⟩ plan.jobId metadata := by
  obtain ⟨job, hjob, h⟩ := of_bind h
  obtain ⟨_, -, h⟩ := of_bind h
  obtain ⟨⟨_, _⟩, -, h⟩ := of_bind h
  obtain ⟨⟨projection, payload⟩, hpubl, h⟩ := of_bind h
  obtain ⟨⟨data, _⟩, -, h⟩ := of_bind h
  obtain ⟨_, -, h⟩ := of_bind h
  obtain ⟨_, -, h⟩ := of_bind h
  cases h
  exact ⟨⟨job, hjob⟩, projection, payload, data, _, Except.mapError_eq_ok_iff.mp hpubl, rfl⟩

end World

section Lost

variable {Data : Type} (ctx : Projection.PublishContext) (w : World Data)

theorem World.orUnchanged_eq {result : Except RebuildError (World Data)}
    (h : ∀ w', result ≠ .ok w') : w.orUnchanged result = w := by
  cases result with
  | error e => rfl
  | ok w' => exact absurd rfl (h w')

theorem holdsClaim_of_assert {s : Slot} {jobId claimId : String} {now : Timestamp}
    (h : ∃ row, assertActiveSettlementRebuildClaim s jobId claimId now = .ok row) :
    HoldsClaim s jobId claimId [now] := by
  obtain ⟨_, hrow⟩ := h
  obtain ⟨hjob, -, hact⟩ := assertActive_ok hrow
  exact holdsClaim_of_claimed hjob hact

/-- A publication needs the claim at each of its three readings. -/
theorem holdsClaim_of_publish {plan : LineageRefreshPlan} {claimId : String}
    {totals : ManifestTotals} {guardedAt : Timestamp} {clock : Projection.PublishClock}
    {capture : DataStep Data Unit} {bill : DataStep Data JsonValue} {w' : World Data}
    (h : w.publishLineage ctx plan claimId totals guardedAt clock capture bill = .ok w') :
    HoldsClaim w.slot plan.jobId claimId [guardedAt, clock.claimCheck, clock.lockCheck] := by
  obtain ⟨⟨row, hass⟩, _, _, _, _, hpubl, -⟩ :=
    World.publishLineage_ok h
  obtain ⟨hrow, -, hguar⟩ := assertActive_ok hass
  obtain ⟨_, _, _, steps⟩ := Projection.publishSettlementRebuild_ok hpubl
  obtain rfl := mem_unique hrow steps.row
  obtain ⟨-, htoken, hlive⟩ := token_of_claimActive hguar
  refine ⟨row, hrow, htoken, ?_⟩
  intro now hnow
  rcases mem_cons.mp hnow with rfl | hnow
  · exact hlive
  rcases mem_cons.mp hnow with rfl | hnow
  · exact (token_of_claimActive steps.claimed).2.2
  · rw [mem_singleton.mp hnow]
    exact steps.live

/-- An operation whose claim is not the job's, or whose lease ran out at one of its readings,
commits nothing. -/
theorem apply_of_lost_claim {op : Operation Data} {jobId claimId : String}
    (htoken : op.token? = some (jobId, claimId))
    (hlost : ¬ HoldsClaim w.slot jobId claimId op.readings) : w.apply ctx op = w := by
  cases op with
  | heartbeat id claim stage progressCurrent progressTotal now leaseDuration =>
    obtain ⟨rfl, rfl⟩ := Prod.mk.inj (some.inj htoken)
    change w.onSlot (heartbeatSettlementRebuildJob w.slot id claim stage _ _ now _) = w
    rw [heartbeatSettlementRebuildJob, claimedJob?_none hlost]
    rfl
  | commit id claim now step =>
    cases htoken
    exact w.orUnchanged_eq fun w' h =>
      hlost (holdsClaim_of_assert (World.fencedCommit_ok h).1)
  | build id claim now generations step =>
    cases htoken
    exact w.orUnchanged_eq fun w' h =>
      hlost (holdsClaim_of_assert (World.fencedBuild_ok h).1)
  | publish plan claim totals guardedAt clock capture bill =>
    cases htoken
    exact w.orUnchanged_eq fun w' h => hlost (holdsClaim_of_publish ctx w h)
  | noop id claim now =>
    cases htoken
    exact w.orUnchanged_eq fun w' h =>
      hlost (holdsClaim_of_assert (World.recordNoop_ok h).1)
  | finish id claim stats now =>
    obtain ⟨rfl, rfl⟩ := Prod.mk.inj (some.inj htoken)
    change w.onSlot ((finishClaimedSettlementRebuild w.slot id claim stats now).map some) = w
    rw [finishClaimedSettlementRebuild, claimedJob?_none hlost]
    rfl
  | fail id claim error requiresNewJob now =>
    obtain ⟨rfl, rfl⟩ := Prod.mk.inj (some.inj htoken)
    change w.onSlot ((failClaimedSettlementRebuild ctx.sha256 w.slot id claim error
      requiresNewJob now).map _) = w
    rw [failClaimedSettlementRebuild, claimedJob?_none hlost]
    rfl
  | claim _ _ | claimLatest _ | recover _ _ _ _ | release _ | enqueue _ | otherJob _
  | otherPublication _ _ | otherBuild _ | discard _ | event _ | otherData _ => cases htoken

end Lost

section Changes

variable {Data : Type} (ctx : Projection.PublishContext)

theorem projection_change {s : Slot} {projection : Projection.Db}
    (hjobs : projection.jobs = s.jobs) (hprog : Projection.Progress s.projection projection)
    (howned : GenerationsOwned s.projection → GenerationsOwned projection) :
    SlotChange ctx.sha256 s { s with projection } := by
  refine ⟨?_, ?_, howned⟩
  · rintro jobId row hrow -
    refine ⟨row, ?_, .refl _ row⟩
    change projection.jobs.get? jobId = some row
    rw [hjobs]
    exact hrow
  · intro jobId hpub
    obtain ⟨added, hadded⟩ := hprog.events
    refine hpub.frame ?_ fun id g hg hstt =>
      hprog.effect.published_row hg hstt
    intro e he
    change e ∈ projection.events
    rw [hadded]
    exact mem_append_left added he

theorem action_change {s : Slot} {a : Projection.Action}
    (hjobs : (s.projection.apply ctx a).jobs = s.jobs)
    (howned : GenerationsOwned s.projection → GenerationsOwned (s.projection.apply ctx a)) :
    SlotChange ctx.sha256 s { s with projection := s.projection.apply ctx a } :=
  projection_change ctx hjobs (Projection.apply_progress ctx s.projection a) howned

theorem publication_owned {p : Projection.Publication} {db db' : Projection.Db}
    (h : p.Returned ctx db db') (howned : GenerationsOwned db) : GenerationsOwned db' := by
  obtain ⟨_, _, _, -, -, hprom, -, hrec⟩ := h.steps
  intro x hx
  rw [hrec.frame.1] at hx
  rcases hprom with ⟨-, -, rfl⟩ | ⟨base, now, -, -, -, rfl⟩
  · exact howned x hx
  · -- a promotion keeps the identifier, the fingerprint and the source job
    rcases Projection.mem_promote.mp hx with ⟨hold, -⟩ | ⟨old, hold, -, rfl⟩
    · exact howned x hold
    · exact howned old hold

theorem build_owned {db : Projection.Db} {g : Projection.Generation} (hg : RefreshOwned g)
    (howned : GenerationsOwned db) : GenerationsOwned (db.build g) := by
  unfold Projection.Db.build
  split
  · exact howned
  · split
    · intro x hx
      rcases mem_append.mp hx with hx | hx
      · exact howned x (mem_filter.mp hx).1
      · rw [mem_singleton.mp hx]
        exact hg
    · exact howned

theorem build_jobs (db : Projection.Db) (g : Projection.Generation) :
    (db.build g).jobs = db.jobs := by
  unfold Projection.Db.build
  split
  · rfl
  · split <;> rfl

theorem builds_change (s : Slot) (generations : List BuiltGeneration) :
    SlotChange ctx.sha256 s { s with projection := buildAll s.projection generations } := by
  induction generations generalizing s with
  | nil => exact .refl ctx.sha256 s
  | cons g generations ih =>
    have hfst := action_change ctx (a := .build g.val) (build_jobs s.projection g.val)
      (build_owned g.property)
    exact hfst.trans (ih { s with projection := s.projection.build g.val })

theorem publication_change (s : Slot) (p : Projection.Publication)
    (clock : Projection.PublishClock) : SlotChange ctx.sha256 s
      { s with projection := s.projection.apply ctx (.publish p clock) } := by
  refine action_change ctx ?_ ?_
  · rw [Projection.Db.apply]
    split
    · rename_i db' hrun
      exact (Projection.Publication.run_ok hrun).jobs
    · rfl
  · rw [Projection.Db.apply]
    split
    · rename_i hrun
      exact publication_owned ctx (Projection.Publication.run_ok hrun)
    · exact id

theorem enqueue_change (sha256 : String → String) (w : World Data) (job : JobRun) :
    SlotChange sha256 w.slot (w.enqueue job).slot := by
  unfold World.enqueue
  split
  · rename_i jobs hjobs
    refine ⟨?_, fun jobId hp => hp.frame (fun _ => id) fun _ _ hg _ => hg, id⟩
    rintro jobId row hrow -
    refine ⟨row, ?_, .refl _ row⟩
    obtain ⟨hmem, hkey⟩ := w.slot.jobs.get?_eq_some_iff.mp hrow
    refine jobs.get?_eq_some_iff.mpr ⟨?_, hkey⟩
    rw [Table.rows_insert? hjobs]
    exact mem_append_left _ hmem
  · exact .refl sha256 w.slot

theorem otherJob_change (sha256 : String → String) (w : World Data) (job : JobRun) :
    SlotChange sha256 w.slot (w.otherJob job).slot := by
  unfold World.otherJob
  split
  · exact .refl sha256 w.slot
  · rename_i hoth
    refine ⟨?_, fun jobId hp => hp.frame (fun _ => id) fun _ _ hg _ => hg, id⟩
    intro jobId row hrow hname
    refine ⟨row, ?_, .refl _ row⟩
    rw [Table.get?_put, if_neg]
    · exact hrow
    · -- the row of a rebuild is not written by other processes
      rintro rfl
      rw [hrow] at hoth
      exact hoth (decide_eq_true hname)

/-- Every transaction of every process is a change the rebuilds survive. -/
theorem apply_change (w : World Data) (op : Operation Data) :
    SlotChange ctx.sha256 w.slot (w.apply ctx op).slot := by
  have honSlot : ∀ result : Except RebuildError (Option Slot),
      (∀ s', result = .ok (some s') → SlotChange ctx.sha256 w.slot s') →
        SlotChange ctx.sha256 w.slot (w.onSlot result).slot := by
    intro result hres
    unfold World.onSlot
    split
    · exact hres _ rfl
    · exact .refl _ w.slot
    · exact .refl _ w.slot
  have hworld : ∀ result : Except RebuildError (World Data),
      (∀ w', result = .ok w' → SlotChange ctx.sha256 w.slot w'.slot) →
        SlotChange ctx.sha256 w.slot (w.orUnchanged result).slot := by
    intro result hres
    unfold World.orUnchanged
    split
    · exact hres _ rfl
    · exact .refl _ w.slot
  cases op with
  | claim jobId input => exact honSlot _ fun s' h => claim_change h
  | claimLatest input =>
    refine honSlot _ fun s' h => ?_
    obtain ⟨result, hres, hsome⟩ := map_eq_ok_iff.mp h
    obtain ⟨⟨_, slot⟩, rfl, rfl⟩ := map_eq_some_iff.mp hsome
    exact claimLatest_change hres
  | heartbeat jobId claimId stage progressCurrent progressTotal now leaseDuration =>
    exact honSlot _ fun s' h => heartbeat_change h
  | commit jobId claimId now step =>
    refine hworld _ fun w' h => ?_
    rcases (World.fencedCommit_ok h).2 with hsame | ⟨metadata, hsame⟩
    · rw [hsame]
      exact .refl _ w.slot
    · rw [hsame]
      exact w.updateMetadata_change ctx.sha256 jobId metadata
  | build jobId claimId now generations step =>
    refine hworld _ fun w' h => ?_
    rw [(World.fencedBuild_ok h).2]
    exact builds_change ctx w.slot generations
  | publish plan claimId totals guardedAt clock capture bill =>
    refine hworld _ fun w' h => ?_
    obtain ⟨-, projection, _, data, metadata, hpubl, rfl⟩ := World.publishLineage_ok h
    have hret := Projection.rebuild_returned (map_eq_ok_iff.mpr ⟨_, hpubl, rfl⟩)
    have hpub := projection_change ctx hret.jobs hret.progress
      (publication_owned ctx hret)
    let published : World Data := ⟨{ w.slot with projection }, data⟩
    exact hpub.trans (published.updateMetadata_change ctx.sha256 plan.jobId metadata)
  | noop jobId claimId now =>
    refine hworld _ fun w' h => ?_
    obtain ⟨-, metadata, rfl⟩ := World.recordNoop_ok h
    exact w.updateMetadata_change ctx.sha256 jobId metadata
  | finish jobId claimId stats now =>
    refine honSlot _ fun s' h => ?_
    obtain ⟨slot, hslot, hsome⟩ := map_eq_ok_iff.mp h
    cases hsome
    exact finish_change hslot
  | fail jobId claimId error requiresNewJob now =>
    refine honSlot _ fun s' h => ?_
    obtain ⟨_, hres, hsome⟩ := map_eq_ok_iff.mp h
    obtain ⟨⟨_, slot⟩, rfl, rfl⟩ := map_eq_some_iff.mp hsome
    exact fail_change hres
  | recover now staleAfter maxAttempts snapshot =>
    refine honSlot _ fun s' h => ?_
    obtain ⟨_, hslot, hsome⟩ := map_eq_ok_iff.mp h
    cases hsome
    exact recover_change hslot
  | release now => exact release_change w.slot now
  | enqueue job => exact enqueue_change ctx.sha256 w job
  | otherJob job => exact otherJob_change ctx.sha256 w job
  | otherPublication p clock => exact publication_change ctx w.slot p clock
  | otherBuild g =>
    exact action_change ctx (a := .build g.val) (build_jobs _ g.val) (build_owned g.property)
  | discard generationId =>
    exact action_change ctx (a := .discard generationId) rfl fun howned g hg =>
      howned g (mem_filter.mp hg).1
  | event e => exact action_change ctx (a := .addEvent e) rfl id
  | otherData write => exact .refl _ w.slot

theorem run_change (w : World Data) (operations : List (Operation Data)) :
    SlotChange ctx.sha256 w.slot (w.run ctx operations).slot := by
  induction operations generalizing w with
  | nil => exact .refl _ w.slot
  | cons op operations ih => exact (apply_change ctx w op).trans (ih (w.apply ctx op))

end Changes

end DyData.Rebuild
