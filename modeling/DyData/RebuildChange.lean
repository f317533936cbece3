import DyData.RebuildWorld

/-!
What any transaction does to the row of a rebuild, and what it leaves of a publication.  The
attempts of a job stay within its maximum, and a job whose publication is on record stays
running until it succeeds.
-/

namespace DyData.Rebuild

open Relational
open DyData.HeavyQueue
open DyData.HeavySlot

def AttemptsBounded (job : JobRun) : Prop :=
  attemptsMade job ≤ attemptCap defaultSettlementRebuildMaxAttempts job

def Alive (job : JobRun) : Prop := job.status = .running ∨ job.status = .success

/-- A publication by the job is on record: its event, and the published generation the event
names. -/
def Published (sha256 : String → String) (s : Slot) (jobId : String) : Prop :=
  ∃ e ∈ s.events, publicationEvidence sha256 s jobId e = true ∧
    ∃ id g, payloadText? e.payloadJson "generation_id" = some id ∧
      s.projection.generations.get? id = some g ∧ g.state = .published

def GenerationsOwned (db : Projection.Db) : Prop := ∀ g ∈ db.generations.rows, RefreshOwned g

def SameCounts (row row' : JobRun) : Prop :=
  row'.attemptCount = row.attemptCount ∧ row'.maxAttempts = row.maxAttempts

theorem SameCounts.bounded {row row' : JobRun} (h : SameCounts row row')
    (hbdd : AttemptsBounded row) : AttemptsBounded row' := by
  unfold AttemptsBounded attemptsMade attemptCap JobRun.attempts
  rw [h.1, h.2]
  exact hbdd

/-- What one transaction may do to the row of a job, `published` before it or not. -/
structure RowChange (published : Prop) (row row' : JobRun) : Prop where
  name : row'.jobName = row.jobName
  document : row.metadataJson.isObject = true → row'.metadataJson.isObject = true
  bounded : AttemptsBounded row → AttemptsBounded row'
  alive : published → Alive row → Alive row'

namespace RowChange

variable {published : Prop} {row row' row'' : JobRun}

theorem refl (published : Prop) (row : JobRun) : RowChange published row row :=
  ⟨rfl, id, id, fun _ => id⟩

theorem trans {published' : Prop} (h : RowChange published row row')
    (hkept : published → published') (h' : RowChange published' row' row'') :
    RowChange published row row'' :=
  ⟨h'.name.trans h.name, h'.document ∘ h.document, h'.bounded ∘ h.bounded,
    fun hp halive => h'.alive (hkept hp) (h.alive hp halive)⟩

end RowChange

structure SlotChange (sha256 : String → String) (s s' : Slot) : Prop where
  rows : ∀ jobId row, s.jobs.get? jobId = some row → row.jobName = settlementRebuildJobName →
    ∃ row', s'.jobs.get? jobId = some row' ∧ RowChange (Published sha256 s jobId) row row'
  published : ∀ jobId, Published sha256 s jobId → Published sha256 s' jobId
  owned : GenerationsOwned s.projection → GenerationsOwned s'.projection

namespace SlotChange

variable {sha256 : String → String} {s s' s'' : Slot}

theorem refl (sha256 : String → String) (s : Slot) : SlotChange sha256 s s :=
  ⟨fun _ row hrow _ => ⟨row, hrow, .refl _ row⟩, fun _ => id, id⟩

theorem trans (h : SlotChange sha256 s s') (h' : SlotChange sha256 s' s'') :
    SlotChange sha256 s s'' := by
  refine ⟨?_, fun jobId hp => h'.published jobId (h.published jobId hp), h'.owned ∘ h.owned⟩
  intro jobId row hrow hname
  obtain ⟨row', hrow', hchg⟩ := h.rows jobId row hrow hname
  obtain ⟨row'', hrow'', hchg'⟩ := h'.rows jobId row' hrow' (hchg.name.trans hname)
  exact ⟨row'', hrow'', hchg.trans (h.published jobId) hchg'⟩

theorem foldlM {α : Type} {f : Slot → α → Except RebuildError Slot} {l : List α}
    (hstep : ∀ a ∈ l, ∀ s s', f s a = .ok s' → SlotChange sha256 s s')
    (h : l.foldlM f s = .ok s') : SlotChange sha256 s s' :=
  Except.foldlM_ok h (.refl sha256 s) fun a ha t t' ht hf => ht.trans (hstep a ha t t' hf)

end SlotChange

section Evidence

variable {sha256 : String → String} {s s' : Slot} {jobId : String}

/-- The evidence of a publication depends on the generation it names only. -/
theorem publicationEvidence_frame {e : JobEvent} {id : String}
    (hid : payloadText? e.payloadJson "generation_id" = some id)
    (hrow : s'.projection.generations.get? id = s.projection.generations.get? id) :
    publicationEvidence sha256 s' jobId e = publicationEvidence sha256 s jobId e := by
  unfold publicationEvidence generationAgrees
  rw [hid, Option.bind_some, Option.bind_some, hrow]

/-- A publication stays on record while events are only added and published rows stay. -/
theorem Published.frame (h : Published sha256 s jobId) (hevs : ∀ e ∈ s.events, e ∈ s'.events)
    (hrows : ∀ id g, s.projection.generations.get? id = some g → g.state = .published →
      s'.projection.generations.get? id = some g) : Published sha256 s' jobId := by
  obtain ⟨e, he, hev, id, g, hid, hg, hstt⟩ := h
  have hg' := hrows id g hg hstt
  refine ⟨e, hevs e he, ?_, id, g, hid, hg', hstt⟩
  rw [publicationEvidence_frame hid (hg'.trans hg.symm)]
  exact hev

theorem Published.publication (h : Published sha256 s jobId) :
    (publication? sha256 s jobId).isSome := by
  obtain ⟨e, he, hev, -⟩ := h
  have hfd : ((newestFirst s.events).find? (publicationEvidence sha256 s jobId)).isSome := by
    rw [List.find?_isSome]
    exact ⟨e, (List.mem_insertionSort _).mpr he, hev⟩
  obtain ⟨_, hfd⟩ := Option.isSome_iff_exists.mp hfd
  rw [publication?, hfd]
  rfl

end Evidence

section Rows

variable {sha256 : String → String} {s : Slot}

theorem slotChange_updateJobs {p : JobRun → Bool} {f : JobRun → JobRun}
    {hf : ∀ job, (f job).jobId = job.jobId}
    (h : ∀ row ∈ s.jobs.rows, p row = true → RowChange (Published sha256 s row.jobId) row (f row)) :
    SlotChange sha256 s (s.updateJobs p f hf) := by
  refine ⟨?_, fun jobId hp => hp.frame (fun _ => id) fun _ _ hg _ => hg, id⟩
  rintro jobId row hrow -
  refine ⟨if p row then f row else row, ?_, ?_⟩
  · change (s.jobs.update p f hf).get? jobId = _
    rw [Table.get?_update, hrow]
    rfl
  · split
    · rename_i hp
      have hchg := h row (s.jobs.mem_of_get? hrow) hp
      rw [s.jobs.key_of_get? hrow] at hchg
      exact hchg
    · exact .refl _ row

theorem slotChange_updateJob {jobId : String} {f : JobRun → JobRun}
    {hf : ∀ job, (f job).jobId = job.jobId}
    (h : ∀ row, s.jobs.get? jobId = some row → RowChange (Published sha256 s jobId) row (f row)) :
    SlotChange sha256 s (s.updateJob jobId f hf) := by
  refine slotChange_updateJobs fun row hrow hp => ?_
  obtain rfl : row.jobId = jobId := of_decide_eq_true hp
  exact h row (s.jobs.get?_of_mem hrow)

theorem attemptCap_bounds (job : JobRun) : 1 ≤ attemptCap defaultSettlementRebuildMaxAttempts job ∧
      attemptCap defaultSettlementRebuildMaxAttempts job ≤ 3 := by
  unfold attemptCap defaultSettlementRebuildMaxAttempts
  omega

theorem orDefault_of_pos {n default : Int} (h : 0 < n) : orDefault (some n) default = n := by
  unfold orDefault
  split
  · rename_i hnone
    cases hnone
  · rename_i hzero
    have := Option.some.inj hzero
    omega
  · rename_i hsome
    exact (Option.some.inj hsome).symm

theorem claimRow_bounded (input : ClaimInput) (metadata : List (String × JsonValue))
    {job : JobRun} (h : attemptsMade job + 1 ≤ attemptCap defaultSettlementRebuildMaxAttempts job) :
    AttemptsBounded (claimRow input metadata job) := by
  have hmade : 0 ≤ attemptsMade job := le_max_left 0 _
  obtain ⟨_, _⟩ := attemptCap_bounds job
  have hatts : attemptsMade (claimRow input metadata job) = attemptsMade job + 1 := by
    change max 0 (orDefault (some (attemptsMade job + 1)) 0) = _
    rw [orDefault_of_pos (by omega)]
    omega
  have hcap : attemptCap defaultSettlementRebuildMaxAttempts (claimRow input metadata job) =
      attemptCap defaultSettlementRebuildMaxAttempts job := by
    change max 1 (min 3 (orDefault
      (some (attemptCap defaultSettlementRebuildMaxAttempts job)) 3)) = _
    rw [orDefault_of_pos (by omega)]
    omega
  unfold AttemptsBounded
  rw [hatts, hcap]
  exact h

/-- A step that keeps the counts, and the job running unless it succeeds. -/
theorem rowChange_of_alive {published : Prop} {row row' : JobRun}
    (hname : row'.jobName = row.jobName) (hdoc : row'.metadataJson.isObject = true)
    (hcnts : SameCounts row row') (halive : Alive row → Alive row') :
    RowChange published row row' :=
  ⟨hname, fun _ => hdoc, hcnts.bounded, fun _ => halive⟩

theorem rowChange_of_unpublished {published : Prop} {row row' : JobRun}
    (hname : row'.jobName = row.jobName) (hdoc : row'.metadataJson.isObject = true)
    (hcnts : SameCounts row row') (hunp : ¬ published) : RowChange published row row' :=
  ⟨hname, fun _ => hdoc, hcnts.bounded, fun hp => absurd hp hunp⟩

end Rows

end DyData.Rebuild
