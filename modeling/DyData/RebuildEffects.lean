import DyData.RebuildChange
import DyData.RebuildSupersede

/-!
The transactions of the rebuild queue one by one.  Each either finds nothing to do or makes a
change that a published job survives: a claim takes queued rows only, closing a row makes it
successful, and a failure or a recovery looks for a publication before anything else.
-/

namespace DyData.Rebuild

open Option
open Relational
open Except (of_bind pure_eq_ok_iff)
open DyData.HeavyQueue
open DyData.HeavySlot

variable {jobId claimId : String}

variable {input : ClaimInput} {now : Timestamp} {observed : JobRun}

variable {sha256 : String → String} {s s' : Slot}

section

variable (h : claimSettlementRebuildInSession s jobId input = .ok (some s'))
include h

theorem claimInSession_ok :
    ∃ job metadata, s.jobs.get? jobId = some job ∧ claimable s input job = true ∧
      s' = s.updateJob jobId (claimRow input metadata) fun _ => rfl := by
  unfold claimSettlementRebuildInSession at h
  split at h
  · cases h
  rename_i job hjob
  obtain ⟨metadata, -, h⟩ := of_bind h
  obtain ⟨hrow, hclm⟩ := filter_eq_some_iff.mp hjob
  exact ⟨job, metadata, hrow, hclm, (some.inj (pure_eq_ok_iff.mp h)).symm⟩

theorem claimInSession_change : SlotChange sha256 s s' := by
  obtain ⟨_, metadata, hrow, hclm, rfl⟩ := claimInSession_ok h
  refine slotChange_updateJob fun row hrow' => ?_
  obtain rfl := some.inj (hrow.symm.trans hrow')
  simp only [claimable, bool_to_prop] at hclm
  exact ⟨rfl, fun _ => rfl, fun _ => claimRow_bounded input metadata hclm.1.2,
    fun _ _ => .inl rfl⟩

end

theorem claim_change (h : claimSettlementRebuildJob s jobId input = .ok (some s')) :
    SlotChange sha256 s s' := by
  unfold claimSettlementRebuildJob at h
  split at h
  · cases h
  · exact claimInSession_change h

theorem supersede_change {selected : String} {obsolete : JobRun}
    (h : supersedeRebuild selected now s obsolete = .ok s') : SlotChange sha256 s s' := by
  obtain ⟨_, -, h⟩ := of_bind h
  cases h
  exact slotChange_updateJob fun _ _ =>
    rowChange_of_alive rfl rfl ⟨rfl, rfl⟩ fun _ => .inr rfl

theorem claimLatest_change {claim : LatestClaim}
    (h : claimLatestSettlementRebuildJob s input = .ok (some (claim, s'))) :
    SlotChange sha256 s s' := by
  obtain ⟨_, _, -, hclm, hfold, -⟩ := claimLatest_ok h
  exact (claimInSession_change hclm).trans
    (.foldlM (fun _ _ _ _ hstep => supersede_change hstep) hfold)

theorem heartbeat_change {stage : String} {progressCurrent : Int}
    {progressTotal : Option Int} {leaseDuration : Int}
    (h : heartbeatSettlementRebuildJob s jobId claimId stage progressCurrent progressTotal now
      leaseDuration = .ok (some s')) : SlotChange sha256 s s' := by
  unfold heartbeatSettlementRebuildJob at h
  split at h
  · cases h
  obtain ⟨_, -, h⟩ := of_bind h
  split at h
  · cases h
  cases h
  exact slotChange_updateJob fun _ _ => rowChange_of_alive rfl rfl ⟨rfl, rfl⟩ id

theorem finish_change {stats : SettlementStats}
    (h : finishClaimedSettlementRebuild s jobId claimId stats now = .ok s') :
    SlotChange sha256 s s' := by
  obtain ⟨_, -, h⟩ := of_bind h
  obtain ⟨_, -, h⟩ := of_bind h
  split at h
  · cases h
  cases h
  exact slotChange_updateJob fun _ _ =>
    rowChange_of_alive rfl rfl ⟨rfl, rfl⟩ fun _ => .inr rfl

theorem reconcile_change
    (h : reconcilePublishedSettlementRebuild sha256 s observed now = .ok (some s')) :
    SlotChange sha256 s s' := by
  unfold reconcilePublishedSettlementRebuild at h
  split at h
  · cases h
  split at h
  · cases h
  obtain ⟨_, -, h⟩ := of_bind h
  cases h
  exact slotChange_updateJob fun _ _ =>
    rowChange_of_alive rfl rfl ⟨rfl, rfl⟩ fun _ => .inr rfl

/-- It finds nothing only when the row has changed hands or nothing was published. -/
theorem unpublished_of_reconcile {row : JobRun}
    (h : reconcilePublishedSettlementRebuild sha256 s observed now = .ok none)
    (hrow : s.jobs.get? observed.jobId = some row) (hown : owner observed = owner row) :
    ¬ Published sha256 s observed.jobId := by
  intro hpub
  unfold reconcilePublishedSettlementRebuild at h
  rw [hrow, filter_some, if_pos (decide_eq_true hown)] at h
  have hkey : row.jobId = observed.jobId := s.jobs.key_of_get? hrow
  obtain ⟨_, hfd⟩ := isSome_iff_exists.mp hpub.publication
  simp only [hkey, hfd] at h
  obtain ⟨_, -, h⟩ := of_bind h
  cases h

theorem fail_change {error : String} {requiresNewJob : Bool}
    {transition : FailTransition}
    (h : failClaimedSettlementRebuild sha256 s jobId claimId error requiresNewJob now =
      .ok (some (transition, s'))) : SlotChange sha256 s s' := by
  unfold failClaimedSettlementRebuild at h
  split at h
  · cases h
  rename_i job hjob
  have hrow : s.jobs.get? jobId = some job := (filter_eq_some_iff.mp hjob).1
  have hkey : job.jobId = jobId := s.jobs.key_of_get? hrow
  obtain ⟨reconciled, hrec, h⟩ := of_bind h
  cases reconciled with
  | some slot =>
    cases h
    exact reconcile_change hrec
  | none =>
    -- nothing of the job is published, so it may wait for a retry or fail
    have hunp : ¬ Published sha256 s jobId := by
      rw [← hkey] at hrow ⊢
      exact unpublished_of_reconcile hrec hrow rfl
    obtain ⟨_, -, h⟩ := of_bind h
    split at h
    · cases h
    split at h
    · cases h
      exact slotChange_updateJob fun _ _ =>
        rowChange_of_unpublished rfl rfl ⟨rfl, rfl⟩ hunp
    · cases h
      exact slotChange_updateJob fun _ _ =>
        rowChange_of_unpublished rfl rfl ⟨rfl, rfl⟩ hunp

theorem release_change (s : Slot) (now : Timestamp) :
    SlotChange sha256 s (releaseDueSettlementRetries s now) := by
  refine slotChange_updateJobs fun row _ hp => ⟨rfl, id, SameCounts.bounded ⟨rfl, rfl⟩, ?_⟩
  simp only [bool_to_prop] at hp
  rintro - (hrun | hsuc)
  · rw [hp.1.2] at hrun
    cases hrun
  · rw [hp.1.2] at hsuc
    cases hsuc

theorem owner_eq_of_sameOwner {row : JobRun} (hrun : observed.status = .running)
    (h : sameOwner observed row = true) : owner observed = owner row := by
  simp only [sameOwner, bool_to_prop] at h
  unfold owner
  rw [hrun, h.1.1.1, h.1.1.2, h.1.2, h.2]

/-- One round of the recovery, for a row that was running when it was read. -/
theorem recoverStaleRebuild_change {staleAfter maxAttempts : Int}
    (hrun : observed.status = .running)
    (h : recoverStaleRebuild sha256 now staleAfter maxAttempts s observed = .ok s') :
    SlotChange sha256 s s' := by
  unfold recoverStaleRebuild at h
  split at h
  · cases h
    exact .refl sha256 s
  obtain ⟨_, -, h⟩ := of_bind h
  obtain ⟨reconciled, hrec, h⟩ := of_bind h
  cases reconciled with
  | some slot =>
    cases h
    exact reconcile_change hrec
  | none =>
    -- the update's own guard finds the owner that the reconciliation compared
    have hunp : ∀ row ∈ s.jobs.rows,
        (decide (row.jobId = observed.jobId) && sameOwner observed row) = true →
          ¬ Published sha256 s row.jobId := by
      intro row hrow hgrd
      rw [Bool.and_eq_true, decide_eq_true_eq] at hgrd
      rw [hgrd.1]
      have hget : s.jobs.get? observed.jobId = some row := by
        rw [← hgrd.1]
        exact s.jobs.get?_of_mem hrow
      exact unpublished_of_reconcile hrec hget (owner_eq_of_sameOwner hrun hgrd.2)
    dsimp only at h
    split at h
    · cases h
      exact slotChange_updateJobs fun row hrow hgrd =>
        rowChange_of_unpublished rfl rfl ⟨rfl, rfl⟩ (hunp row hrow hgrd)
    · obtain ⟨_, -, h⟩ := of_bind h
      cases h
      exact slotChange_updateJobs fun row hrow hgrd =>
        rowChange_of_unpublished rfl rfl ⟨rfl, rfl⟩ (hunp row hrow hgrd)

theorem recover_change {staleAfter maxAttempts : Int} {snapshot : Slot}
    (h : recoverStaleSettlementRebuilds sha256 now staleAfter maxAttempts snapshot s = .ok s') :
    SlotChange sha256 s s' := by
  refine SlotChange.foldlM (fun observed hobs _ _ hstep => ?_) h
  have hmem := List.mem_filter.mp ((List.mem_insertionSort _).mp hobs)
  simp only [bool_to_prop] at hmem
  exact recoverStaleRebuild_change hmem.2.2 hstep

end DyData.Rebuild
