import DyData.HeavyQueueClaim
import DyData.HeavyQueueEffects

/-!
What a claim writes: quarantined candidates on the way, then either the failure of a job whose
attempts are used up, or the next attempt of the selected job.
-/

namespace DyData.HeavyQueue

open Relational
open Except (of_bind)

variable {request : ClaimRequest} {db db' : Db} {previous : Option JobAttempt} {now : Timestamp}
  {job : JobRun}

theorem closeExpiredAttempt_attempts (db : Db) (previous : JobAttempt) (now : Timestamp) :
    (closeExpiredAttempt db previous now).attempts.rows = db.attempts.rows.map fun a =>
      if a.attemptId = previous.attemptId then a.expire now else a := by
  change (db.attempts.rows.map fun a =>
    if decide (a.attemptId = previous.attemptId) = true then a.expire now else a) = _
  simp only [decide_eq_true_eq]

theorem bound_closeExpiredAttempt {previous : JobAttempt} {i : AttemptIdentity} :
    Bound (closeExpiredAttempt db previous now) i ↔ Bound db i ∧ ¬ NamedBy previous i :=
  bound_releaseBinding

theorem noPublication_closeExpiredAttempt (db : Db) (previous : JobAttempt) (now : Timestamp) :
    NoPublication db (closeExpiredAttempt db previous now) :=
  (NoPublication.refl db).trans (noPublication_addJobEvent (by decide))

theorem lockExpiredAttempt_ok {jobId : String} {leaseEpoch : Int} {a : JobAttempt}
    (h : lockExpiredAttempt db jobId leaseEpoch = .ok a) :
    a ∈ db.attempts.rows ∧ a.jobId = jobId ∧ a.leaseEpoch = leaseEpoch ∧ a.unfinished = true := by
  unfold lockExpiredAttempt at h
  split at h
  · cases h
  · rename_i hfd
    cases h
    have hrow := List.find?_some hfd
    simp only [bool_to_prop] at hrow
    exact ⟨List.mem_of_find?_eq_some hfd, hrow.1.1, hrow.1.2, hrow.2⟩

theorem previousAttempt_ok (h : previousAttempt db job = .ok previous) :
    (job.status ≠ .running ∧ previous = none) ∨ (job.status = .running ∧ ∃ a, previous = some a ∧
        lockExpiredAttempt db job.jobId job.epoch = .ok a) := by
  unfold previousAttempt at h
  split at h
  · rename_i hrun
    obtain ⟨a, ha, rfl⟩ := Except.map_eq_ok_iff.mp h
    exact .inr ⟨hrun, a, rfl, ha⟩
  · rename_i hoth
    cases h
    exact .inl ⟨hoth, rfl⟩

theorem lockWorkerComponent_ok {componentInstanceId : String} {existing : Option ComponentHeartbeat}
    (h : lockWorkerComponent db componentInstanceId previous = .ok existing) :
    existing = db.components.get? componentInstanceId ∧
      ∀ c, existing = some c → c.componentType = .worker ∧
        ((c.currentJobId = none ∧ c.currentAttemptId = none) ∨
          ∃ a, previous = some a ∧ boundTo a c = true) := by
  unfold lockWorkerComponent at h
  split at h
  · rename_i hnone
    cases h
    exact ⟨hnone.symm, fun c hc => by cases hc⟩
  · rename_i c hget
    split at h
    · cases h
    · rename_i htype
      split at h
      · rename_i hfree
        cases h
        refine ⟨hget.symm, fun c' hc' => ?_⟩
        cases hc'
        exact ⟨not_not.mp htype, .inl (by simpa using hfree)⟩
      · split at h
        · rename_i hprev
          cases h
          refine ⟨hget.symm, fun c' hc' => ?_⟩
          cases hc'
          exact ⟨not_not.mp htype, .inr ((Option.any_eq_true _ _).mp hprev)⟩
        · cases h

theorem prepareWorkerComponent_effect {componentInstanceId : String}
    {existing : Option ComponentHeartbeat} (hex : existing = db.components.get? componentInstanceId)
    (hwork : ∀ c, existing = some c → c.componentType = .worker)
    (h : prepareWorkerComponent db componentInstanceId now existing = .ok db') :
    db'.jobs = db.jobs ∧ db'.attempts = db.attempts ∧ db'.events = db.events ∧
      (∃ c, db'.components.get? componentInstanceId = some c ∧ c.componentType = .worker) ∧
      ∀ i : AttemptIdentity, i.componentInstanceId ≠ componentInstanceId →
        (Bound db' i ↔ Bound db i) := by
  cases existing with
  | none =>
    unfold prepareWorkerComponent Db.insertComponent at h
    dsimp only at h
    split at h
    · cases h
    · rename_i components hins
      cases h
      have hget := Table.get?_insert? hins
      refine ⟨rfl, rfl, rfl, ⟨_, (hget componentInstanceId).trans (if_pos rfl), rfl⟩, fun i hi => ?_⟩
      have hoth : components.get? i.componentInstanceId =
          db.components.get? i.componentInstanceId := (hget _).trans (if_neg hi)
      unfold Bound
      rw [hoth]
  | some c =>
    cases h
    refine ⟨rfl, rfl, rfl, ?_, fun i _ => ?_⟩
    · refine component_updateComponents ?_ ⟨c, hex.symm, hwork c rfl⟩
      exact fun _ => rfl
    · rw [bound_updateComponents_of_kept]
      all_goals
        intro c
        rfl

structure Started (request : ClaimRequest) (uuid : String) (now : Timestamp) (db : Db)
    (job : JobRun) (db' : Db) : Prop where
  /-- A running job is taken over only while its budget lasts. -/
  budget : job.status = .running → job.attempts < job.attemptLimit + job.quotaPauseCount
  bounds : (job.start request (job.attempts + 1) (job.epoch + 1) now).attemptBounds = true
  jobs : db'.jobs = db.jobs.update (fun j => j.jobId = job.jobId)
    (.start request (job.attempts + 1) (job.epoch + 1) now) (JobRun.start_jobId request _ _ now)
  /-- The attempt it takes over is closed, and one attempt is added. -/
  attempts : ∃ previous, previousAttempt db job = .ok previous ∧
    db'.attempts.rows = (db.attempts.rows.map fun a =>
      if previous.any (fun p => a.attemptId = p.attemptId) then a.expire now else a) ++
        [newAttempt request uuid now job] ∧
    ∀ i, Bound db' i ↔ NamedBy (newAttempt request uuid now job) i ∨
      (i.componentInstanceId ≠ request.componentInstanceId ∧ Bound db i ∧
        ∀ a, previous = some a → ¬ NamedBy a i)
  /-- The component was free, or bound to the attempt that is taken over. -/
  component : ∀ i, Bound db i → i.componentInstanceId = request.componentInstanceId →
    ∃ a, lockExpiredAttempt db job.jobId job.epoch = .ok a ∧ i.jobId = a.jobId
  fresh : ∀ a ∈ db.attempts.rows, a.attemptId ≠ "attempt-" ++ uuid
  events : NoPublication db db'

def closePrevious (db : Db) (previous : Option JobAttempt) (now : Timestamp) : Db :=
  previous.elim db fun a => closeExpiredAttempt db a now

theorem closePrevious_effect (db : Db) (previous : Option JobAttempt) (now : Timestamp) :
    (closePrevious db previous now).jobs = db.jobs ∧
      ((closePrevious db previous now).attempts.rows = db.attempts.rows.map fun a =>
        if previous.any (fun p => a.attemptId = p.attemptId) then a.expire now else a) ∧
      (∀ i, Bound (closePrevious db previous now) i ↔
        Bound db i ∧ ∀ a, previous = some a → ¬ NamedBy a i) ∧
      NoPublication db (closePrevious db previous now) := by
  cases previous with
  | none =>
    refine ⟨rfl, ?_, fun i => ?_, NoPublication.refl db⟩
    · simp [closePrevious]
    · simp [closePrevious]
  | some a =>
    refine ⟨rfl, ?_, fun i => ?_, noPublication_closeExpiredAttempt db a now⟩
    · change (closeExpiredAttempt db a now).attempts.rows = _
      simpa using closeExpiredAttempt_attempts db a now
    · change Bound (closeExpiredAttempt db a now) i ↔ _
      rw [bound_closeExpiredAttempt]
      simp

theorem closePrevious_component {id : String} {type : ComponentType} (previous : Option JobAttempt)
    (now : Timestamp) (h : ∃ c, db.components.get? id = some c ∧ c.componentType = type) :
    ∃ c, (closePrevious db previous now).components.get? id = some c ∧ c.componentType = type := by
  cases previous with
  | none => exact h
  | some a =>
    have hrel : ∃ c, (releaseBinding db a now).components.get? id = some c ∧
        c.componentType = type := by
      refine component_updateComponents ?_ h
      exact fun _ => rfl
    exact hrel

theorem beginAttempt_effect {uuid : String} (hprev : previousAttempt db job = .ok previous)
    (hbud : job.status = .running → job.attempts < job.attemptLimit + job.quotaPauseCount)
    (h : beginAttempt request uuid now db job previous = .ok db') :
    Started request uuid now db job db' := by
  unfold beginAttempt at h
  obtain ⟨_, hlocke, h⟩ := of_bind h
  obtain ⟨prepared, hprepa, h⟩ := of_bind h
  obtain ⟨hex, hfree⟩ := lockWorkerComponent_ok hlocke
  obtain ⟨hpreparedJobs, hpreparedAttempts, hpreparedEvents, ⟨c, hc, hwork⟩, hpreparedBound⟩ :=
    prepareWorkerComponent_effect hex (fun c hc => (hfree c hc).1) hprepa
  dsimp only at h
  split at h
  · cases h
  · rename_i hboun
    split at h
    · cases h
    · obtain ⟨recorded, hrec, h⟩ := of_bind h
      obtain ⟨hrecordedJobs, hcomp, hevs, hatts, hfr⟩ := Db.insertAttempt_ok hrec
      cases h
      obtain ⟨hclosedJobs, hclosedAttempts, hclosedBound, hclosedEvents⟩ :=
        closePrevious_effect prepared previous now
      have hjobs : (closePrevious prepared previous now).jobs = db.jobs :=
        hclosedJobs.trans hpreparedJobs
      refine ⟨hbud, by simpa using hboun, ?_, ⟨previous, hprev, ?_, ?_⟩, ?_, ?_, ?_⟩
      · rw [addJobEvent_jobs, Db.updateComponents_jobs, hrecordedJobs, ← hjobs]
        rfl
      · rw [← hpreparedAttempts, ← hclosedAttempts]
        exact hatts
      · intro i
        rw [bound_congr (addJobEvent_components _ _ _ _ _ _ _ _ _ _), bound_updateComponents, hcomp]
        change (∃ c, (closePrevious prepared previous now).components.get?
          i.componentInstanceId = some c ∧ _) ↔ _
        by_cases hi : i.componentInstanceId = request.componentInstanceId
        · -- the claiming component now declares the new attempt
          have hcompo : ∃ c, (closePrevious prepared previous now).components.get?
              i.componentInstanceId = some c ∧ c.componentType = .worker := by
            rw [hi]
            exact closePrevious_component previous now ⟨c, hc, hwork⟩
          obtain ⟨c', hc', hwork'⟩ := hcompo
          have hkey : c'.componentInstanceId = request.componentInstanceId :=
            ((closePrevious prepared previous now).components.key_of_get? hc').trans hi
          constructor
          · rintro ⟨c'', hget, htype, hjob, hatt⟩
            rw [hc'] at hget
            cases hget
            simp only [hkey, decide_true, if_true] at htype hjob hatt
            refine .inl ⟨hi, htype.symm.trans hwork', ?_, ?_⟩
            · exact (Option.some.inj hjob).symm
            · exact (Option.some.inj hatt).symm
          · rintro (⟨-, htype, hjob, hatt⟩ | ⟨hne, -⟩)
            · refine ⟨c', hc', ?_⟩
              simp only [hkey, decide_true, if_true]
              exact ⟨hwork'.trans htype.symm, congrArg some hjob.symm, congrArg some hatt.symm⟩
            · exact absurd hi hne
        · have hnew : ¬ NamedBy (newAttempt request uuid now job) i := fun hnamed => hi hnamed.1
          have hbd : Bound (closePrevious prepared previous now) i ↔
              Bound db i ∧ ∀ a, previous = some a → ¬ NamedBy a i := by
            rw [hclosedBound, hpreparedBound i hi]
          rw [show (NamedBy (newAttempt request uuid now job) i ∨
              (i.componentInstanceId ≠ request.componentInstanceId ∧ Bound db i ∧
                ∀ a, previous = some a → ¬ NamedBy a i)) ↔
              (Bound db i ∧ ∀ a, previous = some a → ¬ NamedBy a i) by simp [hnew, hi], ← hbd]
          unfold Bound
          refine exists_congr fun c' => and_congr_right fun hc' => ?_
          have hkey : ¬ c'.componentInstanceId = request.componentInstanceId := fun he =>
            hi (((closePrevious prepared previous now).components.key_of_get? hc').symm.trans he)
          simp [hkey]
      · rintro i ⟨c', hc', -, hjob, -⟩ hi
        rw [hi, ← hex] at hc'
        obtain ⟨-, ⟨hnone, -⟩ | ⟨a, ha, hboundTo⟩⟩ := hfree c' hc'
        · rw [hnone] at hjob
          cases hjob
        · rcases previousAttempt_ok hprev with ⟨-, hnone⟩ | ⟨-, a', ha', hlock⟩
          · rw [hnone] at ha
            cases ha
          · rw [ha'] at ha
            cases ha
            simp only [boundTo, bool_to_prop] at hboundTo
            exact ⟨a, hlock, Option.some.inj (hjob.symm.trans hboundTo.1)⟩
      · intro a ha heq
        have hmem : (if previous.any (fun p => a.attemptId = p.attemptId) then a.expire now else a) ∈
            (closePrevious prepared previous now).attempts.rows := by
          rw [hclosedAttempts, hpreparedAttempts]
          exact List.mem_map_of_mem ha
        refine hfr _ hmem ?_
        split
        · exact heq
        · exact heq
      · have hsame : NoPublication db recorded := by
          intro e he
          rw [hevs] at he
          have hprep : NoPublication db prepared := by
            intro e he
            rw [hpreparedEvents] at he
            exact .inl he
          exact (hprep.trans hclosedEvents) e he
        exact hsame.trans (noPublication_addJobEvent (by decide))

structure Exhausted (now : Timestamp) (db : Db) (job : JobRun) (db' : Db) : Prop where
  running : job.status = .running
  spent : job.attemptLimit + job.quotaPauseCount ≤ job.attempts
  jobs : ∃ preserved, db'.jobs = db.jobs.update (fun j => j.jobId = job.jobId)
    (.exhaust now preserved) (JobRun.exhaust_jobId now preserved)
  attempts : ∃ a, lockExpiredAttempt db job.jobId job.epoch = .ok a ∧
    (db'.attempts.rows = db.attempts.rows.map fun b =>
      if b.attemptId = a.attemptId then b.expire now else b) ∧
    ∀ i, Bound db' i ↔ Bound db i ∧ ¬ NamedBy a i
  events : NoPublication db db'

theorem startClaim_effect {uuid : String} {result : Option ClaimedJobRecord}
    (h : startClaim request uuid now db job = .ok (db', result)) :
    (result = none ∧ Exhausted now db job db') ∨ (result = some (claimedRecord request uuid job) ∧
        Started request uuid now db job db') := by
  obtain ⟨previous, hprev, h⟩ := of_bind h
  split at h
  · rename_i hexh
    cases hp : previous with
    | none =>
      rw [hp] at h
      cases h
    | some attempt =>
      rw [hp] at h
      obtain ⟨_, hfail, h⟩ := of_bind h
      cases h
      rcases previousAttempt_ok hprev with ⟨-, hnone⟩ | ⟨-, a, ha, hlock⟩
      · rw [hp] at hnone
        cases hnone
      · rw [hp] at ha
        cases ha
        obtain ⟨preserved, -, hfail⟩ := of_bind hfail
        rw [Except.pure_eq_ok_iff] at hfail
        subst hfail
        refine .inl ⟨rfl, hexh.1, hexh.2, ⟨preserved, rfl⟩, ⟨attempt, hlock, ?_, ?_⟩, ?_⟩
        · exact closeExpiredAttempt_attempts db attempt now
        · intro i
          exact bound_closeExpiredAttempt
        · exact (noPublication_closeExpiredAttempt db attempt now).trans
            (noPublication_addJobEvent (by decide))
  · rename_i hlive
    obtain ⟨_, hstart, h⟩ := of_bind h
    cases h
    refine .inr ⟨rfl, beginAttempt_effect hprev ?_ hstart⟩
    intro hrun
    rw [not_and, not_le] at hlive
    exact hlive hrun

end DyData.HeavyQueue
