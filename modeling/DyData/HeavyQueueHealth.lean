import DyData.HeavyQueueHistory
import DyData.HeavyQueueFailure
import DyData.HeavyQueueStaleTokens

/-!
The history of a job stays healthy over every run of the control API: claims, heartbeats,
completions, failures, pauses, cancellations and the reclaims of expired leases, whatever
happens to the other jobs.
-/

namespace DyData.HeavyQueue

open Relational List Option
open PythonText (strip)

variable {g : JobAttempt → JobAttempt} {report : FailureReport}

inductive ControlOperation
  | claim (request : ClaimRequest) (env : ClaimEnvironment)
  | heartbeat (token : ClaimToken) (lockNow statementNow : Timestamp) (leaseSeconds : Int)
  | complete (token : ClaimToken) (lockNow statementNow : Timestamp) (successCount : Int)
  | fail (token : ClaimToken) (clock : FailureClock) (report : FailureReport)
  | cancel (token : ClaimToken) (lockNow statementNow : Timestamp) (reason : String)
  | requestCancel (jobId : String) (now : Timestamp)
  | enqueue (job : JobRun)

def Db.control (planner : PlannerIdentity) (db : Db) : ControlOperation → Db
  | .claim request env =>
    match claimJob planner db request env with
    | .error _ => db
    | .ok (db', _) => db'
  | .heartbeat token lockNow statementNow leaseSeconds =>
    match heartbeatClaim db token lockNow statementNow leaseSeconds with
    | .error _ => db
    | .ok (db', _) => db'
  | .complete token lockNow statementNow successCount =>
    match completeClaim db token lockNow statementNow successCount with
    | .error _ => db
    | .ok (db', _) => db'
  | .fail token clock report =>
    match failJob db token clock report with
    | .error _ => db
    | .ok (db', _) => db'
  | .cancel token lockNow statementNow reason =>
    match cancelClaim db token lockNow statementNow reason with
    | .error _ => db
    | .ok (db', _) => db'
  | .requestCancel jobId now =>
    db.updateJobs (fun j => j.jobId = jobId) (.markCancelRequested now)
      (JobRun.markCancelRequested_jobId now)
  | .enqueue job =>
    match db.jobs.insert? job with
    | none => db
    | some jobs => { db with jobs }

def Db.controlRun (planner : PlannerIdentity) (db : Db) (ops : List ControlOperation) : Db :=
  ops.foldl (Db.control planner) db

def ControlOperation.plain : ControlOperation → Bool
  | .fail _ _ report => report.kind.isSchedulerPause ||
      !schedulerPauseMarkers.contains (strip report.errorCode)
  | _ => true

def JobHealthy (strict : Prop) (jobId : String) (db : Db) : Prop :=
  ∃ row, db.jobs.get? jobId = some row ∧ Healthy strict (Bound db) (attemptsOf db jobId) row

section Frame

theorem attemptsOf_of_map {db db' : Db} (hrows : db'.attempts.rows = db.attempts.rows.map g)
    (hg : ∀ a, (g a).jobId = a.jobId) (jobId : String) :
    attemptsOf db' jobId = (attemptsOf db jobId).map g := by
  unfold attemptsOf
  rw [hrows, List.filter_map]
  congr 1
  refine filter_congr fun a _ => ?_
  simp [hg]

theorem mem_attemptsOf {db : Db} {jobId : String} {a : JobAttempt} :
    a ∈ attemptsOf db jobId ↔ a ∈ db.attempts.rows ∧ a.jobId = jobId := by
  simp [attemptsOf]

theorem attemptsOf_of_other {db db' : Db} {jobId : String}
    (hrows : db'.attempts.rows = db.attempts.rows.map g) (hg : ∀ a, (g a).jobId = a.jobId)
    (hoth : ∀ a ∈ db.attempts.rows, a.jobId = jobId → g a = a) :
    attemptsOf db' jobId = attemptsOf db jobId := by
  rw [attemptsOf_of_map hrows hg]
  refine (map_congr_left fun a ha => ?_).trans (List.map_id _)
  obtain ⟨hrow, hjob⟩ := mem_attemptsOf.mp ha
  exact hoth a hrow hjob

/-- A rewriting of the attempts, with one attempt recorded behind them. -/
theorem attemptsOf_of_append {db db' : Db} {new : JobAttempt}
    (hrows : db'.attempts.rows = db.attempts.rows.map g ++ [new]) (hg : ∀ a, (g a).jobId = a.jobId)
    (jobId : String) : attemptsOf db' jobId =
      (attemptsOf db jobId).map g ++ if new.jobId = jobId then [new] else [] := by
  unfold attemptsOf
  rw [hrows, filter_append, List.filter_map]
  congr 1
  · congr 1
    refine filter_congr fun a _ => ?_
    simp [hg]
  · by_cases hnew : new.jobId = jobId <;> simp [hnew]

theorem get?_update_other {db db' : Db} {p : JobRun → Bool} {f : JobRun → JobRun}
    {hf : ∀ job, (f job).jobId = job.jobId} {jobId : String}
    (hjobs : db'.jobs = db.jobs.update p f hf) (hoth : ∀ row, row.jobId = jobId → p row = false) :
    db'.jobs.get? jobId = db.jobs.get? jobId := by
  rw [hjobs, Table.get?_update]
  cases hrow : db.jobs.get? jobId with
  | none => rfl
  | some row => simp [hoth row (db.jobs.key_of_get? hrow)]

theorem JobHealthy.undisturbed {strict : Prop} {db db' : Db} {jobId : String}
    (h : JobHealthy strict jobId db) (hfrm : Undisturbed db db' jobId) :
    JobHealthy strict jobId db' := by
  obtain ⟨row, hrow, hheal⟩ := h
  refine ⟨row, hfrm.row.trans hrow, ?_⟩
  rw [hfrm.attempts]
  refine hheal.keep ⟨rfl, rfl, rfl, rfl⟩ ?_ rfl rfl rfl fun _ => rfl
  intro a ha
  exact hfrm.bindings a.identity (mem_attemptsOf.mp ha).2

end Frame

section Tokens

variable {db db' : Db} {token : ClaimToken} {now : Timestamp} {finish : ClaimFinish}
  {jobId : String} {strict : Prop}

theorem finishTarget_row {job : JobRun} (h : finishTarget token now finish job = true) :
    job.jobId = token.jobId ∧ job.status = .running :=
  running_of_leaseRow (leaseRow_of_activeLease (Bool.and_eq_true_iff.mp h).1)

theorem Finished.undisturbed (h : Finished db token now finish db') (hoth : token.jobId ≠ jobId) :
    Undisturbed db db' jobId where
  row := by
    refine get?_update_other h.jobs fun row hrow => ?_
    rw [← Bool.not_eq_true]
    intro htgt
    exact hoth ((finishTarget_row htgt).1.symm.trans hrow)
  attempts := by
    refine attemptsOf_of_other h.attempts ?_ ?_
    · intro a
      split <;> rfl
    · intro a _ hjob
      have hcls : openAttempt token a = false := by
        rw [← Bool.not_eq_true]
        intro hopen
        simp only [openAttempt, bool_to_prop] at hopen
        exact hoth (hopen.1.1.1.symm.trans hjob)
      rw [hcls, if_neg Bool.false_ne_true]
  bindings := by
    intro i hi
    rw [h.bindings]
    refine and_iff_left ?_
    rintro ⟨-, -, hjob, -⟩
    exact hoth (hjob.symm.trans hi)

structure FinishKeeps (strict : Prop) (finish : ClaimFinish) (now : Timestamp) (row : JobRun) :
    Prop where
  counters : SameCounters row (finish.write now row)
  stopped : (finish.write now row).status ≠ .running
  quota : (finish.write now row).quotaPauseCount = row.quotaPauseCount ∨
    ((finish.write now row).quotaPauseCount = row.quotaPauseCount + 1 ∧
      finish.errorCode.any (fun c => schedulerPauseMarkers.contains c) = true ∧
      isPriorityResourceConfig row.configVersion = true)
  plain : strict → (finish.write now row).quotaPauseCount = row.quotaPauseCount →
    finish.errorCode.any (fun c => schedulerPauseMarkers.contains c) = false
  waiting : (finish.write now row).status = .pending ∨
      (finish.write now row).status = .retryWait →
    (finish.write now row).leaseExpiresAt = none ∧
      (row.attempts ≤ row.attemptLimit + row.quotaPauseCount →
        row.attempts < row.attemptLimit + (finish.write now row).quotaPauseCount)

/-- A finishing call closes the one open attempt of its job and releases its component. -/
theorem JobHealthy.finished {lockNow : Timestamp} {intent : Bool}
    (h : JobHealthy strict token.jobId db)
    (hlock : (lockActiveExecutionState db token lockNow intent).isSome)
    (hfin : Finished db token now finish db')
    (hkeeps : ∀ row, db.jobs.get? token.jobId = some row → FinishKeeps strict finish now row) :
    JobHealthy strict token.jobId db' := by
  obtain ⟨row, hrow, hheal⟩ := h
  have hwr := hkeeps row hrow
  have htgt : finishTarget token now finish row = true := by
    obtain ⟨_, hmem, htgt⟩ := hfin.target
    have hget := db.jobs.get?_of_mem hmem
    rw [(finishTarget_row htgt).1, hrow] at hget
    rw [some.inj hget]
    exact htgt
  obtain ⟨-, a, ha, hatt⟩ := lockActiveExecutionState_isSome hlock
  simp only [attemptRow, bool_to_prop] at hatt
  obtain ⟨⟨⟨⟨⟨hajob, haid⟩, haep⟩, hawor⟩, hacom⟩, hopen⟩ := hatt
  have hmem : a ∈ attemptsOf db token.jobId := mem_attemptsOf.mpr ⟨ha, hajob⟩
  have hcls : Closes finish.errorCode (attemptsOf db token.jobId)
      (attemptsOf db' token.jobId) := by
    refine ⟨fun b => b.finish now finish.exitType finish.errorCode finish.errorSummary,
      fun _ => rfl, fun _ => rfl, fun _ => rfl, ?_⟩
    rw [attemptsOf_of_map hfin.attempts (by intro b; split <;> rfl)]
    -- the open attempt of the job is the token's own
    refine map_congr_left fun b hb => ?_
    have hiff : openAttempt token b = b.unfinished := by
      cases hb' : b.unfinished with
      | false => simp [openAttempt, hb']
      | true =>
        have hba : b = a := (hheal.open_unique hb hb' hmem hopen).1
        simp [openAttempt, hba, hajob, haid, haep, hopen]
    rw [hiff]
  have hbd : ∀ i, Bound db' i →
      Bound db i ∧ ∀ b ∈ attemptsOf db token.jobId, b.unfinished = true → b.identity ≠ i := by
    intro i hi
    obtain ⟨hbef, hrel⟩ := (hfin.bindings i).mp hi
    refine ⟨hbef, fun b hb hb' hidn => hrel ?_⟩
    have hba : b = a := (hheal.open_unique hb hb' hmem hopen).1
    rw [← hidn, hba]
    exact ⟨hacom, hawor, hajob, haid⟩
  refine ⟨finish.write now row, ?_, hheal.close hcls hwr.counters hbd hwr.stopped
    ?_ hwr.plain ?_⟩
  · rw [hfin.jobs, Table.get?_update, hrow, map_some, if_pos htgt]
  · rcases hwr.quota with hkept | ⟨hmore, hmark, hprio⟩
    · exact .inl hkept
    · exact .inr ⟨hmore, (finishTarget_row htgt).2, hmark, hprio⟩
  · intro hstat
    obtain ⟨hexp, hroom⟩ := hwr.waiting hstat
    exact ⟨finish.clearsLease now row, hexp, hroom hheal.budget⟩

theorem JobHealthy.renewed {leaseSeconds : Int} (h : JobHealthy strict jobId db)
    (hren : Renewed db token now leaseSeconds db') : JobHealthy strict jobId db' := by
  obtain ⟨row, hrow, hheal⟩ := h
  have hatts : attemptsOf db' jobId = attemptsOf db jobId := by
    unfold attemptsOf
    rw [hren.attempts]
  refine ⟨if activeLease token now row then row.renew now leaseSeconds else row, ?_, ?_⟩
  · rw [hren.jobs, Table.get?_update, hrow, map_some]
  rw [hatts]
  have hbd : ∀ a ∈ attemptsOf db jobId, Bound db' a.identity ↔ Bound db a.identity :=
    fun a _ => hren.bindings a.identity
  by_cases htgt : activeLease token now row = true
  · rw [if_pos htgt]
    refine hheal.keep ⟨rfl, rfl, rfl, rfl⟩ hbd rfl rfl rfl fun hidle => ?_
    exact absurd (running_of_leaseRow (leaseRow_of_activeLease htgt)).2 hidle
  · rw [if_neg htgt]
    exact hheal.keep ⟨rfl, rfl, rfl, rfl⟩ hbd rfl rfl rfl fun _ => rfl

end Tokens

section Claims

variable {db db' : Db} {job : JobRun} {now : Timestamp} {jobId : String} {strict : Prop}

theorem Quarantined.undisturbed (h : Quarantined db job now db') (hoth : job.jobId ≠ jobId) :
    Undisturbed db db' jobId where
  row := by
    refine get?_update_other h.jobs fun row hrow => ?_
    simp [hrow, hoth.symm]
  attempts := by
    refine attemptsOf_of_other h.attempts ?_ ?_
    · intro a
      split <;> rfl
    · intro a _ hjob
      simp [hjob, hoth.symm]
  bindings := by
    intro i hi
    rw [h.bindings]
    refine and_iff_left fun a ha hnamed => hoth ?_
    exact (mem_attemptsOf.mp ha).2.symm.trans (hnamed.2.2.1.symm.trans hi)

/-- A quarantine closes every open attempt of its job and releases its components. -/
theorem JobHealthy.quarantined (h : JobHealthy strict jobId db)
    (hquar : Quarantined db job now db') : JobHealthy strict jobId db' := by
  by_cases hoth : job.jobId = jobId
  · subst hoth
    obtain ⟨row, hrow, hheal⟩ := h
    have hcls : Closes (some "control_plane_identity_invalid") (attemptsOf db job.jobId)
        (attemptsOf db' job.jobId) := by
      refine ⟨fun a => a.quarantine now, fun _ => rfl, fun _ => rfl, fun _ => rfl, ?_⟩
      rw [attemptsOf_of_map hquar.attempts (by intro b; split <;> rfl)]
      refine map_congr_left fun a ha => ?_
      simp [(mem_attemptsOf.mp ha).2]
    refine ⟨row.quarantine now, ?_, hheal.close hcls ⟨rfl, rfl, rfl, rfl⟩ ?_ ?_
      (.inl rfl) (fun _ _ => by decide) ?_⟩
    · rw [hquar.jobs, Table.get?_update, hrow]
      simp [db.jobs.key_of_get? hrow]
    · intro i hi
      obtain ⟨hbef, hrel⟩ := (hquar.bindings i).mp hi
      refine ⟨hbef, fun a ha _ hidn => hrel a ha ?_⟩
      rw [← hidn]
      exact ⟨rfl, rfl, rfl, rfl⟩
    · exact nofun
    · intro hwait
      rcases hwait with hwait | hwait <;> cases hwait
  · exact h.undisturbed (hquar.undisturbed hoth)

/-- The attempt a claim takes over is the one open attempt of a healthy job. -/
theorem Healthy.closes_expired {row : JobRun}
    (h : Healthy strict (Bound db) (attemptsOf db job.jobId) row) {a : JobAttempt}
    (hlock : lockExpiredAttempt db job.jobId job.epoch = .ok a) (now : Timestamp) :
    Closes (some "lease_expired") (attemptsOf db job.jobId)
      ((attemptsOf db job.jobId).map fun b =>
        if b.attemptId = a.attemptId then b.expire now else b) := by
  obtain ⟨ha, hajob, -, hopen⟩ := lockExpiredAttempt_ok hlock
  refine ⟨fun b => b.expire now, fun _ => rfl, fun _ => rfl, fun _ => rfl, ?_⟩
  refine map_congr_left fun b hb => ?_
  obtain ⟨hbrow, _⟩ := mem_attemptsOf.mp hb
  have hiff : b.attemptId = a.attemptId ↔ b.unfinished = true := by
    constructor
    · intro hid
      rw [db.attempts.eq_of_key_eq hbrow ha hid]
      exact hopen
    · intro hb'
      rw [(h.open_unique hb hb' (mem_attemptsOf.mpr ⟨ha, hajob⟩) hopen).1]
  simp only [hiff]

theorem Exhausted.undisturbed (h : Exhausted now db job db') (hoth : job.jobId ≠ jobId) :
    Undisturbed db db' jobId := by
  obtain ⟨_, hjobs⟩ := h.jobs
  obtain ⟨a, hlock, hatts, hbs⟩ := h.attempts
  obtain ⟨ha, hajob, -, -⟩ := lockExpiredAttempt_ok hlock
  refine ⟨?_, ?_, ?_⟩
  · refine get?_update_other hjobs fun row hrow => ?_
    simp [hrow, hoth.symm]
  · refine attemptsOf_of_other hatts (by intro b; split <;> rfl) fun b hb hjob => ?_
    have hne : b.attemptId ≠ a.attemptId := by
      intro hid
      rw [db.attempts.eq_of_key_eq hb ha hid, hajob] at hjob
      exact hoth hjob
    rw [if_neg hne]
  · intro i hi
    rw [hbs]
    refine and_iff_left fun hnamed => hoth ?_
    exact hajob.symm.trans (hnamed.2.2.1.symm.trans hi)

theorem JobHealthy.exhausted (h : JobHealthy strict jobId db)
    (hexh : Exhausted now db job db') : JobHealthy strict jobId db' := by
  by_cases hoth : job.jobId = jobId
  · subst hoth
    obtain ⟨row, hrow, hheal⟩ := h
    obtain ⟨preserved, hjobs⟩ := hexh.jobs
    obtain ⟨_, hlock, hatts, hbs⟩ := hexh.attempts
    obtain ⟨ha, hajob, -, hopen⟩ := lockExpiredAttempt_ok hlock
    have hcls := hheal.closes_expired hlock now
    rw [← attemptsOf_of_map hatts (by intro b; split <;> rfl)] at hcls
    refine ⟨row.exhaust now preserved, ?_, hheal.close hcls ⟨rfl, rfl, rfl, rfl⟩ ?_
      nofun (.inl rfl) (fun _ _ => by decide) ?_⟩
    · rw [hjobs, Table.get?_update, hrow]
      simp [db.jobs.key_of_get? hrow]
    · intro i hi
      obtain ⟨hbef, hrel⟩ := (hbs i).mp hi
      refine ⟨hbef, fun b hb hb' hidn => hrel ?_⟩
      rw [← hidn, (hheal.open_unique hb hb' (mem_attemptsOf.mpr ⟨ha, hajob⟩) hopen).1]
      exact ⟨rfl, rfl, rfl, rfl⟩
    · intro hwait
      rcases hwait with hwait | hwait <;> cases hwait
  · exact h.undisturbed (hexh.undisturbed hoth)

variable {request : ClaimRequest} {uuid : String}

theorem Started.undisturbed (h : Started request uuid now db job db')
    (hoth : job.jobId ≠ jobId) : Undisturbed db db' jobId := by
  obtain ⟨previous, hprev, hatts, hbs⟩ := h.attempts
  have hlocke : ∀ a, previous = some a → a ∈ db.attempts.rows ∧ a.jobId = job.jobId := by
    intro a ha
    rcases previousAttempt_ok hprev with ⟨-, hnone⟩ | ⟨-, a', ha', hlock⟩
    · rw [hnone] at ha
      cases ha
    · rw [ha'] at ha
      cases ha
      obtain ⟨hmem, hjob, -, -⟩ := lockExpiredAttempt_ok hlock
      exact ⟨hmem, hjob⟩
  refine ⟨?_, ?_, ?_⟩
  · refine get?_update_other h.jobs fun row hrow => ?_
    simp [hrow, hoth.symm]
  · have hnew : ¬ (newAttempt request uuid now job).jobId = jobId := hoth
    rw [attemptsOf_of_append hatts (by intro b; split <;> rfl), if_neg hnew, append_nil]
    -- the attempt that is taken over belongs to the claimed job
    have hkept : ∀ b ∈ db.attempts.rows, b.jobId = jobId →
        previous.any (fun p => b.attemptId = p.attemptId) = false := by
      intro b hb hjob
      rw [← Bool.not_eq_true]
      intro hany
      obtain ⟨a, ha, hid⟩ := (Option.any_eq_true _ _).mp hany
      obtain ⟨hmem, hajob⟩ := hlocke a ha
      rw [db.attempts.eq_of_key_eq hb hmem (of_decide_eq_true hid), hajob] at hjob
      exact hoth hjob
    refine (map_congr_left fun b hb => ?_).trans (List.map_id _)
    obtain ⟨hrow, hjob⟩ := mem_attemptsOf.mp hb
    rw [hkept b hrow hjob, if_neg Bool.false_ne_true, id]
  · intro i hi
    rw [hbs]
    constructor
    · rintro (hnamed | ⟨-, hbef, -⟩)
      · exact absurd (hnamed.2.2.1.symm.trans hi) hoth
      · exact hbef
    · intro hbef
      refine .inr ⟨?_, hbef, fun a ha hnamed => ?_⟩
      · intro hcomp
        obtain ⟨a, hlock, hajob⟩ := h.component i hbef hcomp
        obtain ⟨-, hjob, -, -⟩ := lockExpiredAttempt_ok hlock
        exact hoth (hjob.symm.trans (hajob.symm.trans hi))
      · exact hoth ((hlocke a ha).2.symm.trans (hnamed.2.2.1.symm.trans hi))

/-- Starting a claimable job closes what it takes over and opens the next attempt. -/
theorem JobHealthy.started (h : JobHealthy strict jobId db)
    (hown : strip request.leaseOwner ≠ "") (hrow : db.jobs.get? job.jobId = some job)
    (hstat : job.status = .pending ∨ job.status = .retryWait ∨ job.status = .running)
    (hstart : Started request uuid now db job db') : JobHealthy strict jobId db' := by
  by_cases hoth : job.jobId = jobId
  · subst hoth
    obtain ⟨row, hrow', hheal⟩ := h
    have hsame : row = job := mem_unique hrow' hrow
    subst hsame
    obtain ⟨previous, hprev, hatts, hbs⟩ := hstart.attempts
    have hnew : (newAttempt request uuid now row).jobId = row.jobId := rfl
    have hspl : attemptsOf db' row.jobId = ((attemptsOf db row.jobId).map fun b =>
        if previous.any (fun p => b.attemptId = p.attemptId) then b.expire now else b) ++
          [newAttempt request uuid now row] := by
      rw [attemptsOf_of_append hatts (by intro b; split <;> rfl), if_pos hnew]
    have hcls : Closes (some "lease_expired") (attemptsOf db row.jobId)
        ((attemptsOf db row.jobId).map fun b =>
          if previous.any (fun p => b.attemptId = p.attemptId) then b.expire now else b) := by
      rcases previousAttempt_ok hprev with ⟨hidle, rfl⟩ | ⟨-, a, rfl, hlock⟩
      · refine ⟨fun b => b.expire now, fun _ => rfl, fun _ => rfl, fun _ => rfl, ?_⟩
        refine map_congr_left fun b hb => ?_
        have hclos := filter_eq_nil_iff.mp (hheal.idle hidle) b hb
        simp [hclos]
      · simpa using hheal.closes_expired hlock now
    have hroom : row.attempts < row.attemptLimit + row.quotaPauseCount := by
      rcases hstat with hpend | hretry | hrun
      · exact (hheal.waiting (.inl hpend)).2.2
      · exact (hheal.waiting (.inr hretry)).2.2
      · exact hstart.budget hrun
    refine ⟨row.start request (row.attempts + 1) (row.epoch + 1) now, ?_, ?_⟩
    · rw [hstart.jobs, Table.get?_update, hrow]
      simp
    · rw [hspl]
      refine hheal.start hcls (by decide) rfl hown hroom ?_ ?_
      · exact (hbs _).mpr (.inl ⟨rfl, rfl, rfl, rfl⟩)
      · -- the attempt identifiers are unique, and the one taken over was released
        intro a ha hbd
        obtain ⟨b, hb, hidn⟩ := hcls.mem ha
        rw [hidn] at hbd
        obtain ⟨hbrow, _⟩ := mem_attemptsOf.mp hb
        rcases (hbs _).mp hbd with hnamed | ⟨-, hbef, hrel⟩
        · exact hstart.fresh b hbrow hnamed.2.2.2
        · cases hopen : b.unfinished with
          | false => exact hheal.released b hb hopen hbef
          | true =>
            rcases previousAttempt_ok hprev with ⟨hidle, -⟩ | ⟨-, p, hp, hlock⟩
            · exact filter_eq_nil_iff.mp (hheal.idle hidle) b hb hopen
            · obtain ⟨hprow, hpjob, -, hpopen⟩ := lockExpiredAttempt_ok hlock
              have hsame := (hheal.open_unique hb hopen
                (mem_attemptsOf.mpr ⟨hprow, hpjob⟩) hpopen).1
              refine hrel p hp ?_
              rw [hsame]
              exact ⟨rfl, rfl, rfl, rfl⟩
  · exact h.undisturbed (hstart.undisturbed hoth)

theorem JobHealthy.claim {planner : PlannerIdentity} {env : ClaimEnvironment}
    {result : Option ClaimedJobRecord} (h : JobHealthy strict jobId db)
    (hclm : claimJob planner db request env = .ok (db', result)) : JobHealthy strict jobId db' := by
  unfold claimJob at hclm
  obtain ⟨_, hval, hclm⟩ := Except.of_bind hclm
  rw [Except.mapError_eq_ok_iff] at hclm
  unfold validateClaimInputs at hval
  obtain ⟨_, hown, -⟩ := Except.of_bind hval
  rw [Except.ensure_eq_ok_iff, decide_eq_true_eq] at hown
  unfold claimNextHeavyJob at hclm
  split at hclm
  · cases hclm
    exact h
  · obtain ⟨⟨mid, _⟩, hsear, hclm⟩ := Except.of_bind hclm
    obtain ⟨hmid, hsel⟩ := claimSearch_induction (P := JobHealthy strict jobId)
      (fun hP _ _ _ hfenc => hP.quarantined (quarantine_effect hfenc).2) _ hsear h
    dsimp only at hclm
    split at hclm
    · cases hclm
      exact hmid
    · rename_i job rounds
      obtain ⟨hmem, k, _, hcand, -⟩ := hsel job rounds rfl
      have hrow := mid.jobs.get?_of_mem hmem
      have hclai : Selected env.clock mid job := by
        simp only [claimCandidate, bool_to_prop] at hcand
        exact ⟨hrow, 2 * k + 1, hcand.1.1.1.1.1.2⟩
      have hstat := selected_status hclai
      rcases startClaim_effect hclm with ⟨-, hexh⟩ | ⟨-, hstart⟩
      · exact hmid.exhausted hexh
      · exact hmid.started hown hrow hstat hstart

end Claims

section Calls

variable {db db' : Db} {token : ClaimToken} {jobId : String} {strict : Prop}

/-- The numbers that a lock reads are those of the token's row. -/
theorem lockActiveExecutionState_state {now : Timestamp} {intent : Bool}
    {state : ActiveExecutionState} (h : lockActiveExecutionState db token now intent = some state) :
    ∃ row, db.jobs.get? token.jobId = some row ∧
      state = ⟨row.attempts, row.attemptLimit, row.quotaPauseCount⟩ := by
  obtain ⟨row, hrow, h⟩ := bind_eq_some_iff.mp h
  obtain ⟨_, -, h⟩ := bind_eq_some_iff.mp h
  have hid : row.jobId = token.jobId :=
    (running_of_leaseRow (by simpa using find?_some hrow)).1
  refine ⟨row, db.jobs.get?_eq_some_iff.mpr ⟨mem_of_find?_eq_some hrow, hid⟩, ?_⟩
  split at h
  · cases h
  · split at h
    · cases h
    · obtain ⟨_, -, h⟩ := bind_eq_some_iff.mp h
      obtain ⟨_, -, h⟩ := bind_eq_some_iff.mp h
      cases h
      rfl

theorem completion_keeps (strict : Prop) (successCount : Int) (now : Timestamp) (row : JobRun) :
    FinishKeeps strict (completion successCount) now row where
  counters := ⟨rfl, rfl, rfl, rfl⟩
  stopped h := by cases h
  quota := .inl rfl
  plain _ _ := rfl
  waiting h := by rcases h with h | h <;> cases h

theorem cancellation_keeps (strict : Prop) (reason : String) (now : Timestamp) (row : JobRun) :
    FinishKeeps strict (cancellation reason) now row where
  counters := ⟨rfl, rfl, rfl, rfl⟩
  stopped h := by cases h
  quota := .inl rfl
  plain _ _ := rfl
  waiting h := by rcases h with h | h <;> cases h

theorem arguments_of_pause (decision : RetryDecision) (h : report.kind.isSchedulerPause = true) :
    (report.arguments decision).incrementQuotaPauseCount = true ∧
      schedulerPauseMarkers.contains (report.arguments decision).errorCode = true := by
  refine ⟨h, ?_⟩
  unfold FailureReport.arguments
  cases hkind : report.kind with
  | budgetPause =>
    change schedulerPauseMarkers.contains (strip "priority_budget_pause") = true
    decide +kernel
  | resourcePause =>
    change schedulerPauseMarkers.contains (strip "worker_resource_pause") = true
    decide +kernel
  | transient | browser | dataIntegrity | memoryGuard | crashed =>
    rw [hkind] at h
    cases h

theorem arguments_of_failure (decision : RetryDecision) (h : report.kind.isSchedulerPause = false) :
    (report.arguments decision).incrementQuotaPauseCount = false ∧
      (report.arguments decision).errorCode = strip report.errorCode := by
  refine ⟨h, ?_⟩
  have hmark : report.kind.pauseMarker? = none := by
    rw [← not_isSome_iff_eq_none, Bool.not_eq_true]
    exact h
  unfold FailureReport.arguments
  rw [hmark, getD_none]

/-- `fail_job` writes a failure that keeps the budget: a retry leaves an attempt, a pause adds
one. -/
theorem failure_keeps {clock : FailureClock} {row : JobRun} {decision : RetryDecision}
    {state : ActiveExecutionState} (hrow : db.jobs.get? token.jobId = some row)
    (hstt : lockActiveExecutionState db token clock.stateNow false = some state)
    (hdec : (decision.status = .retryWait ∧ (report.kind.isSchedulerPause = true ∨
        state.attemptNumber < state.maxAttempts + state.quotaPauseCount)) ∨
      (decision.status = .failed ∧ report.kind.isSchedulerPause = false))
    (hall : report.kind.isSchedulerPause = true → pauseAllowed db token.jobId = true)
    (hplain : strict → (ControlOperation.fail token clock report).plain = true) :
    FinishKeeps strict (failure (report.arguments decision)) clock.statementNow row := by
  have hnumb : state = ⟨row.attempts, row.attemptLimit, row.quotaPauseCount⟩ := by
    obtain ⟨_, hrow', hstt⟩ := lockActiveExecutionState_state hstt
    rw [hrow] at hrow'
    rw [hstt, some.inj hrow']
  subst hnumb
  have hstat : ((failure (report.arguments decision)).write clock.statementNow row).status =
      decision.status := rfl
  refine
    { counters := ⟨rfl, rfl, rfl, rfl⟩
      stopped := ?_
      quota := ?_
      plain := ?_
      waiting := ?_ }
  · rw [hstat]
    rcases hdec with ⟨hretry, -⟩ | ⟨hfail, -⟩
    · rw [hretry]
      decide
    · rw [hfail]
      decide
  · cases hpause : report.kind.isSchedulerPause with
    | false =>
      have hargs := (arguments_of_failure decision hpause).1
      exact .inl (by simp [failure, hargs])
    | true =>
      obtain ⟨hargs, hmark⟩ := arguments_of_pause decision hpause
      have hprio : isPriorityResourceConfig row.configVersion = true := by
        have hall := hall hpause
        unfold pauseAllowed at hall
        rwa [hrow] at hall
      exact .inr ⟨by simp [failure, hargs], hmark, hprio⟩
  · intro hstr hsame
    cases hpause : report.kind.isSchedulerPause with
    | true =>
      have hargs := (arguments_of_pause decision hpause).1
      simp only [failure, hargs, if_true] at hsame
      omega
    | false =>
      have hcode := (arguments_of_failure decision hpause).2
      have hplain := hplain hstr
      simp only [ControlOperation.plain, hpause, Bool.false_or, Bool.not_eq_true'] at hplain
      simp only [failure, hcode, any_some]
      exact hplain
  · intro hwait
    refine ⟨rfl, fun hbud => ?_⟩
    rw [hstat] at hwait
    rcases hdec with ⟨-, hpause | hroom⟩ | ⟨hfail, -⟩
    · have hargs := (arguments_of_pause decision hpause).1
      simp only [failure, hargs, if_true]
      omega
    · simp only [failure]
      split
      · omega
      · exact hroom
    · rw [hfail] at hwait
      rcases hwait with hwait | hwait <;> cases hwait

theorem JobHealthy.finishClaim {lockNow statementNow : Timestamp} {finish : ClaimFinish}
    {done : Bool} (h : JobHealthy strict jobId db)
    (hcall : HeavyQueue.finishClaim db token lockNow statementNow finish = .ok (db', done))
    (hkeeps : token.jobId = jobId → ∀ row, db.jobs.get? token.jobId = some row →
      FinishKeeps strict finish statementNow row) : JobHealthy strict jobId db' := by
  rcases finishClaim_effect hcall with ⟨-, rfl⟩ | ⟨-, hlock, hfin⟩
  · exact h
  · by_cases hoth : token.jobId = jobId
    · subst hoth
      exact h.finished hlock hfin (hkeeps rfl)
    · exact h.undisturbed (hfin.undisturbed hoth)

/-- One call of the control API, on this job or on any other. -/
theorem JobHealthy.control (planner : PlannerIdentity) (h : JobHealthy strict jobId db)
    {op : ControlOperation} (hplain : strict → op.plain = true) :
    JobHealthy strict jobId (db.control planner op) := by
  unfold Db.control
  cases op with
  | claim request env =>
    dsimp only
    split
    · exact h
    · rename_i hclm
      exact h.claim hclm
  | heartbeat token lockNow statementNow leaseSeconds =>
    dsimp only
    split
    · exact h
    · rename_i hcall
      rcases heartbeatClaim_effect hcall with ⟨-, rfl⟩ | ⟨-, -, hren⟩
      · exact h
      · exact h.renewed hren
  | complete token lockNow statementNow successCount =>
    dsimp only
    split
    · exact h
    · rename_i hcall
      exact h.finishClaim hcall fun _ row _ => completion_keeps strict successCount _ row
  | fail token clock report =>
    dsimp only
    split
    · exact h
    · rename_i hcall
      rcases failJob_ok hcall with rfl | ⟨⟨state, decision, hstt, hdec, _, hfail⟩, hall⟩
      · exact h
      · refine h.finishClaim hfail fun _ row hrow => ?_
        exact failure_keeps hrow hstt hdec hall hplain
  | cancel token lockNow statementNow reason =>
    dsimp only
    split
    · exact h
    · rename_i hcall
      exact h.finishClaim hcall fun _ row _ => cancellation_keeps strict reason _ row
  | requestCancel id now =>
    obtain ⟨row, hrow, hheal⟩ := h
    refine ⟨if row.jobId = id then row.markCancelRequested now else row, ?_, ?_⟩
    · refine (db.jobs.get?_update _ _ (JobRun.markCancelRequested_jobId now) jobId).trans ?_
      rw [hrow]
      simp
    · have hkept : Healthy strict (Bound db) (attemptsOf db jobId)
          (if row.jobId = id then row.markCancelRequested now else row) := by
        split
        · exact hheal.keep ⟨rfl, rfl, rfl, rfl⟩ (fun _ _ => Iff.rfl) rfl rfl rfl fun _ => rfl
        · exact hheal
      exact hkept
  | enqueue job =>
    dsimp only
    split
    · exact h
    · rename_i hins
      obtain ⟨row, hrow, hheal⟩ := h
      exact ⟨row, Table.get?_insert?_of_some hins hrow, hheal⟩

theorem JobHealthy.controlRun (planner : PlannerIdentity) (ops : List ControlOperation)
    (hplain : strict → ∀ op ∈ ops, op.plain = true) :
    ∀ {db : Db}, JobHealthy strict jobId db → JobHealthy strict jobId (db.controlRun planner ops) := by
  unfold Db.controlRun
  induction ops with
  | nil => intro db h; exact h
  | cons op ops ih =>
    intro db h
    refine ih (fun hstr op hop => hplain hstr op (mem_cons_of_mem _ hop)) ?_
    exact h.control planner fun hstr => hplain hstr op mem_cons_self

end Calls

end DyData.HeavyQueue
