import DyData.HeavyQueueClaimEffects

/-!
What a claim can do to the queue: rows it recovers on the way become failed rows without a
lease, and at most one row is started under the next epoch of its lease.
-/

namespace DyData.HeavyQueue

open Relational List

variable {now : Timestamp} {job : JobRun} {clock : Nat → Timestamp} {planner : PlannerIdentity}
  {request : ClaimRequest} {db db' : Db}

/-- A row that a claim took out of the queue: its lease had run out by one of the claim's
clock readings, or nobody had started it. -/
structure Recovered (clock : Nat → Timestamp) (row row' : JobRun) : Prop where
  fenced : ∃ k, expiredRunning (clock k) row = true ∨ row.status = .pending ∨
    row.status = .retryWait
  status : row'.status = .failed
  owner : row'.leaseOwner = none
  epoch : row'.leaseEpoch = row.leaseEpoch
  parent : row'.parentJobId = row.parentJobId

def SearchStep (clock : Nat → Timestamp) (row row' : JobRun) : Prop :=
  row' = row ∨ Recovered clock row row'

theorem SearchStep.refl (clock : Nat → Timestamp) (row : JobRun) : SearchStep clock row row :=
  .inl rfl

theorem status_of_expiredRunning (h : expiredRunning now job = true) : job.status = .running := by
  simp only [expiredRunning, bool_to_prop] at h
  exact h.1

theorem SearchStep.trans {a b c : JobRun} (hab : SearchStep clock a b) (hbc : SearchStep clock b c) :
    SearchStep clock a c := by
  rcases hab with rfl | hab
  · exact hbc
  rcases hbc with rfl | hbc
  · exact .inr hab
  -- A recovered row is failed, and no failed row is recovered again.
  obtain ⟨_, hexp | hpend | hretry⟩ := hbc.fenced
  · have hrun := status_of_expiredRunning hexp
    rw [hab.status] at hrun
    cases hrun
  · rw [hab.status] at hpend
    cases hpend
  · rw [hab.status] at hretry
    cases hretry

theorem earliest_mem {rows : List JobRun} (h : earliest rows = some job) : job ∈ rows := by
  have hfold : ∀ found, earliest rows = some found → found ∈ rows := by
    refine foldlRecOn rows _ (motive := fun best => ∀ found, best = some found → found ∈ rows)
      (fun _ hnone => by cases hnone) ?_
    intro best hbest a ha found hfound
    cases best with
    | none =>
      cases hfound
      exact ha
    | some b =>
      dsimp only at hfound
      split at hfound
      · cases hfound
        exact ha
      · exact hbest found hfound
  exact hfold job h

/-- Only expired rows and rows that wait for a start are quarantined. -/
theorem judgeCandidate_quarantine {dateLock requireExpired : Bool} {state : Option ControlState}
    (h : judgeCandidate planner request db job now dateLock =
      .ok (.quarantine state requireExpired)) :
    requireExpired = true ∨ job.status = .pending ∨ job.status = .retryWait := by
  unfold judgeCandidate at h
  dsimp only at h
  split at h
  · cases h
    exact .inl rfl
  · split at h
    · rename_i hwait
      simp only [bool_to_prop] at hwait
      exact .inr hwait.1
    · split at h
      · cases h
      · split at h
        · cases h
          exact .inl rfl
        · cases h
      · split at h
        · cases h
        · split at h
          · split at h
            · cases h
            · split at h <;> cases h
          · cases h

theorem quarantine_searchStep {k : Nat} {dateLock requireExpired : Bool}
    {state : Option ControlState} (hjob : job ∈ db.jobs.rows)
    (hjdg : judgeCandidate planner request db job (clock k) dateLock =
      .ok (.quarantine state requireExpired))
    (h : quarantineInvalidExpiredRunningJob db job (clock k) state requireExpired = .ok db') :
    db.jobs.RowWise (SearchStep clock) db'.jobs ∧ db'.identities = db.identities := by
  obtain ⟨hexp, hquar⟩ := quarantine_effect h
  refine ⟨?_, identities_of_rewrite hquar.attempts fun _ => rfl⟩
  rw [hquar.jobs]
  refine Table.rowWise_update_row hjob _ (JobRun.quarantine_jobId _) ?_ (SearchStep.refl clock)
  refine .inr ⟨⟨k, ?_⟩, rfl, rfl, rfl, rfl⟩
  rcases judgeCandidate_quarantine hjdg with hreq | hwait
  · exact .inl (hexp hreq)
  · exact .inr hwait

/-- The selected row is in the table the search ends with, and it was claimable by one of
the search's clock readings. -/
def Selected (clock : Nat → Timestamp) (db : Db) (job : JobRun) : Prop :=
  db.jobs.get? job.jobId = some job ∧
    ∃ k, readyToStart (clock k) job = true ∨ expiredRunning (clock k) job = true

/-- An invariant that every quarantine of the search keeps holds where the search ends, and a
selected row passed the query and the checks of its round there. -/
theorem claimSearch_induction {P : Db → Prop} {env : ClaimEnvironment}
    (hquar : ∀ {db db' : Db} {job : JobRun} {k : Nat} {last : Option ClaimOrderKey}
      {state : Option ControlState} {requireExpired : Bool}, P db → job ∈ db.jobs.rows →
      claimCandidate db request (env.clock (2 * k + 1)) last job = true →
      judgeCandidate planner request db job (env.clock (2 * k + 2)) (env.dateLock k) =
        .ok (.quarantine state requireExpired) →
      quarantineInvalidExpiredRunningJob db job (env.clock (2 * k + 2)) state requireExpired =
        .ok db' → P db') (fuel : Nat) :
    ∀ {i : Nat} {db db' : Db} {last : Option ClaimOrderKey} {selected : Option (JobRun × Nat)},
      claimSearch planner request env fuel i db last = .ok (db', selected) → P db →
      P db' ∧ ∀ job rounds, selected = some (job, rounds) → job ∈ db'.jobs.rows ∧
        ∃ k last, claimCandidate db' request (env.clock (2 * k + 1)) last job = true ∧
          judgeCandidate planner request db' job (env.clock (2 * k + 2)) (env.dateLock k) =
            .ok .take := by
  induction fuel with
  | zero =>
    intro i db db' last selected h hP
    cases h
    exact ⟨hP, fun job rounds hnone => by cases hnone⟩
  | succ fuel ih =>
    intro i db db' last selected h hP
    unfold claimSearch at h
    split at h
    · cases h
      exact ⟨hP, fun job rounds hnone => by cases hnone⟩
    · rename_i job hfd
      have hmem := earliest_mem hfd
      rw [mem_filter, Bool.and_eq_true] at hmem
      obtain ⟨hrow, hcand, -⟩ := hmem
      dsimp only at h
      split at h
      · cases h
      · rename_i htake
        cases h
        refine ⟨hP, fun job' rounds heq => ?_⟩
        cases heq
        exact ⟨hrow, i, last, hcand, htake⟩
      · split at h
        · cases h
          exact ⟨hP, fun job rounds hnone => by cases hnone⟩
        · exact ih h hP
      · rename_i hjdg
        split at h
        · cases h
        · rename_i fenced hfenc
          have hP' : P fenced := hquar hP hrow hcand hjdg hfenc
          split at h
          · cases h
            exact ⟨hP', fun job rounds hnone => by cases hnone⟩
          · exact ih h hP'

theorem claimSearch_ok {env : ClaimEnvironment} (fuel : Nat) {i : Nat}
    {last : Option ClaimOrderKey} {selected : Option (JobRun × Nat)}
    (h : claimSearch planner request env fuel i db last = .ok (db', selected)) :
    db.jobs.RowWise (SearchStep env.clock) db'.jobs ∧ db'.identities = db.identities ∧
      ∀ job rounds, selected = some (job, rounds) → Selected env.clock db' job := by
  obtain ⟨⟨hrows, hiden⟩, hsel⟩ := claimSearch_induction
    (P := fun mid => db.jobs.RowWise (SearchStep env.clock) mid.jobs ∧
      mid.identities = db.identities)
    (fun ⟨hrows, hiden⟩ hrow _ hjdg hfenc => by
      obtain ⟨hrows', hiden'⟩ := quarantine_searchStep hrow hjdg hfenc
      exact ⟨hrows.trans SearchStep.trans hrows', hiden'.trans hiden⟩)
    fuel h ⟨.refl (SearchStep.refl _) _, rfl⟩
  refine ⟨hrows, hiden, fun job rounds heq => ?_⟩
  obtain ⟨hrow, k, _, hcand, -⟩ := hsel job rounds heq
  refine ⟨db'.jobs.get?_of_mem hrow, 2 * k + 1, ?_⟩
  simp only [claimCandidate, bool_to_prop] at hcand
  exact hcand.1.1.1.1.1.2

/-- The two ways a claim of a selected row ends: the job is failed because its attempts are
used up, or it runs under a new token. -/
theorem startClaim_ok {uuid : String} {result : Option ClaimedJobRecord}
    (h : startClaim request uuid now db job = .ok (db', result)) :
    (result = none ∧ job.status = .running ∧ db'.identities = db.identities ∧
      ∃ preserved, db'.jobs = db.jobs.update (fun j => j.jobId = job.jobId)
        (.exhaust now preserved) (JobRun.exhaust_jobId now preserved)) ∨
    (result = some (claimedRecord request uuid job) ∧
      db'.jobs = db.jobs.update (fun j => j.jobId = job.jobId)
        (.start request (job.attempts + 1) (job.epoch + 1) now)
        (JobRun.start_jobId request _ _ now) ∧
      db'.identities = db.identities ++ [(newAttempt request uuid now job).identity]) := by
  rcases startClaim_effect h with ⟨hnone, hexh⟩ | ⟨hsome, hstart⟩
  · obtain ⟨a, -, hrows, -⟩ := hexh.attempts
    exact .inl ⟨hnone, hexh.running, identities_of_rewrite hrows fun _ => rfl, hexh.jobs⟩
  · obtain ⟨previous, -, hrows, -⟩ := hstart.attempts
    refine .inr ⟨hsome, hstart.jobs, ?_⟩
    rw [Db.identities, hrows, map_append]
    congr 1
    exact map_rewrite (JobAttempt.expire_identity _) (fun a => previous.any fun p =>
      a.attemptId = p.attemptId) _

def ClaimRecovered (clock : Nat → Timestamp) (db db' : Db) : Prop :=
  db.jobs.RowWise (SearchStep clock) db'.jobs ∧ db'.identities = db.identities

def ClaimStarted (request : ClaimRequest) (env : ClaimEnvironment) (db db' : Db)
    (record : ClaimedJobRecord) : Prop :=
  ∃ mid job now, ClaimRecovered env.clock db mid ∧ Selected env.clock mid job ∧
    record = claimedRecord request env.uuid job ∧
    db'.jobs = mid.jobs.update (fun j => j.jobId = job.jobId)
      (.start request (job.attempts + 1) (job.epoch + 1) now)
      (JobRun.start_jobId request _ _ now) ∧
    db'.identities = mid.identities ++ [(newAttempt request env.uuid now job).identity]

theorem exhaust_searchStep (hsel : Selected clock db job) (hrun : job.status = .running)
    (now : Timestamp) (preserved : JsonValue × String) :
    db.jobs.RowWise (SearchStep clock) (db.jobs.update (fun j => j.jobId = job.jobId)
      (.exhaust now preserved) (JobRun.exhaust_jobId now preserved)) := by
  obtain ⟨hrow, k, hrdy⟩ := hsel
  refine Table.rowWise_update_row (db.jobs.mem_of_get? hrow) _
    (JobRun.exhaust_jobId now preserved) ?_ (SearchStep.refl clock)
  refine .inr ⟨⟨k, .inl ?_⟩, rfl, rfl, rfl, rfl⟩
  rcases hrdy with hrdy | hexp
  · simp [readyToStart, hrun] at hrdy
  · exact hexp

theorem claimNextHeavyJob_ok {env : ClaimEnvironment} {result : Option ClaimedJobRecord}
    (h : claimNextHeavyJob planner db request env = .ok (db', result)) :
    (result = none ∧ ClaimRecovered env.clock db db') ∨
      ∃ record, result = some record ∧ ClaimStarted request env db db' record := by
  unfold claimNextHeavyJob at h
  split at h
  · cases h
    exact .inl ⟨rfl, .refl (SearchStep.refl _) _, rfl⟩
  · obtain ⟨⟨mid, _⟩, hsear, h⟩ := Except.of_bind h
    obtain ⟨hrows, hiden, hsel⟩ := claimSearch_ok _ hsear
    dsimp only at h
    split at h
    · cases h
      exact .inl ⟨rfl, hrows, hiden⟩
    · rename_i job rounds
      have hjob := hsel job rounds rfl
      rcases startClaim_ok h with ⟨rfl, hrun, hids, preserved, hjobs⟩ | ⟨rfl, hjobs, hids⟩
      · refine .inl ⟨rfl, ?_, hids.trans hiden⟩
        rw [hjobs]
        exact hrows.trans SearchStep.trans (exhaust_searchStep hjob hrun _ preserved)
      · exact .inr ⟨_, rfl, mid, job, _, ⟨hrows, hiden⟩, hjob, rfl, hjobs, hids⟩

end DyData.HeavyQueue
