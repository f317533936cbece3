import DyData.HeavyQueueFencing

/-!
Stale tokens are refused, and a job enters a terminal status once: by the holder of its last
token, or by the recovery part of a claim.
-/

namespace DyData.HeavyQueue

open Relational

variable {w : World} {id : String} {row : JobRun} {token : ClaimToken}

inductive RowCause (w : World) (op : Operation) (row row' : JobRun) : Prop
  | keeps (h : row'.status = row.status)
  | byToken (operation : TokenOperation) (token : ClaimToken) (lockNow statementNow : Timestamp)
      (hop : op = .token operation token lockNow statementNow)
      (hlock : (lockActiveExecutionState w.db token lockNow
        operation.requiresCancelIntent).isSome)
      (hrow : leaseRow token row = true)
  | byRecovery (request : ClaimRequest) (env : ClaimEnvironment) (hop : op = .claim request env)
      (h : Recovered env.clock row row')
  | byStart (hstatus : row.status = .pending ∨ row.status = .retryWait ∨ row.status = .running)
      (hstarted : row'.status = .running)

theorem selected_status {clock : Nat → Timestamp} {db : Db} {job : JobRun}
    (h : Selected clock db job) :
    job.status = .pending ∨ job.status = .retryWait ∨ job.status = .running := by
  obtain ⟨-, _, hrdy | hexp⟩ := h
  · simp only [readyToStart, bool_to_prop] at hrdy
    rcases hrdy.1 with hpend | ⟨hretry, -⟩
    · exact .inl hpend
    · exact .inr (.inl hretry)
  · exact .inr (.inr (status_of_expiredRunning hexp))

/-- No operation lowers the epoch of a job or moves the job to another parent. -/
structure Continues (row row' : JobRun) : Prop where
  epoch : row.epoch ≤ row'.epoch
  parent : row'.parentJobId = row.parentJobId

theorem Continues.of_eq {row' : JobRun} (hep : row'.leaseEpoch = row.leaseEpoch)
    (hpar : row'.parentJobId = row.parentJobId) : Continues row row' :=
  ⟨by rw [JobRun.epoch, JobRun.epoch, hep], hpar⟩

theorem SearchStep.continues {clock : Nat → Timestamp} {row' : JobRun}
    (h : SearchStep clock row row') : Continues row row' := by
  rcases h with rfl | hrec
  · exact .of_eq rfl rfl
  · exact .of_eq hrec.epoch hrec.parent

theorem started_row {request : ClaimRequest} {env : ClaimEnvironment} {db : Db}
    {record : ClaimedJobRecord} (h : ClaimStarted request env w.db db record)
    (hrow : w.db.jobs.get? id = some row) :
    ∃ row', db.jobs.get? id = some row' ∧ RowCause w (.claim request env) row row' ∧
      Continues row row' := by
  obtain ⟨mid, job, _, ⟨hrows, -⟩, hsel, -, hjobs, -⟩ := h
  obtain ⟨row₁, hrow₁, hstep⟩ := hrows.forward hrow
  have hcont := SearchStep.continues hstep
  rw [hjobs, Table.get?_update, hrow₁]
  refine ⟨_, rfl, ?_⟩
  by_cases hid : row₁.jobId = job.jobId
  · have hsame : row₁ = job := mid.jobs.eq_of_key_eq (mid.jobs.mem_of_get? hrow₁)
      (mid.jobs.mem_of_get? hsel.1) hid
    subst hsame
    have hstat := selected_status hsel
    simp only [decide_true, if_true]
    rcases hstep with rfl | hrec
    · -- the row that was started has the next epoch
      refine ⟨.byStart hstat rfl, ?_, rfl⟩
      rw [start_epoch]
      omega
    · -- A recovered row is failed, so it cannot have been selected.
      rw [hrec.status] at hstat
      rcases hstat with h | h | h <;> cases h
  · simp only [hid, decide_false, Bool.false_eq_true, if_false]
    rcases hstep with rfl | hrec
    · exact ⟨.keeps rfl, hcont⟩
    · exact ⟨.byRecovery request env rfl hrec, hcont⟩

/-- Every row survives every operation, and its status changes for one of the causes. -/
theorem apply_row (planner : PlannerIdentity) (w : World) (op : Operation)
    (hrow : w.db.jobs.get? id = some row) :
    ∃ row', (w.apply planner op).db.jobs.get? id = some row' ∧ RowCause w op row row' ∧
      Continues row row' := by
  have hkept : RowCause w op row row ∧ Continues row row := ⟨.keeps rfl, .of_eq rfl rfl⟩
  cases op with
  | claim request env =>
    change ∃ row', (w.claim planner request env).db.jobs.get? id = some row' ∧ _
    rcases w.claim_cases planner request env with
      heq | ⟨db, heq, hrows, -⟩ | ⟨db, record, heq, hstart⟩
    · rw [heq]
      exact ⟨row, hrow, hkept⟩
    · rw [heq]
      obtain ⟨row', hrow', hstep⟩ := hrows.forward hrow
      refine ⟨row', hrow', ?_, SearchStep.continues hstep⟩
      rcases hstep with rfl | hrec
      · exact .keeps rfl
      · exact .byRecovery request env rfl hrec
    · rw [heq]
      exact started_row hstart hrow
  | token op token lockNow statementNow =>
    change ∃ row', (w.useToken op token lockNow statementNow).db.jobs.get? id = some row' ∧ _
    rcases w.useToken_cases op token lockNow statementNow with heq | ⟨db, heq, hlock, hrows, -⟩
    · rw [heq]
      exact ⟨row, hrow, hkept⟩
    · rw [heq]
      obtain ⟨row', hrow', rfl | hwr⟩ := hrows.forward hrow
      · exact ⟨row', hrow', hkept⟩
      · exact ⟨row', hrow', .byToken op token lockNow statementNow rfl hlock hwr.target,
          .of_eq hwr.epoch hwr.parent⟩
  | enqueue job =>
    rcases enqueue_get? w job id with hsame | ⟨hnone, -, -⟩
    · exact ⟨row, hsame.trans hrow, hkept⟩
    · rw [hnone] at hrow
      cases hrow
  | requestCancel jobId now =>
    change ∃ row', (w.db.jobs.update _ _
      (JobRun.markCancelRequested_jobId now)).get? id = some row' ∧ _
    rw [Table.get?_update, hrow]
    refine ⟨_, rfl, ?_⟩
    dsimp only
    split
    · exact ⟨.keeps rfl, .of_eq rfl rfl⟩
    · exact hkept

/-- No operation takes a job out of a terminal status or to another one. -/
theorem RowCause.terminal {op : Operation} {row' : JobRun} (h : RowCause w op row row')
    (hterm : row.status.terminal = true) : row'.status = row.status := by
  cases h with
  | keeps h => exact h
  | byToken operation token lockNow statementNow hop hlock hrow =>
    rw [(running_of_leaseRow hrow).2] at hterm
    cases hterm
  | byRecovery request env hop h =>
    obtain ⟨_, hexp | hpend | hretry⟩ := h.fenced
    · rw [status_of_expiredRunning hexp] at hterm
      cases hterm
    · rw [hpend] at hterm
      cases hterm
    · rw [hretry] at hterm
      cases hterm
  | byStart hstat hstart =>
    rcases hstat with hstat | hstat | hstat
    all_goals
      rw [hstat] at hterm
      cases hterm

theorem terminal_apply (planner : PlannerIdentity)
    (h : (w.status? id).any JobStatus.terminal = true) (op : Operation) :
    ((w.apply planner op).status? id).any JobStatus.terminal = true := by
  unfold World.status? at h ⊢
  cases hrow : w.db.jobs.get? id with
  | none => simp [hrow] at h
  | some row =>
    have hterm : row.status.terminal = true := by simpa [hrow] using h
    obtain ⟨_, hrow', hcause, -⟩ := apply_row planner w op hrow
    rw [hrow']
    simpa [hcause.terminal hterm] using hterm

theorem terminalTransitions_of_terminal (planner : PlannerIdentity) (ops : List Operation) :
    ∀ {w : World}, (w.status? id).any JobStatus.terminal = true →
      World.terminalTransitions planner id w ops = 0 := by
  induction ops with
  | nil => intro w _; rfl
  | cons op ops ih =>
    intro w h
    have hstays : World.entersTerminal id w (w.apply planner op) = false := by
      unfold World.entersTerminal
      cases hs : w.status? id with
      | none => rfl
      | some s =>
        rw [hs] at h
        have hs' : s.terminal = true := h
        simp [hs']
    rw [World.terminalTransitions, hstays, ih (terminal_apply planner h op)]
    rfl

/-- Over any run a job enters a terminal status at most once. -/
theorem terminalTransitions_le_one (planner : PlannerIdentity) (id : String)
    (ops : List Operation) (w : World) : World.terminalTransitions planner id w ops ≤ 1 := by
  induction ops generalizing w with
  | nil => exact Nat.zero_le 1
  | cons op ops ih =>
    rw [World.terminalTransitions]
    by_cases hent : World.entersTerminal id w (w.apply planner op) = true
    · have hterm : ((w.apply planner op).status? id).any JobStatus.terminal = true := by
        exact (Bool.and_eq_true_iff.mp hent).2
      rw [if_pos hent, terminalTransitions_of_terminal planner ops hterm]
    · rw [if_neg hent, Nat.zero_add]
      exact ih _

/-- A lease that runs out before the writing statement makes the operation refuse. -/
theorem run_refused_of_expired (op : TokenOperation) (lockNow : Timestamp)
    {statementNow : Timestamp} (h : w.LeaseExpired token statementNow) :
    op.run w.db token lockNow statementNow = .ok (w.db, false) := by
  have hinac : ∀ job ∈ w.db.jobs.rows, activeLease token statementNow job = false := by
    intro job hjob
    by_contra hact
    simp only [activeLease, Bool.not_eq_false, Bool.and_eq_true] at hact
    have hid := (running_of_leaseRow hact.1).1
    obtain ⟨expires, hexp, hlive⟩ := (Option.any_eq_true _ _).mp hact.2
    have hrow := w.db.jobs.get?_of_mem hjob
    rw [hid] at hrow
    have hover := h job hrow expires hexp
    simp only [decide_eq_true_eq] at hlive
    exact absurd hlive (not_lt.mpr hover)
  have hnone : w.db.jobs.rows.any (activeLease token statementNow) = false := by
    simpa using hinac
  have hfin : ∀ finish : ClaimFinish,
      finishClaim w.db token lockNow statementNow finish = .ok (w.db, false) := by
    intro finish
    unfold finishClaim
    have htgt : (w.db.jobs.rows.any fun job => activeLease token statementNow job &&
        (!finish.requireCancelIntent || job.cancelRequestedAt.isSome)) = false := by
      rw [List.any_eq_false]
      intro job hjob
      simp [hinac job hjob]
    split
    · rfl
    · simp only [htgt, Bool.not_false, if_true]
  cases op with
  | heartbeat leaseSeconds =>
    change heartbeatClaim w.db token lockNow statementNow leaseSeconds = _
    unfold heartbeatClaim
    split
    · rfl
    · simp only [hnone, Bool.not_false, if_true]
  | complete _ | fail _ | cancel _ => exact hfin _

theorem run_refused_of_not_lockable (hfenc : Fencing w) (op : TokenOperation) {lockNow : Timestamp}
    (statementNow : Timestamp) (h : ¬ w.Holds token ∨ w.LeaseExpired token lockNow) :
    op.run w.db token lockNow statementNow = .ok (w.db, false) := by
  refine op.run_refused statementNow fun intent => ?_
  by_contra hne
  have hlock := Option.isSome_iff_ne_none.mpr hne
  rcases h with hstale | hexp
  · exact hstale (hfenc.holds_of_lock hlock)
  · obtain ⟨⟨job, hjob, -, expires, hexpi, hlive⟩, -⟩ := lockActiveExecutionState_isSome hlock
    exact absurd hlive (not_lt.mpr (hexp job hjob expires hexpi))

/-- The token held for a job has the greatest epoch ever issued for it. -/
theorem Fencing.greatest_epoch (h : Fencing w) (hrow : w.db.jobs.get? token.jobId = some row)
    (hlease : leaseRow token row = true) : ∀ record ∈ w.issued, record.token.jobId = token.jobId →
      record.token.leaseEpoch ≤ token.leaseEpoch := by
  intro record hmem hjob
  obtain ⟨_, hrow', hle⟩ := h.bounded record hmem
  rw [hjob, hrow] at hrow'
  cases hrow'
  simp only [leaseRow, bool_to_prop] at hlease
  have hep : row.epoch = token.leaseEpoch := by
    unfold JobRun.epoch
    rw [hlease.1.2, orDefault_zero]
  rw [hep] at hle
  exact hle

theorem Fencing.terminal_cause (planner : PlannerIdentity) (h : Fencing w) {op : Operation}
    (hent : World.entersTerminal id w (w.apply planner op) = true) :
    (∃ operation token lockNow statementNow,
      op = .token operation token lockNow statementNow ∧ token.jobId = id ∧ w.Holds token ∧
        ∀ record ∈ w.issued, record.token.jobId = id → record.token.leaseEpoch ≤ token.leaseEpoch) ∨
    ∃ request env row, op = .claim request env ∧ w.db.jobs.get? id = some row ∧
      ∃ k, expiredRunning (env.clock k) row = true ∨ row.status = .pending ∨
        row.status = .retryWait := by
  unfold World.entersTerminal World.status? at hent
  obtain ⟨hbef, haft⟩ := Bool.and_eq_true_iff.mp hent
  cases hrow : w.db.jobs.get? id with
  | none => simp [hrow] at hbef
  | some row =>
    have hopen : row.status.terminal = false := by simpa [hrow] using hbef
    obtain ⟨row', hrow', hcause, -⟩ := apply_row planner w op hrow
    have hdone : row'.status.terminal = true := by simpa [hrow'] using haft
    cases hcause with
    | keeps hsame =>
      rw [hsame, hopen] at hdone
      cases hdone
    | byToken operation token lockNow statementNow hop hlock hlease =>
      have hid : token.jobId = id :=
        (running_of_leaseRow hlease).1.symm.trans (w.db.jobs.key_of_get? hrow)
      subst hid
      exact .inl ⟨operation, token, lockNow, statementNow, hop, rfl, h.holds_of_lock hlock,
        h.greatest_epoch hrow hlease⟩
    | byRecovery request env hop hrec =>
      exact .inr ⟨request, env, row, hop, rfl, hrec.fenced⟩
    | byStart hstat hstart =>
      rw [hstart] at hdone
      cases hdone

/-- Fencing over every interleaving of claims, token operations and API requests, from any
database in which no job holds a lease: a token that is not the one held, or whose lease has
run out, is refused without a write; a job enters a terminal status at most once, by the
holder of the greatest epoch issued for it or by the recovery part of a claim. -/
theorem stale_tokens_are_fenced (planner : PlannerIdentity) (start : Db) (hstart : NoLease start)
    (ops : List Operation) :
    (∀ (op : TokenOperation) (token : ClaimToken) (lockNow statementNow : Timestamp),
      ¬ (World.run planner ⟨start, []⟩ ops).Holds token ∨
        (World.run planner ⟨start, []⟩ ops).LeaseExpired token lockNow ∨
        (World.run planner ⟨start, []⟩ ops).LeaseExpired token statementNow →
      op.run (World.run planner ⟨start, []⟩ ops).db token lockNow statementNow =
        .ok ((World.run planner ⟨start, []⟩ ops).db, false)) ∧
    (∀ id, World.terminalTransitions planner id ⟨start, []⟩ ops ≤ 1) ∧
    ∀ id op, World.entersTerminal id (World.run planner ⟨start, []⟩ ops)
        ((World.run planner ⟨start, []⟩ ops).apply planner op) = true →
      (∃ operation token lockNow statementNow,
        op = .token operation token lockNow statementNow ∧ token.jobId = id ∧
          (World.run planner ⟨start, []⟩ ops).Holds token ∧
          ∀ record ∈ (World.run planner ⟨start, []⟩ ops).issued, record.token.jobId = id →
            record.token.leaseEpoch ≤ token.leaseEpoch) ∨
      ∃ request env row, op = .claim request env ∧
        (World.run planner ⟨start, []⟩ ops).db.jobs.get? id = some row ∧
        ∃ k, expiredRunning (env.clock k) row = true ∨ row.status = .pending ∨
          row.status = .retryWait := by
  have hfencing : Fencing (World.run planner ⟨start, []⟩ ops) :=
    (fencing_start hstart).run planner ops
  refine ⟨?_, ?_, ?_⟩
  · intro op token lockNow statementNow h
    rcases h with hstale | hlock | hstatement
    · exact run_refused_of_not_lockable hfencing op statementNow (.inl hstale)
    · exact run_refused_of_not_lockable hfencing op statementNow (.inr hlock)
    · exact run_refused_of_expired op lockNow hstatement
  · intro id
    exact terminalTransitions_le_one planner id ops _
  · intro id op henters
    exact hfencing.terminal_cause planner henters

def sampleQueue : Db where
  jobs := ⟨[
    { jobId := "finalize-1"
      jobName := "finalize"
      status := .pending
      jobKind := some .finalize
      executionSlot := some .heavySync
      parentJobId := some "range-1"
      metadataJson := .obj [
        ("parent_job_id", .str "range-1"),
        ("target", .str "all"),
        ("required_stages", .arr [.str "finalize"]),
        ("settle_stage_fences", .arr [])] },
    { jobId := "range-1", jobName := "range_sync", status := .pending
      jobKind := some .rangeSync }], by decide⟩
  attempts := .empty
  components := .empty
  events := []
  attemptNumbers := by decide
  attemptEpochs := by decide

def samplePlanner : PlannerIdentity := ⟨fun _ _ => false, fun _ _ => false⟩

def sampleRequest : ClaimRequest :=
  { leaseOwner := "worker-1", componentInstanceId := "component-1", leaseSeconds := 60 }

def sampleEnvironment : ClaimEnvironment where
  globalLock := true
  clock k := k
  rowLocked _ _ := false
  dateLock _ := true
  uuid := "1"

def sampleToken : ClaimToken :=
  { jobId := "finalize-1", leaseOwner := "worker-1", leaseEpoch := 1, attemptId := "attempt-1"
    componentInstanceId := "component-1" }

def sampleRun : List Operation :=
  [.claim sampleRequest sampleEnvironment, .token (.complete 3) sampleToken 10 11]

theorem noLease_sampleQueue : NoLease sampleQueue := by
  intro id row hrow hrun
  have hmem := sampleQueue.jobs.mem_of_get? hrow
  simp only [sampleQueue, List.mem_cons, List.not_mem_nil, or_false] at hmem
  rcases hmem with rfl | rfl <;> rfl

/-- The token of a completed job is refused, although the job did run under it. -/
theorem completed_token_is_refused :
    (World.run samplePlanner ⟨sampleQueue, []⟩ sampleRun).status? "finalize-1" = some .success ∧
      (TokenOperation.complete 4).run (World.run samplePlanner ⟨sampleQueue, []⟩ sampleRun).db
        sampleToken 12 13 = .ok ((World.run samplePlanner ⟨sampleQueue, []⟩ sampleRun).db, false) := by
  have hstatus : (World.run samplePlanner ⟨sampleQueue, []⟩ sampleRun).status? "finalize-1" =
      some .success := by decide +kernel
  refine ⟨hstatus, ?_⟩
  refine (stale_tokens_are_fenced samplePlanner sampleQueue noLease_sampleQueue sampleRun).1
    (.complete 4) sampleToken 12 13 (.inl ?_)
  rintro ⟨⟨row, hrow, hrunning⟩, -⟩
  change (World.run samplePlanner ⟨sampleQueue, []⟩ sampleRun).db.jobs.get? "finalize-1" =
    some row at hrow
  rw [World.status?, hrow, Option.map_some, hrunning] at hstatus
  cases hstatus

end DyData.HeavyQueue
