import DyData.HeavyQueueClaimSpec

/-!
Any number of workers over one queue.  A world is the database with the tokens handed out so
far, latest first; its operations are claims, token operations and the requests of the API.
An operation that raises leaves the world alone, since its transaction is rolled back.
-/

namespace DyData.HeavyQueue

open Relational List

structure World where
  db : Db
  issued : List ClaimedJobRecord

inductive Operation
  | claim (request : ClaimRequest) (env : ClaimEnvironment)
  | token (op : TokenOperation) (token : ClaimToken) (lockNow statementNow : Timestamp)
  | enqueue (job : JobRun)
  | requestCancel (jobId : String) (now : Timestamp)

def JobRun.markCancelRequested (now : Timestamp) (job : JobRun) : JobRun :=
  { job with cancelRequestedAt := some now }

theorem JobRun.markCancelRequested_jobId (now : Timestamp) (job : JobRun) :
    (job.markCancelRequested now).jobId = job.jobId := rfl

namespace World

def enqueue (w : World) (job : JobRun) : World :=
  if job.leaseOwner.isSome then w
  else match w.db.jobs.insert? job with
  | none => w
  | some jobs => { w with db := { w.db with jobs } }

def claim (planner : PlannerIdentity) (w : World) (request : ClaimRequest)
    (env : ClaimEnvironment) : World :=
  match claimNextHeavyJob planner w.db request env with
  | .error _ => w
  | .ok (db, none) => ⟨db, w.issued⟩
  | .ok (db, some record) => ⟨db, record :: w.issued⟩

def useToken (w : World) (op : TokenOperation) (token : ClaimToken)
    (lockNow statementNow : Timestamp) : World :=
  match op.run w.db token lockNow statementNow with
  | .error _ => w
  | .ok (db, _) => ⟨db, w.issued⟩

def requestCancel (w : World) (jobId : String) (now : Timestamp) : World :=
  ⟨w.db.updateJobs (fun j => j.jobId = jobId) (.markCancelRequested now)
    (JobRun.markCancelRequested_jobId now), w.issued⟩

def apply (planner : PlannerIdentity) (w : World) : Operation → World
  | .claim request env => w.claim planner request env
  | .token op token lockNow statementNow => w.useToken op token lockNow statementNow
  | .enqueue job => w.enqueue job
  | .requestCancel jobId now => w.requestCancel jobId now

def run (planner : PlannerIdentity) (w : World) (ops : List Operation) : World :=
  ops.foldl (apply planner) w

def lastIssued (w : World) (jobId : String) : Option ClaimedJobRecord :=
  w.issued.find? fun record => record.token.jobId = jobId

/-- The token is the one currently held: the last of its job, while the job still runs. -/
def Holds (w : World) (token : ClaimToken) : Prop :=
  (∃ row, w.db.jobs.get? token.jobId = some row ∧ row.status = .running) ∧
    (w.lastIssued token.jobId).map ClaimedJobRecord.token = some token

/-- The lease of the token's job has run out at `now`. -/
def LeaseExpired (w : World) (token : ClaimToken) (now : Timestamp) : Prop :=
  ∀ row, w.db.jobs.get? token.jobId = some row →
    ∀ expires, row.leaseExpiresAt = some expires → expires ≤ now

def status? (w : World) (jobId : String) : Option JobStatus :=
  (w.db.jobs.get? jobId).map JobRun.status

def entersTerminal (jobId : String) (w w' : World) : Bool :=
  (w.status? jobId).any (fun s => !s.terminal) && (w'.status? jobId).any JobStatus.terminal

def terminalTransitions (planner : PlannerIdentity) (jobId : String) : World → List Operation → Nat
  | _, [] => 0
  | w, op :: ops =>
    (if entersTerminal jobId w (w.apply planner op) then 1 else 0) +
      terminalTransitions planner jobId (w.apply planner op) ops

end World

def NoLease (db : Db) : Prop :=
  ∀ id row, db.jobs.get? id = some row → row.status = .running → row.leaseOwner = none

def AttemptOf (token : ClaimToken) (a : AttemptIdentity) : Prop :=
  a.jobId = token.jobId ∧ a.attemptId = token.attemptId ∧ a.leaseEpoch = token.leaseEpoch ∧
    a.componentInstanceId = token.componentInstanceId

/-- Tokens, attempts and job rows agree: every issued token has its attempt on record, no
epoch was issued beyond the job's, and a leased row carries the last token's lease. -/
structure Fencing (w : World) : Prop where
  recorded : ∀ record ∈ w.issued, ∃ a ∈ w.db.identities, AttemptOf record.token a
  bounded : ∀ record ∈ w.issued, ∃ row, w.db.jobs.get? record.token.jobId = some row ∧
    record.token.leaseEpoch ≤ row.epoch
  current : ∀ id row owner, w.db.jobs.get? id = some row → row.status = .running →
    row.leaseOwner = some owner → ∃ record, w.lastIssued id = some record ∧
      record.token.leaseOwner = owner ∧ row.leaseEpoch = some record.token.leaseEpoch

theorem fencing_start {db : Db} (h : NoLease db) : Fencing ⟨db, []⟩ where
  recorded := by
    intro record hmem
    cases hmem
  bounded := by
    intro record hmem
    cases hmem
  current := by
    intro id row owner hrow hrun hown
    rw [h id row hrow hrun] at hown
    cases hown

def LeaseKept (row row' : JobRun) : Prop :=
  row'.leaseEpoch = row.leaseEpoch ∧
    (row'.leaseOwner = none ∨ row'.leaseOwner = row.leaseOwner ∧ row'.status = row.status)

theorem leaseKept_of_searchStep {clock : Nat → Timestamp} {row row' : JobRun}
    (h : SearchStep clock row row') : LeaseKept row row' := by
  rcases h with rfl | h
  · exact ⟨rfl, .inr ⟨rfl, rfl⟩⟩
  · exact ⟨h.epoch, .inl h.owner⟩

theorem leaseKept_of_tokenWrite {token : ClaimToken} {row row' : JobRun}
    (h : row' = row ∨ TokenWrite token row row') : LeaseKept row row' := by
  rcases h with rfl | h
  · exact ⟨rfl, .inr ⟨rfl, rfl⟩⟩
  · exact ⟨h.epoch, h.lease⟩

theorem Fencing.of_leaseKept {db db' : Db} {issued : List ClaimedJobRecord}
    (h : Fencing ⟨db, issued⟩) (hrows : db.jobs.RowWise LeaseKept db'.jobs)
    (hiden : db'.identities = db.identities) : Fencing ⟨db', issued⟩ where
  recorded := by
    intro record hmem
    rw [hiden]
    exact h.recorded record hmem
  bounded := by
    intro record hmem
    obtain ⟨row, hrow, hle⟩ := h.bounded record hmem
    obtain ⟨row', hrow', hep, -⟩ := hrows.forward hrow
    refine ⟨row', hrow', ?_⟩
    unfold JobRun.epoch at hle ⊢
    rw [hep]
    exact hle
  current := by
    intro id row' owner hrow' hrun hown
    obtain ⟨row, hrow, hep, hlease⟩ := hrows.backward hrow'
    rcases hlease with hnone | ⟨hkept, hstat⟩
    · rw [hnone] at hown
      cases hown
    · rw [hep]
      exact h.current id row owner hrow (hstat ▸ hrun) (hkept ▸ hown)

theorem lastIssued_cons (db : Db) (record : ClaimedJobRecord) (issued : List ClaimedJobRecord)
    (id : String) : (World.mk db (record :: issued)).lastIssued id =
      if record.token.jobId = id then some record else (World.mk db issued).lastIssued id := by
  unfold World.lastIssued
  by_cases hid : record.token.jobId = id
  · simp [hid]
  · simp [hid]

@[simp] theorem orDefault_zero (n : Int) : orDefault (some n) 0 = n := by
  unfold orDefault
  split
  · rename_i h
    cases h
  · rename_i h
    cases h
    rfl
  · rename_i h
    cases h
    rfl

theorem start_epoch (request : ClaimRequest) (attemptNumber leaseEpoch : Int) (now : Timestamp)
    (job : JobRun) : (job.start request attemptNumber leaseEpoch now).epoch = leaseEpoch :=
  orDefault_zero leaseEpoch

theorem Fencing.of_started {request : ClaimRequest} {env : ClaimEnvironment} {db db' : Db}
    {issued : List ClaimedJobRecord} {record : ClaimedJobRecord} (h : Fencing ⟨db, issued⟩)
    (hstart : ClaimStarted request env db db' record) : Fencing ⟨db', record :: issued⟩ := by
  obtain ⟨mid, job, now, ⟨hrows, hids⟩, ⟨hjob, -⟩, rfl, hjobs, hids'⟩ := hstart
  have hmid := h.of_leaseKept (hrows.mono fun _ _ => leaseKept_of_searchStep) hids
  have hrow : ∀ id row', db'.jobs.get? id = some row' → ∃ row, mid.jobs.get? id = some row ∧
      row' = if row.jobId = job.jobId
        then row.start request (job.attempts + 1) (job.epoch + 1) now else row := by
    intro id row' hrow'
    rw [hjobs, Table.get?_update, Option.map_eq_some_iff] at hrow'
    obtain ⟨row, hrow, rfl⟩ := hrow'
    exact ⟨row, hrow, by simp⟩
  have hforw : ∀ id row, mid.jobs.get? id = some row → db'.jobs.get? id =
      some (if row.jobId = job.jobId
        then row.start request (job.attempts + 1) (job.epoch + 1) now else row) := by
    intro id row hget
    rw [hjobs, Table.get?_update, hget]
    simp
  refine ⟨?_, ?_, ?_⟩
  · intro r hmem
    rw [hids']
    rcases mem_cons.mp hmem with rfl | hmem
    · exact ⟨_, mem_append_right _ (mem_singleton_self _), rfl, rfl, rfl, rfl⟩
    · obtain ⟨a, ha, hatt⟩ := hmid.recorded r hmem
      exact ⟨a, mem_append_left _ ha, hatt⟩
  · intro r hmem
    rcases mem_cons.mp hmem with rfl | hmem
    · refine ⟨_, hforw _ job hjob, ?_⟩
      rw [if_pos rfl, start_epoch]
      exact le_refl _
    · obtain ⟨row, hget, hle⟩ := hmid.bounded r hmem
      refine ⟨_, hforw _ row hget, ?_⟩
      by_cases hid : row.jobId = job.jobId
      · have hsame : row = job := mid.jobs.eq_of_key_eq (mid.jobs.mem_of_get? hget)
          (mid.jobs.mem_of_get? hjob) hid
        subst hsame
        rw [if_pos rfl, start_epoch]
        omega
      · rw [if_neg hid]
        exact hle
  · intro id row' owner hget hrun hown
    obtain ⟨row, hrowg, rfl⟩ := hrow id row' hget
    have hkey : row.jobId = id := mid.jobs.key_of_get? hrowg
    rw [lastIssued_cons]
    by_cases hid : row.jobId = job.jobId
    · rw [if_pos hid] at hown ⊢
      have hrec : (claimedRecord request env.uuid job).token.jobId = id :=
        hid.symm.trans hkey
      rw [if_pos hrec]
      exact ⟨_, rfl, Option.some.inj hown, rfl⟩
    · rw [if_neg hid] at hrun hown ⊢
      have hoth : ¬ (claimedRecord request env.uuid job).token.jobId = id := by
        intro heq
        exact hid (hkey.trans heq.symm)
      rw [if_neg hoth]
      exact hmid.current id row owner hrowg hrun hown

/-- A row that is put into the queue, or found there unchanged. -/
theorem enqueue_get? (w : World) (job : JobRun) (id : String) :
    (w.enqueue job).db.jobs.get? id = w.db.jobs.get? id ∨
      (w.db.jobs.get? id = none ∧ (w.enqueue job).db.jobs.get? id = some job ∧
        job.leaseOwner = none) := by
  unfold World.enqueue
  split
  · exact .inl rfl
  · rename_i hown
    split
    · exact .inl rfl
    · rename_i hins
      have hget := Table.get?_insert? hins id
      by_cases hid : id = job.jobId
      · rw [if_pos hid] at hget
        exact .inr ⟨hid ▸ Table.get?_of_insert? hins, hget, by simpa using hown⟩
      · rw [if_neg hid] at hget
        exact .inl hget

theorem enqueue_frame (w : World) (job : JobRun) :
    (w.enqueue job).db.identities = w.db.identities ∧ (w.enqueue job).issued = w.issued := by
  unfold World.enqueue
  split
  · exact ⟨rfl, rfl⟩
  · split <;> exact ⟨rfl, rfl⟩

theorem Fencing.enqueue {w : World} (h : Fencing w) (job : JobRun) : Fencing (w.enqueue job) := by
  obtain ⟨hids, hiss⟩ := enqueue_frame w job
  refine ⟨?_, ?_, ?_⟩
  · rw [hids, hiss]
    exact h.recorded
  · intro record hmem
    rw [hiss] at hmem
    obtain ⟨row, hrow, hle⟩ := h.bounded record hmem
    rcases enqueue_get? w job record.token.jobId with hsame | ⟨hnone, -, -⟩
    · exact ⟨row, hsame.trans hrow, hle⟩
    · rw [hnone] at hrow
      cases hrow
  · intro id row owner hrow hrun hown
    have hlast : (w.enqueue job).lastIssued id = w.lastIssued id := by
      unfold World.lastIssued
      rw [hiss]
    rw [hlast]
    rcases enqueue_get? w job id with hsame | ⟨-, hnew, hfree⟩
    · exact h.current id row owner (hsame.symm.trans hrow) hrun hown
    · rw [hnew] at hrow
      cases hrow
      rw [hfree] at hown
      cases hown

theorem World.claim_cases (planner : PlannerIdentity) (w : World) (request : ClaimRequest)
    (env : ClaimEnvironment) : w.claim planner request env = w ∨
      (∃ db, w.claim planner request env = ⟨db, w.issued⟩ ∧ ClaimRecovered env.clock w.db db) ∨
      ∃ db record, w.claim planner request env = ⟨db, record :: w.issued⟩ ∧
        ClaimStarted request env w.db db record := by
  unfold World.claim
  split
  · exact .inl rfl
  · rename_i db hclm
    rcases claimNextHeavyJob_ok hclm with ⟨-, hrec⟩ | ⟨record, hnone, -⟩
    · exact .inr (.inl ⟨db, rfl, hrec⟩)
    · cases hnone
  · rename_i db record hclm
    rcases claimNextHeavyJob_ok hclm with ⟨hnone, -⟩ | ⟨record', hsome, hstart⟩
    · cases hnone
    · cases hsome
      exact .inr (.inr ⟨db, record, rfl, hstart⟩)

/-- A token operation is refused, raises, or writes the row of a lease it has locked. -/
theorem World.useToken_cases (w : World) (op : TokenOperation) (token : ClaimToken)
    (lockNow statementNow : Timestamp) : w.useToken op token lockNow statementNow = w ∨
      ∃ db, w.useToken op token lockNow statementNow = ⟨db, w.issued⟩ ∧
        (lockActiveExecutionState w.db token lockNow op.requiresCancelIntent).isSome ∧
        w.db.jobs.RowWise (fun row row' => row' = row ∨ TokenWrite token row row') db.jobs ∧
        db.identities = w.db.identities := by
  unfold World.useToken
  split
  · exact .inl rfl
  · rename_i db _ hrun
    rcases op.run_ok hrun with ⟨-, rfl⟩ | ⟨-, hacc⟩
    · exact .inl rfl
    · exact .inr ⟨db, rfl, hacc⟩

theorem Fencing.apply (planner : PlannerIdentity) {w : World} (h : Fencing w)
    (op : Operation) : Fencing (w.apply planner op) := by
  cases op with
  | claim request env =>
    change Fencing (w.claim planner request env)
    rcases w.claim_cases planner request env with
      heq | ⟨db, heq, hrows, hids⟩ | ⟨db, record, heq, hstart⟩
    · rw [heq]
      exact h
    · rw [heq]
      exact h.of_leaseKept (hrows.mono fun _ _ => leaseKept_of_searchStep) hids
    · rw [heq]
      exact h.of_started hstart
  | token op token lockNow statementNow =>
    change Fencing (w.useToken op token lockNow statementNow)
    rcases w.useToken_cases op token lockNow statementNow with heq | ⟨db, heq, -, hrows, hids⟩
    · rw [heq]
      exact h
    · rw [heq]
      exact h.of_leaseKept (hrows.mono fun _ _ => leaseKept_of_tokenWrite) hids
  | enqueue job => exact h.enqueue job
  | requestCancel jobId now =>
    refine h.of_leaseKept ?_ rfl
    refine Table.rowWise_update _ _ (JobRun.markCancelRequested_jobId now) ?_ ?_
    · intro row _ _
      exact ⟨rfl, .inr ⟨rfl, rfl⟩⟩
    · intro row
      exact ⟨rfl, .inr ⟨rfl, rfl⟩⟩

theorem Fencing.run (planner : PlannerIdentity) {w : World} (h : Fencing w)
    (ops : List Operation) : Fencing (w.run planner ops) := by
  unfold World.run
  induction ops generalizing w with
  | nil => exact h
  | cons op ops ih =>
    exact ih (h.apply planner op)

/-- A token that can be locked is the one currently held: the job row names its owner and
epoch, and the epoch names its attempt. -/
theorem Fencing.holds_of_lock {w : World} (h : Fencing w) {token : ClaimToken} {now : Timestamp}
    {intent : Bool} (hlock : (lockActiveExecutionState w.db token now intent).isSome) :
    w.Holds token := by
  obtain ⟨⟨job, hjob, hrow, -⟩, a, ha, hatt⟩ := lockActiveExecutionState_isSome hlock
  simp only [leaseRow, bool_to_prop] at hrow
  obtain ⟨⟨⟨⟨-, hrun⟩, hown⟩, hep⟩, -⟩ := hrow
  simp only [attemptRow, bool_to_prop] at hatt
  obtain ⟨⟨⟨⟨⟨hajob, haid⟩, haep⟩, -⟩, hacom⟩, -⟩ := hatt
  obtain ⟨record, hlast, hrown, hrep⟩ := h.current _ job _ hjob hrun hown
  have hmem : record ∈ w.issued := mem_of_find?_eq_some hlast
  have hrjob : record.token.jobId = token.jobId := by simpa using find?_some hlast
  have hsameEpoch : record.token.leaseEpoch = token.leaseEpoch :=
    Option.some.inj (hrep.symm.trans hep)
  obtain ⟨_, hi, hijob, hiid, hiep, hicom⟩ := h.recorded record hmem
  obtain ⟨b, hb, rfl⟩ := mem_map.mp hi
  have hsame : b = a := w.db.attempt_unique hb ha
    (hijob.trans (hrjob.trans hajob.symm))
    (hiep.trans (hsameEpoch.trans haep.symm))
  subst hsame
  have htoken : record.token = token := by
    cases hrt : record.token with
    | mk jobId leaseOwner leaseEpoch attemptId componentInstanceId =>
      rw [hrt] at hrjob hrown hsameEpoch hiid hicom
      cases token
      simp only [ClaimToken.mk.injEq]
      exact ⟨hrjob, hrown, hsameEpoch, hiid.symm.trans haid, hicom.symm.trans hacom⟩
  refine ⟨⟨job, hjob, hrun⟩, ?_⟩
  rw [hlast, Option.map_some, htoken]

end DyData.HeavyQueue
