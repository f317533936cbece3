import DyData.HeavyQueueLease

/-!
What each operation of the queue writes, table by table: the job row, the attempts of the job
and the component that is bound to one of them.
-/

namespace DyData.HeavyQueue

open Relational List Option

variable {done : Bool} {lockNow statementNow : Timestamp}

variable {db db' : Db} {a : JobAttempt} {jobId : String} {p : ComponentHeartbeat → Bool}
  {f : ComponentHeartbeat → ComponentHeartbeat} {i : AttemptIdentity} {now : Timestamp}
  {token : ClaimToken}

def attemptsOf (db : Db) (jobId : String) : List JobAttempt :=
  db.attempts.rows.filter fun a => a.jobId = jobId

def Bound (db : Db) (i : AttemptIdentity) : Prop :=
  ∃ c, db.components.get? i.componentInstanceId = some c ∧ c.componentType = i.componentType ∧
    c.currentJobId = some i.jobId ∧ c.currentAttemptId = some i.attemptId

/-- The identity is the one a component row is bound by when it is bound to the attempt. -/
def NamedBy (a : JobAttempt) (i : AttemptIdentity) : Prop :=
  i.componentInstanceId = a.componentInstanceId ∧ i.componentType = a.componentType ∧
    i.jobId = a.jobId ∧ i.attemptId = a.attemptId

theorem attemptComponent_any_boundTo :
    (attemptComponent db a).any (boundTo a) = true ↔ Bound db a.identity := by
  unfold attemptComponent Bound
  constructor
  · intro h
    obtain ⟨c, hc, hbd⟩ := (Option.any_eq_true _ _).mp h
    obtain ⟨hget, htype⟩ := filter_eq_some_iff.mp hc
    simp only [boundTo, bool_to_prop] at hbd
    exact ⟨c, hget, of_decide_eq_true htype, hbd.1, hbd.2⟩
  · rintro ⟨c, hget, htype, hjob, hatt⟩
    have hget' : db.components.get? a.componentInstanceId = some c := hget
    have htype' : c.componentType = a.componentType := htype
    have hjob' : c.currentJobId = some a.jobId := hjob
    have hatt' : c.currentAttemptId = some a.attemptId := hatt
    simp [hget', htype', boundTo, hjob', hatt']

theorem attemptComponent_isSome_of_bound (h : Bound db a.identity) :
    ∃ c, attemptComponent db a = some c ∧ boundTo a c = true :=
  (Option.any_eq_true _ _).mp (attemptComponent_any_boundTo.mpr h)

def SameBindings (db db' : Db) (jobId : String) : Prop :=
  ∀ i : AttemptIdentity, i.jobId = jobId → (Bound db' i ↔ Bound db i)

structure Undisturbed (db db' : Db) (jobId : String) : Prop where
  row : db'.jobs.get? jobId = db.jobs.get? jobId
  attempts : attemptsOf db' jobId = attemptsOf db jobId
  bindings : SameBindings db db' jobId

section Components

theorem bound_congr (h : db'.components = db.components) (i : AttemptIdentity) :
    Bound db' i ↔ Bound db i := by
  unfold Bound
  rw [h]

/-- A component row update that keeps the types keeps the bindings it does not release. -/
theorem bound_updateComponents {hf : ∀ c, (f c).componentInstanceId = c.componentInstanceId} :
    Bound (db.updateComponents p f hf) i ↔ ∃ c, db.components.get? i.componentInstanceId = some c ∧
        (if p c then f c else c).componentType = i.componentType ∧
        (if p c then f c else c).currentJobId = some i.jobId ∧
        (if p c then f c else c).currentAttemptId = some i.attemptId := by
  change (∃ c, (db.components.update p f hf).get? _ = some c ∧ _) ↔ _
  simp only [Table.get?_update, map_eq_some_iff]
  constructor
  · rintro ⟨c', ⟨c, hget, rfl⟩, hfacts⟩
    exact ⟨c, hget, hfacts⟩
  · rintro ⟨c, hget, hfacts⟩
    exact ⟨_, ⟨c, hget, rfl⟩, hfacts⟩

theorem bound_updateComponents_of_kept {hf : ∀ c, (f c).componentInstanceId = c.componentInstanceId}
    (htype : ∀ c, (f c).componentType = c.componentType)
    (hjob : ∀ c, (f c).currentJobId = c.currentJobId)
    (hatt : ∀ c, (f c).currentAttemptId = c.currentAttemptId) :
    Bound (db.updateComponents p f hf) i ↔ Bound db i := by
  rw [bound_updateComponents]
  refine exists_congr fun c => ?_
  by_cases hp : p c = true
  · simp [hp, htype, hjob, hatt]
  · simp [hp]

theorem component_updateComponents {hf : ∀ c, (f c).componentInstanceId = c.componentInstanceId}
    (htype : ∀ c, (f c).componentType = c.componentType) {id : String} {type : ComponentType}
    (h : ∃ c, db.components.get? id = some c ∧ c.componentType = type) :
    ∃ c, (db.updateComponents p f hf).components.get? id = some c ∧ c.componentType = type := by
  obtain ⟨c, hget, hc⟩ := h
  refine ⟨if p c then f c else c, ?_, ?_⟩
  · exact (db.components.get?_update p f hf id).trans (by rw [hget]; rfl)
  · split
    · exact (htype c).trans hc
    · exact hc

/-- An update that releases the rows of one identity takes away that binding only. -/
theorem bound_release_row {status : ComponentStatus} {id job att : String} {type : ComponentType}
    (hrow : ∀ c, p c = true ↔ c.componentInstanceId = id ∧ c.componentType = type ∧
      c.currentJobId = some job ∧ c.currentAttemptId = some att) :
    Bound (db.updateComponents p (.release status now) (ComponentHeartbeat.release_id status now))
        i ↔ Bound db i ∧ ¬ (i.componentInstanceId = id ∧ i.componentType = type ∧
          i.jobId = job ∧ i.attemptId = att) := by
  rw [bound_updateComponents]
  constructor
  · rintro ⟨c, hget, hc⟩
    by_cases hp : p c = true
    · -- a released row is bound to nothing
      rw [if_pos hp] at hc
      cases hc.2.1
    · rw [if_neg hp] at hc
      refine ⟨⟨c, hget, hc⟩, ?_⟩
      rintro ⟨rfl, rfl, rfl, rfl⟩
      exact hp ((hrow c).mpr ⟨db.components.key_of_get? hget, hc⟩)
  · rintro ⟨⟨c, hget, hc⟩, hoth⟩
    have hp : ¬ p c = true := by
      intro hp
      obtain ⟨hid, htype, hjob, hatt⟩ := (hrow c).mp hp
      refine hoth ⟨(db.components.key_of_get? hget).symm.trans hid, hc.1.symm.trans htype, ?_, ?_⟩
      · exact mem_unique hc.2.1 hjob
      · exact mem_unique hc.2.2 hatt
    exact ⟨c, hget, by rwa [if_neg hp]⟩

theorem bound_releaseBinding : Bound (releaseBinding db a now) i ↔ Bound db i ∧ ¬ NamedBy a i :=
  bound_release_row fun c => by simp only [attemptBinding, boundTo, bool_to_prop, and_assoc]

theorem bound_releaseBindings (attempts : List JobAttempt) (now : Timestamp) (db : Db)
    (i : AttemptIdentity) :
    Bound (releaseBindings db attempts now).1 i ↔ Bound db i ∧ ∀ a ∈ attempts, ¬ NamedBy a i := by
  have hfold : ∀ (l : List JobAttempt) (acc : Db × Nat),
      Bound (l.foldl (fun acc a => (releaseBinding acc.1 a now, acc.2 + boundComponents acc.1 a))
        acc).1 i ↔ Bound acc.1 i ∧ ∀ a ∈ l, ¬ NamedBy a i := by
    intro l
    induction l with
    | nil => simp
    | cons a l ih =>
      intro acc
      rw [foldl_cons, ih, bound_releaseBinding, forall_mem_cons, and_assoc]
  exact hfold attempts (db, 0)

end Components

def openAttempt (token : ClaimToken) (a : JobAttempt) : Bool :=
  a.jobId = token.jobId && a.leaseEpoch = token.leaseEpoch && a.attemptId = token.attemptId &&
    a.unfinished

def finishTarget (token : ClaimToken) (statementNow : Timestamp) (finish : ClaimFinish)
    (job : JobRun) : Bool :=
  activeLease token statementNow job &&
    (!finish.requireCancelIntent || job.cancelRequestedAt.isSome)

def NoPublication (db db' : Db) : Prop :=
  ∀ e ∈ db'.events, e ∈ db.events ∨ e.eventType ≠ .settlementProjectionPublished

theorem NoPublication.refl (db : Db) : NoPublication db db := fun _ he => .inl he

theorem NoPublication.trans {db'' : Db} (h : NoPublication db db') (h' : NoPublication db' db'') :
    NoPublication db db'' := by
  intro e he
  rcases h' e he with hold | hnew
  · exact h e hold
  · exact .inr hnew

theorem noPublication_addJobEvent {attemptId : Option String} {eventType : EventType}
    {fromStatus toStatus : JobStatus} {actorId : Option String} {occurredAt : Timestamp}
    {reason : Option String} {payload : List (String × JsonValue)}
    (h : eventType ≠ .settlementProjectionPublished) :
    NoPublication db (addJobEvent db jobId attemptId eventType fromStatus toStatus actorId
      occurredAt reason payload) := by
  intro e he
  rcases mem_append.mp he with hold | hnew
  · exact .inl hold
  · rw [mem_singleton.mp hnew]
    exact .inr h

structure Finished (db : Db) (token : ClaimToken) (statementNow : Timestamp)
    (finish : ClaimFinish) (db' : Db) : Prop where
  target : ∃ job ∈ db.jobs.rows, finishTarget token statementNow finish job = true
  jobs : db'.jobs = db.jobs.update (finishTarget token statementNow finish)
    (finish.write statementNow) (finish.keepsJobId statementNow)
  bounds : ∀ job ∈ db.jobs.rows, finishTarget token statementNow finish job = true →
    (finish.write statementNow job).attemptBounds = true
  attempts : db'.attempts.rows = db.attempts.rows.map fun a =>
    if openAttempt token a then
      a.finish statementNow finish.exitType finish.errorCode finish.errorSummary
    else a
  bindings : ∀ i, Bound db' i ↔ Bound db i ∧
    ¬ (i.componentInstanceId = token.componentInstanceId ∧ i.componentType = .worker ∧
      i.jobId = token.jobId ∧ i.attemptId = token.attemptId)
  events : finish.eventType ≠ .settlementProjectionPublished → NoPublication db db'

theorem finishAttempt_effect {finishedAt : Timestamp} {exitType : ExitType}
    {errorCode errorSummary : Option String}
    (h : finishAttempt db token finishedAt exitType errorCode errorSummary = .ok db') :
    db'.jobs = db.jobs ∧ db'.components = db.components ∧ db'.events = db.events ∧
      db'.attempts.rows = db.attempts.rows.map fun a =>
        if openAttempt token a then a.finish finishedAt exitType errorCode errorSummary else a := by
  unfold finishAttempt at h
  dsimp only at h
  split at h
  · cases h
  · split at h
    · cases h
    · cases h
      exact ⟨rfl, rfl, rfl, rfl⟩

theorem releaseComponentAttempt_effect {status : ComponentStatus}
    (h : releaseComponentAttempt db token now status = .ok db') :
    db'.jobs = db.jobs ∧ db'.attempts = db.attempts ∧ db'.events = db.events ∧
      ∀ i, Bound db' i ↔ Bound db i ∧
        ¬ (i.componentInstanceId = token.componentInstanceId ∧ i.componentType = .worker ∧
          i.jobId = token.jobId ∧ i.attemptId = token.attemptId) := by
  unfold releaseComponentAttempt at h
  split at h
  · cases h
  · cases h
    refine ⟨rfl, rfl, rfl, fun i => bound_release_row fun c => ?_⟩
    simp only [componentRow, bool_to_prop, and_assoc]

theorem finishClaim_effect {finish : ClaimFinish}
    (h : finishClaim db token lockNow statementNow finish = .ok (db', done)) :
    (done = false ∧ db' = db) ∨ (done = true ∧
      (lockActiveExecutionState db token lockNow finish.requireCancelIntent).isSome ∧
        Finished db token statementNow finish db') := by
  unfold finishClaim at h
  split at h
  · cases h
    exact .inl ⟨rfl, rfl⟩
  · rename_i hlock
    dsimp only at h
    split at h
    · cases h
      exact .inl ⟨rfl, rfl⟩
    · rename_i htgt
      rw [Bool.not_eq_true', Bool.not_eq_false] at htgt
      split at h
      · cases h
      · rename_i hboun
        obtain ⟨_, hcls, h⟩ := Except.of_bind h
        obtain ⟨released, hrel, h⟩ := Except.of_bind h
        cases h
        obtain ⟨hjobs, hcomp, hevs, hatts⟩ := finishAttempt_effect hcls
        obtain ⟨hjobs', hatts', hevs', hbs⟩ := releaseComponentAttempt_effect hrel
        refine .inr ⟨rfl, by simpa [isSome_iff_ne_none] using hlock, ?_⟩
        refine ⟨List.any_eq_true.mp htgt, hjobs'.trans hjobs, ?_, ?_, ?_, ?_⟩
        · intro job hjob hrow
          rw [← Bool.not_eq_false]
          intro hbad
          refine hboun (List.any_eq_true.mpr ⟨job, hjob, ?_⟩)
          rw [hbad, Bool.not_false, Bool.and_true]
          exact hrow
        · exact (congrArg Table.rows hatts').trans hatts
        · intro i
          exact (hbs i).trans (and_congr_left' (bound_congr hcomp i))
        · intro htype
          have hsame : NoPublication db released := by
            intro e he
            rw [hevs', hevs] at he
            exact .inl he
          exact hsame.trans (noPublication_addJobEvent htype)

structure Renewed (db : Db) (token : ClaimToken) (statementNow : Timestamp) (leaseSeconds : Int)
    (db' : Db) : Prop where
  jobs : db'.jobs = db.jobs.update (activeLease token statementNow)
    (.renew statementNow leaseSeconds) (JobRun.renew_jobId statementNow leaseSeconds)
  attempts : db'.attempts = db.attempts
  bindings : ∀ i, Bound db' i ↔ Bound db i
  events : db'.events = db.events

theorem heartbeatClaim_effect {leaseSeconds : Int}
    (h : heartbeatClaim db token lockNow statementNow leaseSeconds = .ok (db', done)) :
    (done = false ∧ db' = db) ∨ (done = true ∧
      (lockActiveExecutionState db token lockNow false).isSome ∧
        Renewed db token statementNow leaseSeconds db') := by
  unfold heartbeatClaim at h
  split at h
  · cases h
    exact .inl ⟨rfl, rfl⟩
  · rename_i hlock
    split at h
    · cases h
      exact .inl ⟨rfl, rfl⟩
    · dsimp only at h
      split at h
      · cases h
      · cases h
        refine .inr ⟨rfl, by simpa [isSome_iff_ne_none] using hlock, rfl, rfl,
          fun i => ?_, rfl⟩
        rw [bound_updateComponents_of_kept]
        · rfl
        all_goals
          intro c
          rfl

/-- Rewriting attempts keeps what identifies them. -/
theorem identities_of_rewrite {p : JobAttempt → Prop} [DecidablePred p] {f : JobAttempt → JobAttempt}
    (h : db'.attempts.rows = db.attempts.rows.map fun a => if p a then f a else a)
    (hf : ∀ a, (f a).identity = a.identity) : db'.identities = db.identities := by
  have hkept := map_rewrite hf (fun a => decide (p a)) db.attempts.rows
  simp only [decide_eq_true_eq] at hkept
  rw [Db.identities, h, hkept]
  rfl

theorem TokenOperation.run_ok {op : TokenOperation}
    (h : op.run db token lockNow statementNow = .ok (db', done)) :
    TokenOutcome db token lockNow op.requiresCancelIntent db' done := by
  have hfini {finish : ClaimFinish}
      (h : finishClaim db token lockNow statementNow finish = .ok (db', done)) :
      TokenOutcome db token lockNow finish.requireCancelIntent db' done := by
    rcases finishClaim_effect h with hsame | ⟨hdone, hlock, hfin⟩
    · exact .inl hsame
    · refine .inr ⟨hdone, hlock, ?_, identities_of_rewrite hfin.attempts fun _ => rfl⟩
      rw [hfin.jobs]
      refine Table.rowWise_update _ _ (finish.keepsJobId _) ?_ fun row => .inl rfl
      intro row _ htgt
      have hact := (Bool.and_eq_true_iff.mp htgt).1
      exact .inr ⟨leaseRow_of_activeLease hact, finish.keepsEpoch _ _,
        .inl (finish.clearsLease _ _), finish.keepsParent _ _⟩
  cases op with
  | heartbeat leaseSeconds =>
    rcases heartbeatClaim_effect h with hsame | ⟨hdone, hlock, hren⟩
    · exact .inl hsame
    · refine .inr ⟨hdone, hlock, ?_, by rw [Db.identities, hren.attempts]; rfl⟩
      rw [hren.jobs]
      refine Table.rowWise_update _ _ (JobRun.renew_jobId _ _) ?_ fun row => .inl rfl
      intro row _ hact
      exact .inr ⟨leaseRow_of_activeLease hact, rfl, .inr ⟨rfl, rfl⟩, rfl⟩
  | complete _ | fail _ | cancel _ => exact hfini h

structure Quarantined (db : Db) (job : JobRun) (now : Timestamp) (db' : Db) : Prop where
  jobs : db'.jobs = db.jobs.update (fun j => j.jobId = job.jobId) (.quarantine now)
    (JobRun.quarantine_jobId now)
  attempts : db'.attempts.rows = db.attempts.rows.map fun a =>
    if a.jobId = job.jobId && a.unfinished then a.quarantine now else a
  bindings : ∀ i, Bound db' i ↔ Bound db i ∧ ∀ a ∈ attemptsOf db job.jobId, ¬ NamedBy a i
  events : NoPublication db db'

theorem mem_jobAttempts : a ∈ jobAttempts db jobId ↔ a ∈ attemptsOf db jobId :=
  mem_insertionSort attemptOrder

theorem quarantine_effect {job : JobRun} {state : Option ControlState} {requireExpired : Bool}
    (h : quarantineInvalidExpiredRunningJob db job now state requireExpired = .ok db') :
    (requireExpired = true → expiredRunning now job = true) ∧ Quarantined db job now db' := by
  unfold quarantineInvalidExpiredRunningJob at h
  split at h
  · cases h
  rename_i hexp
  cases h
  let closed := db.updateAttempts (fun a => a.jobId = job.jobId && a.unfinished) (.quarantine now)
    (JobAttempt.quarantine_identity now)
  obtain ⟨hjobs, hatts, hevs⟩ :=
    releaseBindings_frame (jobAttempts db job.jobId) now closed
  refine ⟨fun hreq => by simpa [hreq] using hexp, ?_, congrArg Table.rows hatts,
    fun i => ?_, NoPublication.trans ?_ (noPublication_addJobEvent (by decide))⟩
  · rw [addJobEvent_jobs, Db.updateJobs_jobs, hjobs, Db.updateAttempts_jobs]
  · have hrel := bound_releaseBindings (jobAttempts db job.jobId) now closed i
    simp only [mem_jobAttempts] at hrel
    exact hrel
  · intro e he
    change e ∈ (releaseBindings closed (jobAttempts db job.jobId) now).1.events at he
    rw [hevs] at he
    exact .inl he

end DyData.HeavyQueue
