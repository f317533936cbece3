import DyData.StageRunner

/-!
Stages over whole runs: any interleaving of the executors of one job with the queue, with
crashes and retries.  The lease orders the executors by epoch, and a stage that an executor saw
unsuccessful can only be recorded by another one after that executor lost its epoch.
-/

namespace DyData.Stages

open Relational List Option
open Except (of_bind)
open DyData.HeavyQueue

variable {row : JobStageRun} {stages : Table JobStageRun.identity} {now : Timestamp}
  {job : JobRun} {token : ClaimToken} {s : System}

section Queue

variable (planner : PlannerIdentity) (w : World)

theorem apply_issued (op : Operation) {record : ClaimedJobRecord} (h : record ∈ w.issued) :
    record ∈ (w.apply planner op).issued := by
  cases op with
  | claim request env =>
    change record ∈ (w.claim planner request env).issued
    rcases w.claim_cases planner request env with heq | ⟨db, heq, -⟩ | ⟨db, new, heq, -⟩
    · rw [heq]
      exact h
    · rw [heq]
      exact h
    · rw [heq]
      exact mem_cons_of_mem new h
  | token op token lockNow statementNow =>
    change record ∈ (w.useToken op token lockNow statementNow).issued
    rcases w.useToken_cases op token lockNow statementNow with heq | ⟨db, heq, -⟩
    · rw [heq]
      exact h
    · rw [heq]
      exact h
  | enqueue job =>
    change record ∈ (w.enqueue job).issued
    rw [(enqueue_frame w job).2]
    exact h
  | requestCancel jobId now => exact h

end Queue

section Control

variable {jobId : String} {stage : Stage} {fence : Fence}

theorem stage?_putStage (c : Control) (row : JobStageRun) (id : String) (st : Stage) :
    (c.putStage row).stage? id st =
      if (id, st) = row.identity then some row else c.stage? id st := by
  change (c.stages.put row).get? (id, st) = _
  rw [Table.get?_put]
  rfl

theorem stage?_put_other (h : row.jobId ≠ jobId) (st : Stage) : (stages.put row).get? (jobId, st) =
      stages.get? (jobId, st) := by
  rw [Table.get?_put, if_neg]
  exact fun he => h (congrArg Prod.fst he).symm

theorem getD_jobId (parent : String) (st : Stage) : ((stages.get? (parent, st)).getD
    { jobId := parent, stageName := st, status := .pending }).jobId = parent := by
  cases hrow : stages.get? (parent, st) with
  | none => rfl
  | some row => exact (Prod.mk.inj (stages.key_of_get? hrow)).1

/-- The mirror of a range writes the row of the range only. -/
theorem promoteRangeParentStage_ok {stages' : Table JobStageRun.identity}
    {parent execution : String} {required : List String} {checkpoint : List (String × JsonValue)}
    (h : promoteRangeParentStage stages parent execution required checkpoint now = .ok stages')
    (hoth : parent ≠ jobId) (st : Stage) : stages'.get? (jobId, st) = stages.get? (jobId, st) := by
  obtain ⟨_, -, h⟩ := of_bind h
  cases h
  refine stage?_put_other ?_ st
  rwa [← getD_jobId parent .collectDimensions] at hoth

theorem recordRangeParentStageFailure_ok {stages' : Table JobStageRun.identity}
    {parent summary : String}
    (h : recordRangeParentStageFailure stages parent summary now = .ok stages')
    (hoth : parent ≠ jobId) (st : Stage) : stages'.get? (jobId, st) = stages.get? (jobId, st) := by
  obtain ⟨_, -, h⟩ := of_bind h
  cases h
  refine stage?_put_other ?_ st
  rwa [← getD_jobId parent .collectDimensions] at hoth

theorem mirroredRange?_ne {parent : String} (h : mirroredRange? job = some parent)
    (hself : job.parentJobId ≠ some jobId) : parent ≠ jobId := by
  rintro rfl
  unfold mirroredRange? at h
  split at h
  · exact hself (filter_eq_some_iff.mp h).1
  · cases h

/-- What the runner may do to the queue: only notes on the row of the job. -/
structure Noted (jobId : String) (c c' : Control) : Prop where
  fencing : Fencing c.queue → Fencing c'.queue
  issued : c'.queue.issued = c.queue.issued
  row : ∀ job, c.job? jobId = some job → ∃ job', c'.job? jobId = some job' ∧
    job'.epoch = job.epoch ∧ job'.parentJobId = job.parentJobId

theorem noted_of_update {c c' : Control} {f : JobRun → JobRun}
    {hf : ∀ job, (f job).jobId = job.jobId}
    (hq : c'.queue = ⟨c.queue.db.updateJobs (fun job => job.jobId = jobId) f hf, c.queue.issued⟩)
    (hkept : ∀ job, LeaseKept job (f job) ∧ (f job).parentJobId = job.parentJobId) :
    Noted jobId c c' := by
  refine ⟨?_, by rw [hq], ?_⟩
  · intro hfenc
    rw [hq]
    refine hfenc.of_leaseKept ?_ rfl
    exact Table.rowWise_update _ _ hf (fun row _ _ => (hkept row).1)
      fun row => ⟨rfl, .inr ⟨rfl, rfl⟩⟩
  · intro job hjob
    have hrow : c.queue.db.jobs.get? jobId = some job := hjob
    refine ⟨f job, ?_, ?_, (hkept job).2⟩
    · unfold Control.job?
      rw [hq]
      change (c.queue.db.jobs.update (fun job => job.jobId = jobId) f hf).get? jobId = _
      rw [Table.get?_update, hrow, map_some,
        if_pos (decide_eq_true (c.queue.db.jobs.key_of_get? hrow))]
    · unfold JobRun.epoch
      rw [(hkept job).1.1]

/-- The stages recorded as successful after the row of one stage was put. -/
theorem succeeded_of_put {c c' : Control} {recorded : Bool}
    (hsame : ∀ st, c'.stages.get? (jobId, st) = (c.stages.put row).get? (jobId, st))
    (hid : row.identity = (jobId, stage)) (hstat : decide (row.status = .success) = recorded)
    (st : Stage) :
    c'.succeeded jobId st = if st = stage then recorded else c.succeeded jobId st := by
  unfold Control.succeeded Control.stage?
  rw [hsame st, Table.get?_put, hid]
  by_cases hst : st = stage
  · rw [if_pos (by rw [hst]), if_pos hst, any_some, hstat]
  · rw [if_neg (fun he => hst (Prod.mk.inj he).2), if_neg hst]

theorem commitStage_ok {c c' : Control} {order : List Stage} {output : HandlerOutput}
    {clock : CommitClock} (hjob : c.job? jobId = some job) (hself : job.parentJobId ≠ some jobId)
    (h : commitStage c jobId order stage fence output clock = .ok c') :
    leaseMatches c.queue.db job fence clock.leaseNow = true ∧ Noted jobId c c' ∧
      ∀ st, c'.succeeded jobId st = if st = stage then true else c.succeeded jobId st := by
  unfold commitStage at h
  rw [hjob] at h
  obtain ⟨_, hjob', h⟩ := of_bind h
  rw [Except.ofOption_eq_ok_iff] at hjob'
  cases hjob'
  obtain ⟨_, hlease, h⟩ := of_bind h
  unfold assertExecutionLease at hlease
  rw [Except.ensure_eq_ok_iff] at hlease
  obtain ⟨_, -, h⟩ := of_bind h
  obtain ⟨_, -, h⟩ := of_bind h
  obtain ⟨_, -, h⟩ := of_bind h
  obtain ⟨_, -, h⟩ := of_bind h
  refine ⟨hlease, ?_⟩
  split at h
  · cases h
    exact ⟨noted_of_update rfl fun job => ⟨⟨rfl, .inr ⟨rfl, rfl⟩⟩, rfl⟩,
      succeeded_of_put (fun _ => rfl) rfl rfl⟩
  · rename_i hpar
    obtain ⟨_, -, h⟩ := of_bind h
    obtain ⟨_, hstag, h⟩ := of_bind h
    cases h
    have hoth := mirroredRange?_ne hpar hself
    have hsame := promoteRangeParentStage_ok hstag hoth
    exact ⟨noted_of_update rfl fun job => ⟨⟨rfl, .inr ⟨rfl, rfl⟩⟩, rfl⟩,
      succeeded_of_put hsame rfl rfl⟩

theorem failedRow_ok {c : Control} {error : ErrorText}
    (h : failedRow jobId stage job now (c.stage? jobId stage) error = .ok row) :
    row.identity = (jobId, stage) ∧ row.status = .failed := by
  cases hex : c.stage? jobId stage with
  | none =>
    rw [hex] at h
    cases h
    exact ⟨rfl, rfl⟩
  | some existing =>
    rw [hex] at h
    obtain ⟨_, -, h⟩ := of_bind h
    cases h
    have hkey : existing.identity = (jobId, stage) := c.stages.key_of_get? hex
    exact ⟨hkey, rfl⟩

/-- A failure report needs the lease and never touches a success. -/
theorem recordStageFailure_ok {c c' : Control} {error : ErrorText} {leaseNow : Timestamp}
    (hjob : c.job? jobId = some job) (hself : job.parentJobId ≠ some jobId)
    (h : recordStageFailure c jobId stage fence error leaseNow now = .ok (some c')) :
    leaseMatches c.queue.db job fence leaseNow = true ∧ Noted jobId c c' ∧
      ∀ st, c'.succeeded jobId st = c.succeeded jobId st := by
  unfold recordStageFailure at h
  rw [hjob] at h
  obtain ⟨_, hjob', h⟩ := of_bind h
  rw [Except.ofOption_eq_ok_iff] at hjob'
  cases hjob'
  split at h
  · cases h
  · rename_i hlease
    rw [Bool.not_eq_true, Bool.not_eq_false'] at hlease
    refine ⟨hlease, ?_⟩
    split at h
    · cases h
    · rename_i hfr
      obtain ⟨row, hrow, h⟩ := of_bind h
      obtain ⟨hid, hstat⟩ := failedRow_ok hrow
      -- the stage was not successful before, and its failed row is not either
      have hkept : ∀ st, (if st = stage then false else c.succeeded jobId st) =
          c.succeeded jobId st := by
        intro st
        split
        · rename_i hst
          rw [hst, Bool.eq_false_of_not_eq_true hfr]
        · rfl
      have hfail : decide (row.status = .success) = false := by
        rw [hstat]
        rfl
      split at h
      · cases h
        refine ⟨noted_of_update rfl fun job => ⟨⟨rfl, .inr ⟨rfl, rfl⟩⟩, rfl⟩, fun st => ?_⟩
        exact (succeeded_of_put (fun _ => rfl) hid hfail st).trans (hkept st)
      · rename_i hpar
        obtain ⟨_, hstag, h⟩ := of_bind h
        cases h
        have hoth := mirroredRange?_ne hpar hself
        have hsame := recordRangeParentStageFailure_ok hstag hoth
        refine ⟨noted_of_update rfl fun job => ⟨⟨rfl, .inr ⟨rfl, rfl⟩⟩, rfl⟩, fun st => ?_⟩
        exact (succeeded_of_put hsame hid hfail st).trans (hkept st)

/-- The lease of a token matches only at the token's own epoch. -/
theorem epoch_of_leaseMatches {db : Db} (h : leaseMatches db job (.ofToken token) now = true) :
    job.epoch = token.leaseEpoch := by
  unfold leaseMatches Fence.ofToken at h
  simp only [bool_to_prop] at h
  exact h.1.1.2

/-- How the control plane may change under any move: nothing issued is forgotten, the job keeps
its parent, and neither its epoch nor the record of a success goes back. -/
structure Grown (jobId : String) (c c' : Control) : Prop where
  fencing : Fencing c.queue → Fencing c'.queue
  issued : ∀ record ∈ c.queue.issued, record ∈ c'.queue.issued
  row : ∀ job, c.job? jobId = some job → ∃ job', c'.job? jobId = some job' ∧
    job.epoch ≤ job'.epoch ∧ job'.parentJobId = job.parentJobId
  succeeded : ∀ st, c.succeeded jobId st = true → c'.succeeded jobId st = true

theorem Grown.refl (c : Control) : Grown jobId c c where
  fencing h := h
  issued _ h := h
  row job hjob := ⟨job, hjob, le_refl _, rfl⟩
  succeeded _ h := h

theorem Noted.grown {c c' : Control} (h : Noted jobId c c')
    (hsucc : ∀ st, c.succeeded jobId st = true → c'.succeeded jobId st = true) :
    Grown jobId c c' where
  fencing := h.fencing
  issued record hrecord := by
    rw [h.issued]
    exact hrecord
  row job hjob := by
    obtain ⟨job', hjob', hep, hpar⟩ := h.row job hjob
    exact ⟨job', hjob', hep.ge, hpar⟩
  succeeded := hsucc

theorem grown_queue (planner : PlannerIdentity) (c : Control) (op : Operation) :
    Grown jobId c { c with queue := c.queue.apply planner op } where
  fencing h := h.apply planner op
  issued _ h := apply_issued planner c.queue op h
  row _ hjob := by
    obtain ⟨row', hrow', -, hep, hpar⟩ := apply_row planner c.queue op hjob
    exact ⟨row', hrow', hep, hpar⟩
  succeeded _ h := h

theorem grown_putStage {c : Control}
    (h : ∀ st, (c.putStage row).succeeded jobId st = c.succeeded jobId st) :
    Grown jobId c (c.putStage row) where
  fencing h := h
  issued _ h := h
  row job hjob := ⟨job, hjob, le_refl _, rfl⟩
  succeeded st hst := (h st).trans hst

end Control

section Executors

variable {jobId : String} {order : List Stage} {c c' : Control} {epoch : Int} {e : Executor}

def Executor.engaged? (e : Executor) : Option Stage :=
  match e.phase with
  | .observed => e.remaining.head?
  | .entered => e.remaining.head?
  | .handling => e.remaining.head?
  | .returned _ => e.remaining.head?
  | _ => none

def Superseded (jobId : String) (c : Control) (epoch : Int) : Prop :=
  ∃ job, c.job? jobId = some job ∧ epoch < job.epoch

theorem Superseded.grow (h : Superseded jobId c epoch) (hgrown : Grown jobId c c') :
    Superseded jobId c' epoch := by
  obtain ⟨job, hjob, _⟩ := h
  obtain ⟨job', hjob', _, -⟩ := hgrown.row job hjob
  exact ⟨job', hjob', by omega⟩

/-- What holds of every executor at every time: it works under a token of its own, has only
success behind it, and is superseded as soon as another one recorded its stage. -/
structure ExecutorSound (jobId : String) (order : List Stage) (c : Control) (epoch : Int)
    (e : Executor) : Prop where
  token : e.token.leaseEpoch = epoch
  job : e.token.jobId = jobId
  issued : ∃ record ∈ c.queue.issued, record.token = e.token
  split : e.passed ++ e.remaining = order
  passed : ∀ st ∈ e.passed, c.succeeded jobId st = true
  superseded : ∀ st, e.engaged? = some st → c.succeeded jobId st = true →
    Superseded jobId c epoch

/-- An executor stays sound while the control plane grows, if it is superseded wherever its
own stage is recorded. -/
theorem ExecutorSound.grow (h : ExecutorSound jobId order c epoch e) (hgrown : Grown jobId c c')
    (hnew : ∀ st, e.engaged? = some st → c.succeeded jobId st = false →
      c'.succeeded jobId st = true → Superseded jobId c' epoch) :
    ExecutorSound jobId order c' epoch e where
  token := h.token
  job := h.job
  issued := by
    obtain ⟨record, hrec, htoken⟩ := h.issued
    exact ⟨record, hgrown.issued record hrec, htoken⟩
  split := h.split
  passed st hst := hgrown.succeeded st (h.passed st hst)
  superseded st hst hsucceeded := by
    cases hbef : c.succeeded jobId st with
    | true => exact (h.superseded st hst hbef).grow hgrown
    | false => exact hnew st hst hbef hsucceeded

/-- An executor that moves on with the same stages and engages in nothing new. -/
theorem ExecutorSound.rephase {passed remaining : List Stage} {phase phase' : Phase}
    (h : ExecutorSound jobId order c epoch ⟨token, passed, remaining, phase⟩)
    (heng : ∀ st, Executor.engaged? ⟨token, passed, remaining, phase'⟩ = some st →
      Executor.engaged? ⟨token, passed, remaining, phase⟩ = some st) :
    ExecutorSound jobId order c epoch ⟨token, passed, remaining, phase'⟩ where
  token := h.token
  job := h.job
  issued := h.issued
  split := h.split
  passed := h.passed
  superseded st hst := h.superseded st (heng st hst)

theorem ExecutorSound.pass {passed rest : List Stage} {stage : Stage} {phase : Phase}
    (h : ExecutorSound jobId order c epoch ⟨token, passed, stage :: rest, phase⟩)
    (hstage : c.succeeded jobId stage = true) :
    ExecutorSound jobId order c epoch ⟨token, passed ++ [stage], rest, .reading⟩ where
  token := h.token
  job := h.job
  issued := h.issued
  split := by
    rw [append_assoc]
    exact h.split
  passed st hst := by
    rcases mem_append.mp hst with hst | hst
    · exact h.passed st hst
    · rw [mem_singleton.mp hst]
      exact hstage
  superseded st hst := by cases hst

theorem ExecutorSound.le_epoch (h : ExecutorSound jobId order c epoch e) (hfenc : Fencing c.queue)
    (hjob : c.job? jobId = some job) : epoch ≤ job.epoch := by
  obtain ⟨record, hrec, htoken⟩ := h.issued
  obtain ⟨row, hrow, hle⟩ := hfenc.bounded record hrec
  rw [htoken, h.job] at hrow
  rw [htoken, h.token] at hle
  have hsame : row = job := mem_unique hrow hjob
  rw [← hsame]
  exact hle

end Executors

section Runs

variable (planner : PlannerIdentity) {jobId : String} {order : List Stage}

def System.successes (s : System) (stage : Stage) : Nat :=
  s.log.countP fun record => record.kind = .succeeded && record.stage = stage

/-- The state of a run: the lease is fenced, every executor is sound, the log counts what the
rows say, and behind every success stand the stages required before it. -/
structure Sound (jobId : String) (order : List Stage) (s : System) : Prop where
  fencing : Fencing s.control.queue
  job : ∃ job, s.control.job? jobId = some job ∧ job.parentJobId ≠ some jobId
  executors : ∀ epoch e, s.executors epoch = some e →
    ExecutorSound jobId order s.control epoch e
  counted : ∀ stage, s.successes stage = if s.control.succeeded jobId stage then 1 else 0
  ordered : ∀ stage, s.control.succeeded jobId stage = true →
    ∃ passed rest, order = passed ++ stage :: rest ∧
      ∀ st ∈ passed, s.control.succeeded jobId st = true

theorem Sound.quiet {s' : System} (h : Sound jobId order s)
    (hgrown : Grown jobId s.control s'.control)
    (hsame : ∀ st, s'.control.succeeded jobId st = s.control.succeeded jobId st)
    (hlog : ∀ st, s'.successes st = s.successes st)
    (hexec : ∀ epoch e, s'.executors epoch = some e →
      s.executors epoch = some e ∨ ExecutorSound jobId order s.control epoch e) :
    Sound jobId order s' where
  fencing := hgrown.fencing h.fencing
  job := by
    obtain ⟨job, hjob, _⟩ := h.job
    obtain ⟨job', hjob', -, hpar⟩ := hgrown.row job hjob
    exact ⟨job', hjob', by rwa [hpar]⟩
  executors epoch e he := by
    have hsnd : ExecutorSound jobId order s.control epoch e := by
      rcases hexec epoch e he with hold | hsnd
      · exact h.executors epoch e hold
      · exact hsnd
    refine hsnd.grow hgrown fun st _ hbef haft => ?_
    rw [hsame, hbef] at haft
    cases haft
  counted stage := by rw [hlog, hsame, h.counted]
  ordered stage hstage := by
    rw [hsame] at hstage
    obtain ⟨passed, rest, hord, hpass⟩ := h.ordered stage hstage
    exact ⟨passed, rest, hord, fun st hst => (hsame st).trans (hpass st hst)⟩

theorem Sound.setExecutor (h : Sound jobId order s) {epoch : Int} {e : Option Executor}
    (he : ∀ e', e = some e' → ExecutorSound jobId order s.control epoch e') :
    Sound jobId order (s.setExecutor epoch e) := by
  refine h.quiet (Grown.refl _) (fun _ => rfl) (fun _ => rfl) fun k e' hk => ?_
  change Function.update s.executors epoch e k = some e' at hk
  rw [Function.update_apply] at hk
  split at hk
  · rename_i hsame
    rw [hsame]
    exact .inr (he e' hk)
  · exact .inl hk

/-- An executor moves on with the same stages. -/
theorem Sound.rephase (h : Sound jobId order s) {epoch : Int} {passed remaining : List Stage}
    {phase : Phase} (hexec : s.executors epoch = some ⟨token, passed, remaining, phase⟩)
    {phase' : Phase} (heng : ∀ st, Executor.engaged? ⟨token, passed, remaining, phase'⟩ =
      some st → Executor.engaged? ⟨token, passed, remaining, phase⟩ = some st) :
    Sound jobId order (s.setExecutor epoch (some ⟨token, passed, remaining, phase'⟩)) :=
  h.setExecutor fun _ he => some.inj he ▸ (h.executors epoch _ hexec).rephase heng

theorem successes_append {record : Record} (h : record.kind ≠ .succeeded) (st : Stage) :
    ({ s with log := s.log ++ [record] } : System).successes st = s.successes st := by
  unfold System.successes
  rw [countP_append, countP_singleton, if_neg (by simp [h]), Nat.add_zero]

/-- The success commit: the executor holds the current epoch, so nobody recorded its stage
before, and every other executor of the stage is superseded. -/
theorem Sound.committed (h : Sound jobId order s) {epoch : Int} {passed rest : List Stage}
    {stage : Stage} {output : HandlerOutput} {clock : CommitClock} {control : Control}
    {next : Executor}
    (hexec : s.executors epoch = some ⟨token, passed, stage :: rest, .returned output⟩)
    (hcomm : commitStage s.control jobId order stage (.ofToken token) output clock = .ok control)
    (hnext : next = ⟨token, passed ++ [stage], rest, .reading⟩ ∨
      ∃ error, next = ⟨token, passed, stage :: rest, .failing error⟩) :
    Sound jobId order { s.setExecutor epoch (some next) with
      control, log := s.log ++ [⟨.succeeded, stage, epoch⟩] } ∧ Grown jobId s.control control := by
  obtain ⟨job, hjob, hself⟩ := h.job
  obtain ⟨hlease, hnoted, hsucc⟩ := commitStage_ok hjob hself hcomm
  have hsnd := h.executors epoch _ hexec
  have hep : job.epoch = epoch := (epoch_of_leaseMatches hlease).trans hsnd.token
  have hfr : s.control.succeeded jobId stage = false := by
    refine Bool.eq_false_of_not_eq_true fun hbef => ?_
    obtain ⟨job', hjob', hlt⟩ := hsnd.superseded stage rfl hbef
    have hsame : job' = job := mem_unique hjob' hjob
    rw [hsame] at hlt
    omega
  have haft : control.succeeded jobId stage = true := by
    rw [hsucc, if_pos rfl]
  have hgrown : Grown jobId s.control control := by
    refine hnoted.grown fun st hst => ?_
    rw [hsucc]
    split
    · rfl
    · exact hst
  refine ⟨⟨hgrown.fencing h.fencing, ?_, ?_, ?_, ?_⟩, hgrown⟩
  · obtain ⟨job', hjob', -, hpar⟩ := hgrown.row job hjob
    exact ⟨job', hjob', by rwa [hpar]⟩
  · intro k e hk
    change Function.update s.executors epoch (some next) k = some e at hk
    rw [Function.update_apply] at hk
    split at hk
    · -- the executor itself, with its stage behind it
      rename_i hsame
      rw [hsame]
      cases hk
      have hidle : ExecutorSound jobId order control epoch
          ⟨token, passed, stage :: rest, .reading⟩ := by
        refine (hsnd.rephase fun st hst => ?_).grow hgrown fun st hst => ?_
        · cases hst
        · cases hst
      rcases hnext with rfl | ⟨error, rfl⟩
      · exact hidle.pass haft
      · refine hidle.rephase fun st hst => ?_
        cases hst
    · -- any other executor has an older epoch
      have hsoundOther := h.executors k e hk
      refine hsoundOther.grow hgrown fun st _ _ _ => ?_
      have hle := hsoundOther.le_epoch h.fencing hjob
      have hlt : k < job.epoch := by omega
      exact Superseded.grow ⟨job, hjob, hlt⟩ hgrown
  · intro st
    change countP _ (s.log ++ [_]) = if control.succeeded jobId st then 1 else 0
    have hcnt := h.counted st
    unfold System.successes at hcnt
    rw [countP_append, hcnt, hsucc]
    by_cases hst : st = stage
    · subst hst
      simp [hfr]
    · simp [hst, Ne.symm hst]
  · intro st hst
    rw [hsucc] at hst
    split at hst
    · rename_i hsame
      rw [hsame]
      exact ⟨passed, rest, hsnd.split.symm, fun st' hst' =>
        hgrown.succeeded st' (hsnd.passed st' hst')⟩
    · obtain ⟨before, after, hord, hbef⟩ := h.ordered st hst
      exact ⟨before, after, hord, fun st' hst' => hgrown.succeeded st' (hbef st' hst')⟩

/-- Putting a row changes no success, if the row is as successful as the one it replaces. -/
theorem succeeded_putStage {c : Control}
    (h : ∀ st, row.identity = (jobId, st) → decide (row.status = .success) = c.succeeded jobId st)
    (st : Stage) : (c.putStage row).succeeded jobId st = c.succeeded jobId st := by
  by_cases hid : row.identity = (jobId, st)
  · rw [succeeded_of_put (fun _ => rfl) hid (h st hid), if_pos rfl]
  · unfold Control.succeeded
    rw [stage?_putStage, if_neg fun he => hid he.symm]

section

variable (h : Sound jobId order s)
include h

theorem Sound.putStage
    (hrow : ∀ st, row.identity = (jobId, st) → decide (row.status = .success) =
      s.control.succeeded jobId st) :
    Sound jobId order { s with control := s.control.putStage row } ∧
      Grown jobId s.control (s.control.putStage row) := by
  have hsame := succeeded_putStage hrow
  exact ⟨h.quiet (grown_putStage hsame) hsame (fun _ => rfl) fun _ _ => .inl,
    grown_putStage hsame⟩

theorem Sound.openStage (row : JobStageRun) :
    Sound jobId order (s.openStage row) ∧ Grown jobId s.control (s.openStage row).control := by
  unfold System.openStage
  split
  · exact ⟨h, Grown.refl _⟩
  · rename_i hopen
    simp only [bool_to_prop, not_or, Bool.not_eq_true, isSome_eq_false_iff,
      isNone_iff_eq_none] at hopen
    refine h.putStage fun st hid => ?_
    unfold Control.succeeded Control.stage?
    rw [← hid, hopen.2]
    exact decide_eq_false hopen.1

theorem Sound.page (stage : Stage) (document : JsonValue) :
    Sound jobId order (s.page jobId stage document) ∧
      Grown jobId s.control (s.page jobId stage document).control := by
  unfold System.page
  split
  · exact ⟨h, Grown.refl _⟩
  · rename_i row hrow
    have hkey : row.identity = (jobId, stage) := s.control.stages.key_of_get? hrow
    refine h.putStage fun st hid => ?_
    -- the page keeps the status of its row
    have hst : st = stage := (Prod.mk.inj (hid.symm.trans hkey)).2
    unfold Control.succeeded
    rw [hst, hrow, any_some]

theorem Sound.start (token : ClaimToken) : Sound jobId order (s.start jobId order token) := by
  unfold System.start
  split
  · exact h
  · rename_i hfree
    simp only [bool_to_prop, not_or, Bool.not_eq_true, Bool.not_eq_false', List.any_eq_true] at hfree
    obtain ⟨⟨-, hjob⟩, record, hrec, htoken⟩ := hfree
    refine h.setExecutor fun e he => ?_
    obtain rfl := some.inj he
    refine ⟨rfl, not_not.mp hjob, ⟨record, hrec, htoken⟩, rfl, ?_, ?_⟩
    · intro st hst
      cases hst
    · intro st hst
      cases hst

theorem Sound.read (epoch : Int) : Sound jobId order (s.read jobId epoch) := by
  unfold System.read
  split
  · rename_i token passed stage _ hexec
    have hsnd := h.executors epoch _ hexec
    split
    · exact h.rephase hexec nofun
    · split
      · rename_i hsucc
        exact h.setExecutor fun e he => some.inj he ▸ hsnd.pass hsucc
      · -- the stage was read as unsuccessful
        rename_i hfr
        refine h.setExecutor fun e he => ?_
        cases he
        refine ⟨hsnd.token, hsnd.job, hsnd.issued, hsnd.split, hsnd.passed, ?_⟩
        intro st hst hsucc
        cases hst
        exact absurd hsucc hfr
  · rename_i hexec
    exact h.rephase hexec nofun
  · exact h

theorem Sound.enter (epoch : Int) (now : Timestamp) :
    Sound jobId order (s.enter jobId epoch now) := by
  unfold System.enter
  split
  · rename_i hexec
    split
    · exact h.rephase hexec nofun
    · split
      · exact h.rephase hexec fun st hst => hst
      · exact h.rephase hexec nofun
  · exact h

theorem Sound.refuse (epoch : Int) (error : ErrorText) :
    Sound jobId order (s.refuse epoch error) := by
  unfold System.refuse
  split
  · rename_i hexec
    exact h.rephase hexec nofun
  · exact h

theorem Sound.call (epoch : Int) : Sound jobId order (s.call epoch) := by
  unfold System.call
  split
  · rename_i token passed stage rest hexec
    have hmoved : Sound jobId order
        (s.setExecutor epoch (some ⟨token, passed, stage :: rest, .handling⟩)) :=
      h.rephase hexec fun st hst => hst
    exact hmoved.quiet (Grown.refl _) (fun _ => rfl)
      (successes_append (fun hkind => RecordKind.noConfusion hkind)) fun _ _ => .inl
  · exact h

theorem Sound.returnFrom (epoch : Int) (output : HandlerOutput) :
    Sound jobId order (s.returnFrom epoch output) := by
  unfold System.returnFrom
  split
  · rename_i hexec
    exact h.rephase hexec fun st hst => hst
  · exact h

theorem Sound.raise (epoch : Int) (error : ErrorText) :
    Sound jobId order (s.raise epoch error) := by
  unfold System.raise
  split
  · rename_i hexec
    exact h.rephase hexec nofun
  · exact h

theorem Sound.commit (epoch : Int) (clock : CommitClock) (afterwards : Option ErrorText) :
    Sound jobId order (s.commit jobId order epoch clock afterwards) ∧
      Grown jobId s.control (s.commit jobId order epoch clock afterwards).control := by
  unfold System.commit
  split
  · rename_i hexec
    split
    · exact ⟨h.rephase hexec nofun, Grown.refl _⟩
    · rename_i hcomm
      refine h.committed hexec hcomm ?_
      cases afterwards with
      | none => exact .inl rfl
      | some error => exact .inr ⟨error, rfl⟩
  · exact ⟨h, Grown.refl _⟩

theorem Sound.report (epoch : Int) (leaseNow now : Timestamp) :
    Sound jobId order (s.report jobId epoch leaseNow now) ∧
      Grown jobId s.control (s.report jobId epoch leaseNow now).control := by
  unfold System.report
  split
  · rename_i token passed stage rest _ hexec
    have hstop : Sound jobId order
        (s.setExecutor epoch (some ⟨token, passed, stage :: rest, .stopped⟩)) :=
      h.rephase hexec nofun
    split
    · rename_i control hrep
      obtain ⟨_, hjob, hself⟩ := h.job
      obtain ⟨-, hnoted, hsame⟩ := recordStageFailure_ok hjob hself hrep
      have hgrown : Grown jobId s.control control :=
        hnoted.grown fun st hst => (hsame st).trans hst
      exact ⟨hstop.quiet hgrown hsame
        (successes_append (fun hkind => RecordKind.noConfusion hkind)) fun _ _ => .inl, hgrown⟩
    · exact ⟨hstop, Grown.refl _⟩
  · exact ⟨h, Grown.refl _⟩

end

def Move.executor? : Move → Option Int
  | .queue _ => none
  | .openStage _ => none
  | .page _ _ => none
  | .start token => some token.leaseEpoch
  | .read epoch => some epoch
  | .enter epoch _ => some epoch
  | .refuse epoch _ => some epoch
  | .call epoch => some epoch
  | .returnFrom epoch _ => some epoch
  | .raise epoch _ => some epoch
  | .commit epoch _ _ => some epoch
  | .report epoch _ _ => some epoch
  | .crash epoch => some epoch

def Move.leaseNow? : Move → Option Timestamp
  | .commit _ clock _ => some clock.leaseNow
  | .report _ leaseNow _ => some leaseNow
  | _ => none

/-- A move of an executor that checks no lease writes no row, and logs nothing but the call of
a handler. -/
theorem apply_executor (s : System) {move : Move} {epoch : Int}
    (hmove : move.executor? = some epoch) (hread : move.leaseNow? = none) :
    (s.apply planner jobId order move).control = s.control ∧
      ∀ record ∈ (s.apply planner jobId order move).log, record ∈ s.log ∨ record.kind = .called := by
  have hsil : ∀ {s' : System}, s'.control = s.control ∧ s'.log = s.log →
      s'.control = s.control ∧ ∀ record ∈ s'.log, record ∈ s.log ∨ record.kind = .called := by
    intro s' hs'
    refine ⟨hs'.1, fun record hrec => .inl ?_⟩
    rwa [hs'.2] at hrec
  cases move with
  | queue _ | openStage _ | page _ _ => cases hmove
  | start _ | read _ | enter _ _ | refuse _ _ | returnFrom _ _ | raise _ _ =>
    refine hsil ?_
    simp only [System.apply, System.start, System.read, System.enter, System.refuse,
      System.returnFrom, System.raise]
    repeat' split
    all_goals exact ⟨rfl, rfl⟩
  | call k =>
    simp only [System.apply, System.call]
    split
    · refine ⟨rfl, fun record hrec => ?_⟩
      rcases mem_append.mp hrec with hold | hnew
      · exact .inl hold
      · rw [mem_singleton.mp hnew]
        exact .inr rfl
    · exact hsil ⟨rfl, rfl⟩
  | commit _ _ _ | report _ _ _ => cases hread
  | crash k => exact hsil ⟨rfl, rfl⟩

/-- Every move keeps the state sound, and takes no success back. -/
theorem Sound.apply (h : Sound jobId order s) (move : Move) :
    Sound jobId order (s.apply planner jobId order move) ∧
      Grown jobId s.control (s.apply planner jobId order move).control := by
  -- most moves of an executor leave the control plane as it is
  have hidle : ∀ {epoch : Int}, move.executor? = some epoch → move.leaseNow? = none →
      Sound jobId order (s.apply planner jobId order move) →
      Sound jobId order (s.apply planner jobId order move) ∧
        Grown jobId s.control (s.apply planner jobId order move).control := by
    intro epoch hmove hread hsnd
    rw [(apply_executor planner s hmove hread).1]
    exact ⟨hsnd, Grown.refl _⟩
  cases move with
  | queue op =>
    have hgrown : Grown jobId s.control _ := grown_queue planner s.control op
    exact ⟨h.quiet hgrown (fun _ => rfl) (fun _ => rfl) fun _ _ => .inl, hgrown⟩
  | openStage row => exact h.openStage row
  | page stage document => exact h.page stage document
  | start token => exact hidle rfl rfl (h.start token)
  | read epoch => exact hidle rfl rfl (h.read epoch)
  | enter epoch now => exact hidle rfl rfl (h.enter epoch now)
  | refuse epoch error => exact hidle rfl rfl (h.refuse epoch error)
  | call epoch => exact hidle rfl rfl (h.call epoch)
  | returnFrom epoch output => exact hidle rfl rfl (h.returnFrom epoch output)
  | raise epoch error => exact hidle rfl rfl (h.raise epoch error)
  | commit epoch clock afterwards => exact h.commit epoch clock afterwards
  | report epoch leaseNow now => exact h.report epoch leaseNow now
  | crash epoch =>
    refine hidle rfl rfl (h.setExecutor fun e he => ?_)
    cases he

theorem Sound.run (h : Sound jobId order s) (moves : List Move) :
    Sound jobId order (s.run planner jobId order moves) := by
  induction moves generalizing s with
  | nil => exact h
  | cons move moves ih => exact ih (h.apply planner move).1

def System.holdsLease (s : System) (jobId : String) (epoch : Int) (now : Timestamp) : Bool :=
  match s.executors epoch, s.control.job? jobId with
  | some e, some job => leaseMatches s.control.queue.db job (.ofToken e.token) now
  | _, _ => false

/-- A move of an executor writes no row and logs nothing but the call of a handler, unless the
executor holds the live lease. -/
def LeasedMove (planner : PlannerIdentity) (jobId : String) (order : List Stage) (s : System)
    (move : Move) (epoch : Int) : Prop :=
  ((s.apply planner jobId order move).control = s.control ∧
      ∀ record ∈ (s.apply planner jobId order move).log, record ∈ s.log ∨ record.kind = .called) ∨
    ∃ now, move.leaseNow? = some now ∧ s.holdsLease jobId epoch now = true

theorem Sound.leased (h : Sound jobId order s) {move : Move} {epoch : Int}
    (hmove : move.executor? = some epoch) : LeasedMove planner jobId order s move epoch := by
  obtain ⟨_, hjob, hself⟩ := h.job
  cases hread : move.leaseNow? with
  | none => exact .inl (apply_executor planner s hmove hread)
  | some now =>
  -- only the two recording moves check their lease
  cases move with
  | queue _ | openStage _ | page _ _ => cases hmove
  | start _ | read _ | enter _ _ | refuse _ _ | call _ | returnFrom _ _ | raise _ _ | crash _ =>
    cases hread
  | commit k clock afterwards =>
    cases hmove
    unfold LeasedMove
    simp only [System.apply, System.commit]
    split
    · rename_i token passed stage rest _ hexec
      split
      · exact .inl ⟨rfl, fun record => .inl⟩
      · rename_i control hcomm
        refine .inr ⟨clock.leaseNow, rfl, ?_⟩
        unfold System.holdsLease
        rw [hexec, hjob]
        exact (commitStage_ok hjob hself hcomm).1
    · exact .inl ⟨rfl, fun record => .inl⟩
  | report k leaseNow now =>
    cases hmove
    unfold LeasedMove
    simp only [System.apply, System.report]
    split
    · rename_i hexec
      split
      · rename_i hrep
        refine .inr ⟨leaseNow, rfl, ?_⟩
        unfold System.holdsLease
        rw [hexec, hjob]
        exact (recordStageFailure_ok hjob hself hrep).1
      · exact .inl ⟨rfl, fun record => .inl⟩
    · exact .inl ⟨rfl, fun record => .inl⟩

theorem Sound.holdsLease_of_superseded (h : Sound jobId order s) {epoch : Int}
    (hsup : Superseded jobId s.control epoch) (now : Timestamp) :
    s.holdsLease jobId epoch now = false := by
  obtain ⟨_, hjob, _⟩ := hsup
  unfold System.holdsLease
  rw [hjob]
  cases hexec : s.executors epoch with
  | none => rfl
  | some e =>
    refine Bool.eq_false_of_not_eq_true fun hlease => ?_
    have hep := epoch_of_leaseMatches hlease
    rw [(h.executors epoch e hexec).token] at hep
    omega

/-- The start of a job: no lease is out and none of its stages has succeeded. -/
def System.fresh (db : Db) (stages : Table JobStageRun.identity) : System :=
  ⟨⟨⟨db, []⟩, stages⟩, fun _ => none, []⟩

theorem sound_fresh {db : Db} (hlease : NoLease db)
    (hjob : ∃ job, db.jobs.get? jobId = some job ∧ job.parentJobId ≠ some jobId)
    (hstag : ∀ stage, (System.fresh db stages).control.succeeded jobId stage = false) :
    Sound jobId order (System.fresh db stages) where
  fencing := fencing_start hlease
  job := hjob
  executors epoch e he := by cases he
  counted stage := by
    rw [hstag]
    rfl
  ordered stage hstage := by
    rw [hstag] at hstage
    cases hstage

end Runs

/-- In every run of the executors of one job, with crashes and retries in any interleaving, the
success of a stage is recorded at most once and after the stages required before it, no move
takes it back, and an executor records only under the live lease.  An executor that still works
on a recorded stage is one that was superseded meanwhile, and can record nothing. -/
theorem stage_success_is_recorded_once (planner : PlannerIdentity) (jobId : String)
    (order : List Stage) (db : Db) (stages : Table JobStageRun.identity) (hlease : NoLease db)
    (hjob : ∃ job, db.jobs.get? jobId = some job ∧ job.parentJobId ≠ some jobId)
    (hstages : ∀ stage, (System.fresh db stages).control.succeeded jobId stage = false)
    (moves : List Move) :
    let s := (System.fresh db stages).run planner jobId order moves
    (∀ stage, s.successes stage = if s.control.succeeded jobId stage then 1 else 0) ∧
      (∀ stage, s.control.succeeded jobId stage = true →
        ∃ passed rest, order = passed ++ stage :: rest ∧
          ∀ st ∈ passed, s.control.succeeded jobId st = true) ∧
      (∀ move stage, s.control.succeeded jobId stage = true →
        (s.apply planner jobId order move).control.succeeded jobId stage = true) ∧
      (∀ move epoch, move.executor? = some epoch → LeasedMove planner jobId order s move epoch) ∧
      ∀ epoch e stage, s.executors epoch = some e → e.engaged? = some stage →
        s.control.succeeded jobId stage = true →
        Superseded jobId s.control epoch ∧ ∀ now, s.holdsLease jobId epoch now = false := by
  intro s
  have hsound : Sound jobId order s := (sound_fresh hlease hjob hstages).run planner moves
  refine ⟨hsound.counted, hsound.ordered, ?_, ?_, ?_⟩
  · intro move stage hstage
    exact (hsound.apply planner move).2.succeeded stage hstage
  · intro move epoch hmove
    exact hsound.leased planner hmove
  · intro epoch e stage hexec hengaged hstage
    have hsuperseded := (hsound.executors epoch e hexec).superseded stage hengaged hstage
    exact ⟨hsuperseded, hsound.holdsLease_of_superseded hsuperseded⟩

def sampleStages : List Move :=
  [.queue (.claim sampleRequest sampleEnvironment), .start sampleToken, .read 1, .enter 1 5,
    .call 1, .returnFrom 1 ⟨[], .ok ()⟩, .commit 1 ⟨6, 7, 8⟩ none]

theorem finalize_succeeds_once :
    let s := (System.fresh sampleQueue .empty).run samplePlanner "finalize-1" [.finalize]
      sampleStages
    s.control.succeeded "finalize-1" .finalize = true ∧ s.successes .finalize = 1 := by
  intro s
  have hstage : s.control.succeeded "finalize-1" .finalize = true := by decide +kernel
  have hrun := stage_success_is_recorded_once samplePlanner "finalize-1" [.finalize] sampleQueue
    .empty noLease_sampleQueue ⟨_, rfl, by decide⟩ (fun _ => rfl) sampleStages
  refine ⟨hstage, ?_⟩
  rw [hrun.1 .finalize, if_pos hstage]

def sampleLater : ClaimEnvironment where
  globalLock := true
  clock k := 1000000000 + k
  rowLocked _ _ := false
  dateLock _ := true
  uuid := "2"

def sampleSecondToken : ClaimToken :=
  { jobId := "finalize-1", leaseOwner := "worker-2", leaseEpoch := 2, attemptId := "attempt-2"
    componentInstanceId := "component-2" }

/-- The first executor passes its lease check and stalls; after its lease expired a second one
claims the job, runs the stage and records it; then the first one calls its handler. -/
def sampleStall : List Move :=
  [.queue (.claim sampleRequest sampleEnvironment), .start sampleToken, .read 1, .enter 1 5,
    .queue (.claim ⟨"worker-2", "component-2", 60, [.finalize], none, none⟩ sampleLater),
    .start sampleSecondToken, .read 2, .enter 2 1000000005, .call 2, .returnFrom 2 ⟨[], .ok ()⟩,
    .commit 2 ⟨1000000006, 1000000007, 1000000008⟩ none, .call 1, .returnFrom 1 ⟨[], .ok ()⟩,
    .commit 1 ⟨1000000009, 1000000010, 1000000011⟩ none]

/-- The handler of a stage runs once more after the success of the stage was recorded. -/
theorem recorded_stage_is_called_by_stale_executor :
    ((System.fresh sampleQueue .empty).run samplePlanner "finalize-1" [.finalize]
      sampleStall).log =
      [⟨.called, .finalize, 2⟩, ⟨.succeeded, .finalize, 2⟩, ⟨.called, .finalize, 1⟩] := by
  decide +kernel

end DyData.Stages
