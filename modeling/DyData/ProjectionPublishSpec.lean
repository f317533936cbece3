import DyData.ProjectionPublish

/-!
What a publication that returned has done: it found its generation under its fingerprint,
promoted it or found it promoted, and left the once event of its job on record.
-/

namespace DyData.Projection

open Relational
open Except (of_bind)
open DyData.HeavyQueue (JobRun JobEvent Timestamp)

variable {pointer : Option String} {g : Generation} {db promoted db' : Db} {ctx : PublishContext}
  {clock : PublishClock} {job : JobRun}

@[simp] theorem require_eq_ok_iff {condition : Bool} {message : String} {u : Unit} :
    require condition message = .ok u ↔ condition = true :=
  Except.ensure_eq_ok_iff

@[simp] theorem found_eq_ok_iff {α : Type} {row : Option α} {message : String} {a : α} :
    found row message = .ok a ↔ row = some a :=
  Except.ofOption_eq_ok_iff

def Promotion (db : Db) (g : Generation) (promoted : Db) : Prop :=
  (db.active = some (some g.generationId) ∧ g.state = .published ∧ promoted = db) ∨
  ∃ base now, g.recordedBase = some base ∧ db.active = some (some base) ∧ g.state = .ready ∧
    promoted = db.promote g.generationId now

def Recorded (db : Db) (jobId key : String) (db' : Db) : Prop :=
  ((db.onceEvent? jobId key).isSome ∧ db' = db) ∨
  (db.onceEvent? jobId key = none ∧ ∃ e : JobEvent, e.jobId = jobId ∧
    e.idempotencyKey = some key ∧ db' = { db with events := db.events ++ [e] })

theorem alreadyPublished_iff :
    alreadyPublished pointer g = true ↔ pointer = some g.generationId ∧ g.state = .published := by
  simp [alreadyPublished]

theorem comparePromote_ok {base : String} {now : Timestamp} {pointerChanged notReady : String}
    (h : comparePromote db pointer g base now pointerChanged notReady = .ok promoted)
    (hact : db.active = some pointer) (hbase : g.baseGenerationId = some base) :
    Promotion db g promoted := by
  unfold comparePromote at h
  split at h
  · rename_i hpub
    obtain ⟨hptr, hstt⟩ := alreadyPublished_iff.mp hpub
    cases h
    exact .inl ⟨hact.trans (congrArg some hptr), hstt, rfl⟩
  · obtain ⟨_, hptr, h⟩ := of_bind h
    obtain ⟨_, hrdy, h⟩ := of_bind h
    simp only [require_eq_ok_iff, decide_eq_true_eq, Bool.and_eq_true] at hptr hrdy
    cases h
    exact .inr ⟨base, now, Generation.recordedBase_of_base hbase,
      hact.trans (congrArg some hptr), hrdy.1, rfl⟩

theorem verifyPromote_ok {compactionBase : String}
    (h : verifyPromote ctx clock db job pointer g compactionBase = .ok promoted)
    (hact : db.active = some pointer) (hkind : g.generationKind = .compact)
    (hbase : g.compactionBaseGenerationId = some compactionBase) : Promotion db g promoted := by
  unfold verifyPromote at h
  split at h
  · rename_i hpub
    obtain ⟨hptr, hstt⟩ := alreadyPublished_iff.mp hpub
    cases h
    exact .inl ⟨hact.trans (congrArg some hptr), hstt, rfl⟩
  · split at h
    · cases h
    · obtain ⟨_, -, h⟩ := of_bind h
      obtain ⟨_, hrdy, h⟩ := of_bind h
      obtain ⟨_, hptr, h⟩ := of_bind h
      simp only [require_eq_ok_iff, decide_eq_true_eq, Bool.and_eq_true] at hptr hrdy
      have hrec : g.recordedBase = some compactionBase := by
        rw [Generation.recordedBase, hkind]
        exact hbase
      cases h
      exact .inr ⟨compactionBase, clock.published, hrec,
        hact.trans (congrArg some hptr), hrdy.1.2, rfl⟩

theorem verifyPromote_verified {compactionBase : String}
    (h : verifyPromote ctx clock db job pointer g compactionBase = .ok promoted) :
    g.state = .published ∨ ctx.reverify db g.generationId = .ok () := by
  unfold verifyPromote at h
  split at h
  · rename_i hpub
    exact .inl (alreadyPublished_iff.mp hpub).2
  · split at h
    · cases h
    · rename_i hver
      exact .inr hver

theorem recordOnce_ok {key : String} {event : OnceEvent} {occurredAt : Timestamp}
    (h : db.recordOnce job key event occurredAt = .ok db') : Recorded db job.jobId key db' := by
  unfold Db.recordOnce at h
  split at h
  · rename_i hex
    split at h
    · cases h
    · refine .inl ⟨?_, (Except.ok.inj h).symm⟩
      rw [hex]
      rfl
  · rename_i hnone
    cases h
    exact .inr ⟨hnone, event.toJobEvent job key occurredAt, rfl, rfl, rfl⟩

/-- A call of one of the publishers.  The stage runner hands the mutation its own job row. -/
inductive Publication
  | finalize (mutation : ProjectionPublishMutation) (jobId : String) (stage : JobStageRun)
  | rebuild (arguments : RebuildPublication)
  | compaction (arguments : CompactionPublication)
deriving DecidableEq

namespace Publication

def jobId : Publication → String
  | finalize _ jobId _ => jobId
  | rebuild p => p.jobId
  | compaction p => p.jobId

def generationId : Publication → String
  | finalize m _ _ => m.generationId
  | rebuild p => p.generationId
  | compaction p => p.generationId

def inputFingerprint : Publication → String
  | finalize m _ _ => m.inputFingerprint
  | rebuild p => p.inputFingerprint
  | compaction p => p.inputFingerprint

def SamePublisher : Publication → Publication → Prop
  | finalize _ _ _, finalize _ _ _ => True
  | rebuild _, rebuild _ => True
  | compaction _, compaction _ => True
  | _, _ => False

def onceKey (sha256 : String → String) : Publication → Except PublishError String
  | finalize m _ _ => projectionPublishOnceKey sha256 m.parentJobId m.inputFingerprint
  | rebuild p => settlementRebuildPublishOnceKey sha256 p.jobId p.inputFingerprint
  | compaction p => settlementCompactionPublishOnceKey sha256 p.jobId p.inputFingerprint

def OwnedIn (db : Db) : Publication → Prop
  | finalize m jobId _ => ∃ job, db.jobs.get? jobId = some job ∧
      job.parentJobId = some m.parentJobId
  | rebuild _ => True
  | compaction _ => True

def run (ctx : PublishContext) (clock : PublishClock) (db : Db) :
    Publication → Except PublishError Db
  | finalize arguments jobId stage => do
    let m ← makeProjectionPublishMutation arguments
    let job ← found (db.jobs.get? jobId) "job is missing"
    m.apply ctx clock db job stage
  | rebuild p => (publishSettlementRebuild ctx clock db p).map Prod.fst
  | compaction p => (publishSettlementCompaction ctx clock db p).map Prod.fst

def Evidence (ctx : PublishContext) (db : Db) (g : Generation) : Publication → Prop
  | finalize _ _ _ => g.generationKind = .lineage
  | rebuild _ => g.generationKind = .lineage
  | compaction _ => g.generationKind = .compact ∧
      (∃ base checksum, checkCompactionCheckpoint g.checkpointJson base checksum = .ok ()) ∧
      (g.state = .published ∨ ctx.reverify db g.generationId = .ok ())

/-- What is true of a publication that returned `db'`. -/
structure Returned (ctx : PublishContext) (p : Publication) (db db' : Db) : Prop where
  owned : p.OwnedIn db
  evidence : ∀ g, db.generations.get? p.generationId = some g → p.Evidence ctx db g
  steps : ∃ g promoted key, db.generations.get? p.generationId = some g ∧
    g.inputFingerprint = p.inputFingerprint ∧ Promotion db g promoted ∧
    p.onceKey ctx.sha256 = .ok key ∧ Recorded promoted p.jobId key db'

end Publication

theorem makeProjectionPublishMutation_ok {m m' : ProjectionPublishMutation}
    (h : makeProjectionPublishMutation m = .ok m') : m' = m := by
  have hidn : ∀ {label value result : String}, identity label value = .ok result →
      result = value := by
    intro label value result hr
    unfold identity at hr
    split at hr
    · cases hr
    · cases hr
      rfl
  have hdig : ∀ {label value result : String}, digest label value = .ok result →
      result = value := by
    intro label value result hr
    unfold digest at hr
    split at hr
    · cases hr
      rfl
    · cases hr
  obtain ⟨_, h1, h⟩ := of_bind h
  obtain ⟨_, h2, h⟩ := of_bind h
  obtain ⟨_, h3, h⟩ := of_bind h
  obtain ⟨_, h4, h⟩ := of_bind h
  obtain ⟨_, h5, h⟩ := of_bind h
  cases h
  rw [hidn h1, hidn h2, hdig h3, hdig h4, hidn h5]

theorem apply_returned {m : ProjectionPublishMutation} {jobId : String} {stage : JobStageRun}
    (hrun : (Publication.finalize m jobId stage).run ctx clock db = .ok db') :
    (Publication.finalize m jobId stage).Returned ctx db db' := by
  obtain ⟨_, hmake, h⟩ := of_bind hrun
  obtain rfl := makeProjectionPublishMutation_ok hmake
  clear hrun
  obtain ⟨job, hjob, h⟩ := of_bind h
  rw [found_eq_ok_iff] at hjob
  unfold ProjectionPublishMutation.apply at h
  obtain ⟨_, hown, h⟩ := of_bind h
  obtain ⟨_, hptr, h⟩ := of_bind h
  obtain ⟨g, hg, h⟩ := of_bind h
  obtain ⟨_, hmeta, h⟩ := of_bind h
  obtain ⟨_, -, h⟩ := of_bind h
  obtain ⟨promoted, hprom, h⟩ := of_bind h
  obtain ⟨key, hkey, h⟩ := of_bind h
  simp only [require_eq_ok_iff, bool_to_prop] at hown hmeta
  rw [found_eq_ok_iff] at hptr hg
  have hrec := recordOnce_ok h
  rw [db.jobs.key_of_get? hjob] at hrec
  refine ⟨⟨job, hjob, hown.2⟩, ?_, g, promoted, key, hg, hmeta.2,
    comparePromote_ok hprom hptr hmeta.1.2, hkey, hrec⟩
  -- a generation with a base is no compaction
  intro g' hg'
  obtain rfl := Option.some.inj (hg.symm.trans hg')
  refine hmeta.1.1.resolve_right fun hcomp => ?_
  have hchk := g.kindCheck
  simp [kindBaseDepth, hcomp, hmeta.1.2] at hchk

/-- What `publish_settlement_rebuild` has found and recorded when it returns. -/
structure RebuildSteps (ctx : PublishContext) (clock : PublishClock) (db : Db)
    (p : RebuildPublication) (job : JobRun) (g : Generation) (promoted db' : Db) : Prop where
  valid : p.validate = .ok ()
  row : db.jobs.get? p.jobId = some job
  name : job.jobName = "settlement_rebuild"
  claimed : claimActive job p.claimId clock.claimCheck = true
  live : leaseLive job clock.lockCheck = true
  generation : db.generations.get? p.generationId = some g
  kind : g.generationKind = .lineage
  base : g.baseGenerationId = some p.baseGenerationId
  fingerprint : g.inputFingerprint = p.inputFingerprint
  checksum : g.manifestChecksum = some p.manifestChecksum
  promotion : Promotion db g promoted
  recorded : ∃ key, settlementRebuildPublishOnceKey ctx.sha256 p.jobId p.inputFingerprint =
      .ok key ∧
    promoted.recordOnce job key
      { stageRunId := none
        status := job.status
        reason := "settlement rebuild projection published"
        conflict := "settlement rebuild publication once event conflicts"
        payload := publicationPayload p.inputFingerprint p.generationId p.manifestChecksum
          p.baseGenerationId } clock.occurred = .ok db'

theorem publishSettlementRebuild_ok {p : RebuildPublication} {payload : List (String × String)}
    (h : publishSettlementRebuild ctx clock db p = .ok (db', payload)) :
    ∃ job g promoted, RebuildSteps ctx clock db p job g promoted db' := by
  obtain ⟨_, hval, h⟩ := of_bind h
  obtain ⟨job, hjob, h⟩ := of_bind h
  obtain ⟨_, hclm, h⟩ := of_bind h
  obtain ⟨_, hptr, h⟩ := of_bind h
  obtain ⟨g, hg, h⟩ := of_bind h
  obtain ⟨_, hmeta, h⟩ := of_bind h
  obtain ⟨_, hsum, h⟩ := of_bind h
  obtain ⟨_, hlive, h⟩ := of_bind h
  obtain ⟨promoted, hprom, h⟩ := of_bind h
  obtain ⟨key, hkey, h⟩ := of_bind h
  obtain ⟨recorded, hrec, h⟩ := of_bind h
  simp only [require_eq_ok_iff, Bool.and_eq_true, decide_eq_true_eq] at hmeta hsum
  rw [require_eq_ok_iff] at hclm hlive
  rw [found_eq_ok_iff] at hptr hg hjob
  obtain ⟨hrow, hname⟩ := Option.filter_eq_some_iff.mp hjob
  cases h
  exact ⟨job, g, promoted, {
    valid := hval
    row := hrow
    name := of_decide_eq_true hname
    claimed := hclm
    live := hlive
    generation := hg
    kind := hmeta.1.1.1
    base := hmeta.1.1.2
    fingerprint := hmeta.1.2
    checksum := hsum
    promotion := comparePromote_ok hprom hptr hmeta.1.1.2
    recorded := ⟨key, hkey, hrec⟩ }⟩

theorem rebuild_returned {p : RebuildPublication}
    (hrun : (Publication.rebuild p).run ctx clock db = .ok db') :
    (Publication.rebuild p).Returned ctx db db' := by
  obtain ⟨⟨_, _⟩, h, rfl⟩ := Except.map_eq_ok_iff.mp hrun
  obtain ⟨_, g, promoted, steps⟩ := publishSettlementRebuild_ok h
  obtain ⟨key, hkey, hreco⟩ := steps.recorded
  have hrec := recordOnce_ok hreco
  rw [db.jobs.key_of_get? steps.row] at hrec
  refine ⟨trivial, ?_, g, promoted, key, steps.generation, steps.fingerprint, steps.promotion,
    hkey, hrec⟩
  intro g' hg'
  obtain rfl := Option.mem_unique steps.generation hg'
  exact steps.kind

theorem compaction_returned {p : CompactionPublication}
    (hrun : (Publication.compaction p).run ctx clock db = .ok db') :
    (Publication.compaction p).Returned ctx db db' := by
  obtain ⟨⟨_, _⟩, h, rfl⟩ := Except.map_eq_ok_iff.mp hrun
  obtain ⟨_, -, h⟩ := of_bind h
  obtain ⟨_, hjob, h⟩ := of_bind h
  obtain ⟨_, -, h⟩ := of_bind h
  obtain ⟨_, hptr, h⟩ := of_bind h
  obtain ⟨g, hg, h⟩ := of_bind h
  obtain ⟨_, hmeta, h⟩ := of_bind h
  obtain ⟨_, hbase, h⟩ := of_bind h
  obtain ⟨_, hcp, h⟩ := of_bind h
  obtain ⟨promoted, hprom, h⟩ := of_bind h
  obtain ⟨key, hkey, h⟩ := of_bind h
  obtain ⟨_, hreco, h⟩ := of_bind h
  simp only [require_eq_ok_iff, Bool.and_eq_true, decide_eq_true_eq] at hmeta
  rw [found_eq_ok_iff] at hptr hg hjob hbase
  have hrow := (Option.filter_eq_some_iff.mp hjob).1
  have hrec := recordOnce_ok hreco
  rw [db.jobs.key_of_get? hrow] at hrec
  cases h
  refine ⟨trivial, ?_, g, promoted, key, hg, hmeta.1.2,
    verifyPromote_ok hprom hptr hmeta.1.1.1.1.1 hbase, hkey, hrec⟩
  intro g' hg'
  obtain rfl := Option.mem_unique hg hg'
  exact ⟨hmeta.1.1.1.1.1, ⟨_, _, hcp⟩, verifyPromote_verified hprom⟩

theorem Publication.run_ok {p : Publication} (h : p.run ctx clock db = .ok db') :
    p.Returned ctx db db' := by
  cases p with
  | finalize m jobId stage => exact apply_returned h
  | rebuild p => exact rebuild_returned h
  | compaction p => exact compaction_returned h

end DyData.Projection
