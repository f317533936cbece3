import DyData.ProjectionPublishSpec

/-!
Histories of the settlement pointer: any interleaving of the three publishers with the
builders that stage, certify, fail or discard generations, the workers that claim and finish
jobs, and other job events.  The row lock of the pointer makes each publication one step.
-/

namespace DyData.Projection

open Relational List Option
open DyData.HeavyQueue (JobRun JobEvent)

variable {db db' : Db} {jobId key id : String} {ctx : PublishContext} {p q : Publication}
  {g : Generation}

inductive Action
  | publish (p : Publication) (clock : PublishClock)
  | build (g : Generation)
  | discard (generationId : String)
  | putJob (job : JobRun)
  | addEvent (e : JobEvent)

namespace Db

/-- A builder writes a generation row: neither the old row nor the new one is published, and
the fingerprint stays unique. -/
def build (db : Db) (g : Generation) : Db :=
  if g.state = .published ∨
      (db.generations.get? g.generationId).any (fun old => old.state = .published) = true then db
  else if h : ((db.generations.put g).rows.map Generation.inputFingerprint).Nodup then
    { db with generations := db.generations.put g, fingerprints := h }
  else db

def discard (db : Db) (generationId : String) : Db :=
  { db with
    generations := db.generations.delete fun g =>
      g.generationId = generationId && g.state ≠ .published
    fingerprints := db.fingerprints.sublist (filter_sublist.map _) }

def putJob (db : Db) (job : JobRun) : Db :=
  if (db.jobs.get? job.jobId).any (fun old => old.parentJobId ≠ job.parentJobId) then db
  else { db with jobs := db.jobs.put job }

def apply (ctx : PublishContext) (db : Db) : Action → Db
  | .publish p clock =>
    match p.run ctx clock db with
    | .ok db' => db'
    | .error _ => db
  | .build g => db.build g
  | .discard generationId => db.discard generationId
  | .putJob job => db.putJob job
  | .addEvent e => { db with events := db.events ++ [e] }

def run (ctx : PublishContext) (db : Db) (actions : List Action) : Db :=
  actions.foldl (apply ctx) db

def isPublished (db : Db) (id : String) : Bool :=
  (db.generations.get? id).any fun g => g.state = .published

def publications (ctx : PublishContext) (id : String) : Db → List Action → Nat
  | _, [] => 0
  | db, a :: actions =>
    (if !db.isPublished id && (db.apply ctx a).isPublished id then 1 else 0) +
      publications ctx id (db.apply ctx a) actions

end Db

inductive Effect (db db' : Db) : Prop
  | kept (hpublished : db.SamePublished db') (hactive : db'.active = db.active)
  | promoted (g : Generation) (base : String) (now : HeavyQueue.Timestamp)
      (hg : db.generations.get? g.generationId = some g) (hbase : g.recordedBase = some base)
      (hactive : db.active = some (some base)) (hready : g.state = .ready)
      (hgenerations : db'.generations = (db.promote g.generationId now).generations)
      (hpointer : db'.active = some (some g.generationId))

theorem build_samePublished (db : Db) (g : Generation) : db.SamePublished (db.build g) := by
  unfold Db.build
  split
  · exact .refl db
  · rename_i hopen
    rw [not_or] at hopen
    split
    · intro id row hstt
      rw [Table.get?_put]
      split
      · rename_i hid
        subst hid
        constructor
        · intro hrow
          have hany := hopen.2
          rw [hrow] at hany
          simp [hstt] at hany
        · intro hrow
          cases hrow
          exact absurd hstt hopen.1
      · rfl
    · exact .refl db

theorem discard_samePublished (db : Db) (generationId : String) :
    db.SamePublished (db.discard generationId) := by
  intro id row hstt
  change _ ↔ (db.generations.delete _).get? id = some row
  rw [Table.get?_delete]
  simp [hstt]

theorem Recorded.frame (h : Recorded db jobId key db') :
    db'.generations = db.generations ∧ db'.active = db.active ∧ db'.jobs = db.jobs := by
  rcases h with ⟨_, rfl⟩ | ⟨_, e, _, _, rfl⟩
  · exact ⟨rfl, rfl, rfl⟩
  · exact ⟨rfl, rfl, rfl⟩

theorem samePublished_of_eq (h : db'.generations = db.generations) : db.SamePublished db' := by
  intro id g _
  rw [h]

def Db.ParentOf (db : Db) (jobId : String) (parent : Option String) : Prop :=
  ∃ job, db.jobs.get? jobId = some job ∧ job.parentJobId = parent

theorem parentOf_of_eq (hjobs : db'.jobs = db.jobs) {parent : Option String}
    (h : db.ParentOf jobId parent) : db'.ParentOf jobId parent := by
  unfold Db.ParentOf
  rw [hjobs]
  exact h

/-- What an action may do: besides its effect on the pointer it adds events, and it moves no job
to another parent. -/
structure Progress (db db' : Db) : Prop where
  effect : Effect db db'
  events : ∃ added, db'.events = db.events ++ added
  parents : ∀ {jobId parent}, db.ParentOf jobId parent → db'.ParentOf jobId parent

theorem Progress.kept (hpub : db.SamePublished db') (hact : db'.active = db.active)
    (hevs : db'.events = db.events) (hjobs : db'.jobs = db.jobs) : Progress db db' :=
  ⟨.kept hpub hact, ⟨[], by rw [hevs, append_nil]⟩, parentOf_of_eq hjobs⟩

theorem Publication.Returned.jobs (h : p.Returned ctx db db') : db'.jobs = db.jobs := by
  obtain ⟨_, _, _, -, -, hprom, -, hrec⟩ := h.steps
  rw [hrec.frame.2.2]
  rcases hprom with ⟨-, -, rfl⟩ | ⟨base, now, -, -, -, rfl⟩
  · rfl
  · rfl

theorem Publication.Returned.progress (h : p.Returned ctx db db') : Progress db db' := by
  obtain ⟨g, promoted, _, hg, -, hprom, -, hrec⟩ := h.steps
  obtain ⟨hgens, hact, -⟩ := hrec.frame
  have hid : g.generationId = p.generationId := db.generations.key_of_get? hg
  have hevs : ∃ added, db'.events = promoted.events ++ added := by
    rcases hrec with ⟨-, rfl⟩ | ⟨-, e, -, -, rfl⟩
    · exact ⟨[], (append_nil _).symm⟩
    · exact ⟨[e], rfl⟩
  rcases hprom with ⟨-, -, rfl⟩ | ⟨base, now, hbase, hptr, hrdy, rfl⟩
  · exact ⟨.kept (samePublished_of_eq hgens) hact, hevs, parentOf_of_eq h.jobs⟩
  · exact ⟨.promoted g base now (by rw [hid]; exact hg) hbase hptr hrdy hgens hact,
      hevs, parentOf_of_eq h.jobs⟩

theorem apply_progress (ctx : PublishContext) (db : Db) (a : Action) :
    Progress db (db.apply ctx a) := by
  have hsame : Progress db db := .kept (.refl db) rfl rfl rfl
  cases a with
  | publish p clock =>
    change Progress db (match p.run ctx clock db with | .ok db' => db' | .error _ => db)
    split
    · rename_i hrun
      exact (Publication.run_ok hrun).progress
    · exact hsame
  | build g =>
    have hfrm : (db.build g).active = db.active ∧ (db.build g).events = db.events ∧
        (db.build g).jobs = db.jobs := by
      unfold Db.build
      split
      · exact ⟨rfl, rfl, rfl⟩
      · split <;> exact ⟨rfl, rfl, rfl⟩
    exact .kept (build_samePublished db g) hfrm.1 hfrm.2.1 hfrm.2.2
  | discard generationId => exact .kept (discard_samePublished db generationId) rfl rfl rfl
  | putJob job =>
    change Progress db (db.putJob job)
    unfold Db.putJob
    split
    · exact hsame
    · rename_i hkept
      refine ⟨.kept (samePublished_of_eq rfl) rfl, hsame.events, ?_⟩
      rintro jobId parent ⟨row, hrow, hpar⟩
      change ∃ job', (db.jobs.put job).get? jobId = some job' ∧ _
      rw [Table.get?_put]
      by_cases hid : jobId = job.jobId
      · subst hid
        rw [hrow] at hkept
        simp only [any_some, decide_eq_true_eq, not_not] at hkept
        exact ⟨job, if_pos rfl, hkept.symm.trans hpar⟩
      · exact ⟨row, by rw [if_neg hid]; exact hrow, hpar⟩
  | addEvent e => exact ⟨.kept (samePublished_of_eq rfl) rfl, ⟨[e], rfl⟩, parentOf_of_eq rfl⟩

theorem Effect.published_row (h : Effect db db') (hg : db.generations.get? id = some g)
    (hstt : g.state = .published) : db'.generations.get? id = some g := by
  cases h with
  | kept hpub _ => exact (hpub id g hstt).mp hg
  | promoted target base now htgt _ _ hrdy hgens _ =>
    have hne : g.generationId ≠ target.generationId := by
      intro he
      rw [← he, db.generations.key_of_get? hg, hg] at htgt
      cases htgt
      rw [hstt] at hrdy
      cases hrdy
    rw [hgens, Db.get?_promote, hg, map_some, if_neg hne]

theorem published_row_run (ctx : PublishContext) (actions : List Action)
    (hg : db.generations.get? id = some g) (hstt : g.state = .published) :
    (db.run ctx actions).generations.get? id = some g := by
  induction actions generalizing db with
  | nil => exact hg
  | cons a actions ih => exact ih ((apply_progress ctx db a).effect.published_row hg hstt)

theorem isPublished_iff : db.isPublished id = true ↔
    ∃ g, db.generations.get? id = some g ∧ g.state = .published := by
  unfold Db.isPublished
  cases db.generations.get? id <;> simp

theorem isPublished_apply (ctx : PublishContext) (a : Action) (h : db.isPublished id = true) :
    (db.apply ctx a).isPublished id = true := by
  obtain ⟨g, hg, hstt⟩ := isPublished_iff.mp h
  exact isPublished_iff.mpr ⟨g, (apply_progress ctx db a).effect.published_row hg hstt, hstt⟩

theorem publications_of_published (ctx : PublishContext) (actions : List Action)
    (h : db.isPublished id = true) : db.publications ctx id actions = 0 := by
  induction actions generalizing db with
  | nil => rfl
  | cons a actions ih =>
    rw [Db.publications, ih (isPublished_apply ctx a h), h]
    rfl

theorem publications_le_one (ctx : PublishContext) (id : String) (actions : List Action)
    (db : Db) : db.publications ctx id actions ≤ 1 := by
  induction actions generalizing db with
  | nil => exact Nat.zero_le 1
  | cons a actions ih =>
    rw [Db.publications]
    by_cases haft : (db.apply ctx a).isPublished id = true
    · -- published from here on, so this step is the only one that can count
      rw [publications_of_published ctx actions haft]
      split <;> omega
    · have hrest := ih (db.apply ctx a)
      simp only [haft, Bool.and_false, Bool.false_eq_true, if_false]
      omega

theorem onceEvent_append {added : List JobEvent} (hevs : db'.events = db.events ++ added)
    (h : (db.onceEvent? jobId key).isSome) : (db'.onceEvent? jobId key).isSome := by
  unfold Db.onceEvent? at h ⊢
  rw [hevs, find?_append]
  cases hfd : db.events.find? (fun e => e.jobId = jobId && e.idempotencyKey = some key) with
  | none => simp [hfd] at h
  | some e => rfl

theorem onceEvent_run (ctx : PublishContext) (actions : List Action)
    (h : (db.onceEvent? jobId key).isSome) :
    ((db.run ctx actions).onceEvent? jobId key).isSome := by
  induction actions generalizing db with
  | nil => exact h
  | cons a actions ih =>
    obtain ⟨_, hadded⟩ := (apply_progress ctx db a).events
    exact ih (onceEvent_append hadded h)

theorem parentOf_run (ctx : PublishContext) (actions : List Action) {parent : Option String}
    (h : db.ParentOf jobId parent) : (db.run ctx actions).ParentOf jobId parent := by
  induction actions generalizing db with
  | nil => exact h
  | cons a actions ih => exact ih ((apply_progress ctx db a).parents h)

theorem Recorded.onceEvent (h : Recorded db jobId key db') : (db'.onceEvent? jobId key).isSome := by
  rcases h with ⟨hsome, rfl⟩ | ⟨-, e, hjob, hkey, rfl⟩
  · exact hsome
  · unfold Db.onceEvent?
    rw [find?_isSome]
    exact ⟨e, by simp, by simp [hjob, hkey]⟩

/-- After a publication its generation is published, under the publication's fingerprint. -/
theorem Publication.Returned.published (h : p.Returned ctx db db') :
    ∃ g, db'.generations.get? p.generationId = some g ∧
      g.state = .published ∧ g.inputFingerprint = p.inputFingerprint := by
  obtain ⟨g, _, _, hg, hfp, hprom, -, hrec⟩ := h.steps
  rw [hrec.frame.1]
  rcases hprom with ⟨-, hstt, rfl⟩ | ⟨base, now, -, -, -, rfl⟩
  · exact ⟨g, hg, hstt, hfp⟩
  · refine ⟨g.publish now, ?_, rfl, hfp⟩
    rw [Db.get?_promote, hg, map_some, if_pos rfl]

theorem Publication.onceKey_eq (sha256 : String → String) (hsame : q.SamePublisher p)
    (hjob : q.jobId = p.jobId) (hfp : q.inputFingerprint = p.inputFingerprint)
    (hp : p.OwnedIn db) (hkept : ∀ parent, db.ParentOf p.jobId parent → db'.ParentOf p.jobId parent)
    (hq : q.OwnedIn db') : q.onceKey sha256 = p.onceKey sha256 := by
  cases p with
  | finalize m jobId stage =>
    cases q with
    | finalize m' jobId' stage' =>
      obtain rfl : jobId' = jobId := hjob
      obtain ⟨row, hrow, hpar⟩ := hkept _ hp
      obtain ⟨_, hrow', hpar'⟩ := hq
      change db'.jobs.get? jobId' = some row at hrow
      rw [hrow] at hrow'
      cases hrow'
      rw [hpar] at hpar'
      change projectionPublishOnceKey sha256 m'.parentJobId m'.inputFingerprint =
        projectionPublishOnceKey sha256 m.parentJobId m.inputFingerprint
      rw [← some.inj hpar', show m'.inputFingerprint = m.inputFingerprint from hfp]
    | rebuild _ => exact hsame.elim
    | compaction _ => exact hsame.elim
  | rebuild p =>
    cases q with
    | rebuild q =>
      change settlementRebuildPublishOnceKey sha256 q.jobId q.inputFingerprint =
        settlementRebuildPublishOnceKey sha256 p.jobId p.inputFingerprint
      rw [show q.jobId = p.jobId from hjob, show q.inputFingerprint = p.inputFingerprint from hfp]
    | finalize _ _ _ => exact hsame.elim
    | compaction _ => exact hsame.elim
  | compaction p =>
    cases q with
    | compaction q =>
      change settlementCompactionPublishOnceKey sha256 q.jobId q.inputFingerprint =
        settlementCompactionPublishOnceKey sha256 p.jobId p.inputFingerprint
      rw [show q.jobId = p.jobId from hjob, show q.inputFingerprint = p.inputFingerprint from hfp]
    | finalize _ _ _ => exact hsame.elim
    | rebuild _ => exact hsame.elim

/-- A publication of a generation already published, with its event on record, writes
nothing. -/
theorem Publication.Returned.unchanged (h : q.Returned ctx db db')
    (hg : db.generations.get? id = some g) (hstt : g.state = .published)
    (hfp : g.inputFingerprint = q.inputFingerprint) (hkey : q.onceKey ctx.sha256 = .ok key)
    (hevent : (db.onceEvent? q.jobId key).isSome) : db' = db := by
  obtain ⟨g', _, key', hg', hfp', hprom, hkey', hrec⟩ := h.steps
  have hsame : g' = g := db.generation_unique (db.generations.mem_of_get? hg')
    (db.generations.mem_of_get? hg) (hfp'.trans hfp.symm)
  obtain rfl : key' = key := Except.ok.inj (hkey'.symm.trans hkey)
  rcases hprom with ⟨-, -, rfl⟩ | ⟨base, now, -, -, hrdy, -⟩
  · rcases hrec with ⟨-, rfl⟩ | ⟨hnone, -⟩
    · rfl
    · rw [hnone] at hevent
      cases hevent
  · rw [hsame, hstt] at hrdy
    cases hrdy

/-- A publication that returned is not repeated: whatever happened since, the same publisher
called for the same job and fingerprint leaves the database as it is. -/
theorem repeat_unchanged (ctx : PublishContext) (h : p.Returned ctx db db') (later : List Action)
    (clock : PublishClock) (hsame : q.SamePublisher p) (hjob : q.jobId = p.jobId)
    (hfp : q.inputFingerprint = p.inputFingerprint) :
    (db'.run ctx later).apply ctx (.publish q clock) = db'.run ctx later := by
  change (match q.run ctx clock (db'.run ctx later) with
    | .ok result => result
    | .error _ => db'.run ctx later) = db'.run ctx later
  split
  · rename_i hrun
    have hq := Publication.run_ok hrun
    obtain ⟨_, hg, hstt, hg'⟩ := h.published
    obtain ⟨_, _, _, -, -, -, hkey, hrec⟩ := h.steps
    have hpar : ∀ parent, db.ParentOf p.jobId parent →
        (db'.run ctx later).ParentOf p.jobId parent := fun parent hrow =>
      parentOf_run ctx later (parentOf_of_eq h.jobs hrow)
    have hkeys := Publication.onceKey_eq ctx.sha256 hsame hjob hfp h.owned hpar
      hq.owned
    refine hq.unchanged (published_row_run ctx later hg hstt) hstt
      (hg'.trans hfp.symm) (hkeys.trans hkey) ?_
    rw [hjob]
    exact onceEvent_run ctx later hrec.onceEvent
  · rfl

/-- A publisher whose recorded base is not the active head moves nothing. -/
theorem stale_publication (ctx : PublishContext) (db : Db) (p : Publication) (clock : PublishClock)
    (hstale : ∀ g, db.generations.get? p.generationId = some g → db.active ≠ some g.recordedBase) :
    (db.apply ctx (.publish p clock)).active = db.active ∧
      (db.apply ctx (.publish p clock)).generations = db.generations := by
  change (match p.run ctx clock db with | .ok db' => db' | .error _ => db).active = _ ∧
    (match p.run ctx clock db with | .ok db' => db' | .error _ => db).generations = _
  split
  · rename_i hrun
    obtain ⟨g, _, _, hg, -, hprom, -, hrec⟩ := (Publication.run_ok hrun).steps
    obtain ⟨hgens, hact, -⟩ := hrec.frame
    rcases hprom with ⟨-, -, rfl⟩ | ⟨base, now, hbase, hptr, -, -⟩
    · exact ⟨hact, hgens⟩
    · exact absurd (hptr.trans (congrArg some hbase.symm)) (hstale g hg)
  · exact ⟨rfl, rfl⟩

/-- Over every interleaving, from any database: the pointer moves only from the recorded base
of a ready generation to that generation, which is published by that step; no generation is
published twice; a repeated publication writes nothing; a publisher whose base is no longer
active leaves the pointer and the generations alone. -/
theorem published_history_is_a_chain (ctx : PublishContext) (start : Db) (actions : List Action) :
    (∀ a, ((start.run ctx actions).apply ctx a).active ≠ (start.run ctx actions).active →
      ∃ g base now, (start.run ctx actions).generations.get? g.generationId = some g ∧
        g.recordedBase = some base ∧ (start.run ctx actions).active = some (some base) ∧
        ((start.run ctx actions).apply ctx a).active = some (some g.generationId) ∧
        ((start.run ctx actions).apply ctx a).generations.get? g.generationId =
          some (g.publish now)) ∧
    (∀ id, start.publications ctx id actions ≤ 1) ∧
    (∀ (p : Publication) clock db', p.run ctx clock (start.run ctx actions) = .ok db' →
      ∀ later (q : Publication) clock', q.SamePublisher p → q.jobId = p.jobId →
        q.inputFingerprint = p.inputFingerprint →
        (db'.run ctx later).apply ctx (.publish q clock') = db'.run ctx later) ∧
    ∀ (p : Publication) clock, (∀ g, (start.run ctx actions).generations.get? p.generationId = some g →
        (start.run ctx actions).active ≠ some g.recordedBase) →
      ((start.run ctx actions).apply ctx (.publish p clock)).active =
          (start.run ctx actions).active ∧
        ((start.run ctx actions).apply ctx (.publish p clock)).generations =
          (start.run ctx actions).generations := by
  refine ⟨?_, ?_, ?_, ?_⟩
  · intro a hmoved
    cases (apply_progress ctx (start.run ctx actions) a).effect with
    | kept _ hactive => exact absurd hactive hmoved
    | promoted g base now hg hbase hactive _ hgenerations hpointer =>
      refine ⟨g, base, now, hg, hbase, hactive, hpointer, ?_⟩
      rw [hgenerations, Db.get?_promote, hg, map_some, if_pos rfl]
  · intro id
    exact publications_le_one ctx id actions start
  · intro p clock db' hrun later q clock' hsame hjob hfingerprint
    exact repeat_unchanged ctx (Publication.run_ok hrun) later clock' hsame hjob hfingerprint
  · intro p clock hstale
    exact stale_publication ctx _ p clock hstale

def sampleDigest (c : Char) : String := String.ofList (replicate 64 c)

def sampleProjection : Db where
  generations := ⟨[
    { generationId := "root", generationKind := .legacyRoot, state := .published
      inputFingerprint := sampleDigest 'a', manifestChecksum := some (sampleDigest 'b') },
    { generationId := "rebuild-1", baseGenerationId := some "root", state := .ready
      lineageDepth := 1, inputFingerprint := sampleDigest 'c'
      manifestChecksum := some (sampleDigest 'd') }], by decide⟩
  active := some (some "root")
  manifests := .empty
  closure := .empty
  overlays := []
  jobs := ⟨[
    { jobId := "job-1", jobName := "settlement_rebuild", status := .running
      claimToken := some "claim-1", leaseExpiresAt := some 100 }], by decide⟩
  events := []
  fingerprints := by decide

def samplePublication : Publication :=
  .rebuild
    { jobId := "job-1"
      claimId := "claim-1"
      generationId := "rebuild-1"
      baseGenerationId := "root"
      inputFingerprint := sampleDigest 'c'
      manifestChecksum := sampleDigest 'd' }

def sampleContext : PublishContext := ⟨fun _ => sampleDigest '0', fun _ _ => .ok ()⟩

/-- The rebuild becomes the head, and publishing it again changes nothing. -/
theorem repeated_rebuild_publication :
    (sampleProjection.run sampleContext [.publish samplePublication ⟨1, 2, 3, 4⟩]).active =
        some (some "rebuild-1") ∧
      (sampleProjection.run sampleContext [.publish samplePublication ⟨1, 2, 3, 4⟩]).apply
          sampleContext (.publish samplePublication ⟨5, 6, 7, 8⟩) =
        sampleProjection.run sampleContext [.publish samplePublication ⟨1, 2, 3, 4⟩] := by
  have hactive : (sampleProjection.run sampleContext
      [.publish samplePublication ⟨1, 2, 3, 4⟩]).active = some (some "rebuild-1") := by
    decide +kernel
  refine ⟨hactive, ?_⟩
  obtain ⟨db', hrun⟩ : ∃ db', samplePublication.run sampleContext ⟨1, 2, 3, 4⟩ sampleProjection =
      .ok db' := by
    cases hrun : samplePublication.run sampleContext ⟨1, 2, 3, 4⟩ sampleProjection with
    | ok db' => exact ⟨db', rfl⟩
    | error e =>
      have hmoved : sampleProjection.run sampleContext
          [.publish samplePublication ⟨1, 2, 3, 4⟩] = sampleProjection := by
        simp only [Db.run, foldl_cons, foldl_nil, Db.apply, hrun]
      rw [hmoved] at hactive
      exact absurd hactive (by decide)
  have hstep : sampleProjection.run sampleContext [.publish samplePublication ⟨1, 2, 3, 4⟩] =
      db' := by
    simp only [Db.run, foldl_cons, foldl_nil, Db.apply, hrun]
  rw [hstep]
  exact (published_history_is_a_chain sampleContext sampleProjection []).2.2.1 samplePublication
    ⟨1, 2, 3, 4⟩ db' hrun [] samplePublication ⟨5, 6, 7, 8⟩ trivial rfl rfl

end DyData.Projection
