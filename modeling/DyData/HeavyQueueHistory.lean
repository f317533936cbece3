import DyData.HeavyQueueFencing

/-!
The attempt history of one job: what the counters of its row, its attempts and the component
bound to the current one have to do with each other, and how each write keeps that.
-/

namespace DyData.HeavyQueue

open Relational List

/-- The numbers `1..n`. -/
def sequenceTo (n : Int) : List Int := (range n.toNat).map fun i : Nat => (i : Int) + 1

theorem sequenceTo_succ {n : Int} (h : 0 ≤ n) : sequenceTo (n + 1) = sequenceTo n ++ [n + 1] := by
  have hnat : (n + 1).toNat = n.toNat + 1 := by omega
  have hlast : ((n.toNat : Int)) + 1 = n + 1 := by omega
  unfold sequenceTo
  rw [hnat, range_succ, map_append, map_singleton, hlast]

theorem length_sequenceTo (n : Int) : (sequenceTo n).length = n.toNat := by
  simp [sequenceTo]

def JobAttempt.isPause (a : JobAttempt) : Bool :=
  a.finishedAt.isSome && a.errorCode.any fun code => schedulerPauseMarkers.contains code

theorem schedulerPauses_eq (attempts : List JobAttempt) :
    schedulerPauses attempts = attempts.countP JobAttempt.isPause := rfl

/-- Every attempt that was still open is closed with the code; the others are as they were. -/
def Closes (code : Option String) (attempts attempts' : List JobAttempt) : Prop :=
  ∃ close : JobAttempt → JobAttempt, (∀ a, (close a).identity = a.identity) ∧
    (∀ a, (close a).finishedAt.isSome) ∧ (∀ a, (close a).errorCode = code) ∧
    attempts' = attempts.map fun a => if a.unfinished then close a else a

section Closes

variable {code : Option String} {attempts attempts' : List JobAttempt}

variable (h : Closes code attempts attempts')
include h

theorem Closes.identities :
    attempts'.map JobAttempt.identity = attempts.map JobAttempt.identity := by
  obtain ⟨_, hidn, -, -, rfl⟩ := h
  exact map_rewrite hidn JobAttempt.unfinished attempts

theorem Closes.map {α : Type*} (f : AttemptIdentity → α) :
    attempts'.map (fun a => f a.identity) = attempts.map fun a => f a.identity := by
  have hmap := congrArg (List.map f) h.identities
  simpa only [map_map, Function.comp_def] using hmap

theorem Closes.finished : attempts'.filter JobAttempt.unfinished = [] := by
  obtain ⟨_, -, hfin, -, rfl⟩ := h
  rw [filter_eq_nil_iff]
  intro a ha
  obtain ⟨b, -, rfl⟩ := mem_map.mp ha
  cases hb : b.unfinished with
  | true =>
    have hsome := hfin b
    simpa [JobAttempt.unfinished, Option.isSome_iff_ne_none] using hsome
  | false => simp [hb]

theorem Closes.mem {a : JobAttempt} (ha : a ∈ attempts') :
    ∃ b ∈ attempts, a.identity = b.identity := by
  have hmem : a.identity ∈ attempts.map JobAttempt.identity := by
    rw [← h.identities]
    exact mem_map_of_mem ha
  obtain ⟨b, hb, heq⟩ := mem_map.mp hmem
  exact ⟨b, hb, heq.symm⟩

/-- Closing adds one pause for each open attempt when the code marks a pause, and none
otherwise. -/
theorem Closes.pauses :
    schedulerPauses attempts' = schedulerPauses attempts +
      if code.any (fun c => schedulerPauseMarkers.contains c)
      then (attempts.filter JobAttempt.unfinished).length else 0 := by
  obtain ⟨close, -, hfin, hcode, rfl⟩ := h
  rw [schedulerPauses_eq, schedulerPauses_eq]
  -- row by row: an open row is no pause before and is one afterwards exactly under a marker
  induction attempts with
  | nil => simp
  | cons a attempts ih =>
    rw [map_cons, countP_cons, countP_cons, ih, filter_cons]
    cases ha : a.unfinished with
    | true =>
      have hopen : a.isPause = false := by
        have hnone : a.finishedAt = none := by simpa [JobAttempt.unfinished] using ha
        simp [JobAttempt.isPause, hnone]
      have hcls : (close a).isPause = code.any fun c => schedulerPauseMarkers.contains c := by
        simp [JobAttempt.isPause, hfin a, hcode a]
      simp only [if_true, hopen, hcls, Bool.false_eq_true, if_false, length_cons]
      split <;> omega
    | false =>
      simp only [Bool.false_eq_true, if_false]
      omega

end Closes

/-- What the queue records of a job agrees with its counters: the attempts are numbered `1..n`
with the epochs, the pauses among them cover the pause counter, exactly one attempt is open
while the job runs, and only that one is bound to its component.  Under `strict`, which
stands for real failures that carry no pause marker, the counter is the number of pauses. -/
structure Healthy (strict : Prop) (bound : AttemptIdentity → Prop) (attempts : List JobAttempt)
    (job : JobRun) : Prop where
  counted : 0 ≤ job.attempts
  numbers : attempts.map (fun a => a.identity.attemptNumber) = sequenceTo job.attempts
  epochs : attempts.map (fun a => a.identity.leaseEpoch) = sequenceTo job.attempts
  epoch : job.epoch = job.attempts
  workers : ∀ a ∈ attempts, a.componentType = .worker
  limit : 1 ≤ job.attemptLimit ∧ job.attemptLimit ≤ 3 ∧ job.maxAttempts.getD 3 = job.attemptLimit
  quota : 0 ≤ job.quotaPauseCount ∧ job.quotaPauseCount ≤ schedulerPauses attempts
  marked : strict → (schedulerPauses attempts : Int) = job.quotaPauseCount
  owned : isPriorityResourceConfig job.configVersion = false → job.quotaPauseCount = 0
  budget : job.attempts ≤ job.attemptLimit + job.quotaPauseCount
  waiting : job.status = .pending ∨ job.status = .retryWait →
    job.leaseOwner = none ∧ job.leaseExpiresAt = none ∧
      job.attempts < job.attemptLimit + job.quotaPauseCount
  idle : job.status ≠ .running → attempts.filter JobAttempt.unfinished = []
  running : job.status = .running →
    (∃ owner, job.leaseOwner = some owner ∧ PythonText.strip owner ≠ "") ∧
      ∃ a, attempts.filter JobAttempt.unfinished = [a] ∧ a.leaseEpoch = job.epoch ∧
        bound a.identity
  released : ∀ a ∈ attempts, a.unfinished = false → ¬ bound a.identity

structure SameCounters (job job' : JobRun) : Prop where
  attemptCount : job'.attemptCount = job.attemptCount
  leaseEpoch : job'.leaseEpoch = job.leaseEpoch
  maxAttempts : job'.maxAttempts = job.maxAttempts
  configVersion : job'.configVersion = job.configVersion

section Counters

variable {job job' : JobRun} (h : SameCounters job job')

include h

theorem SameCounters.attempts_eq : job'.attempts = job.attempts := by
  unfold JobRun.attempts
  rw [h.attemptCount]

theorem SameCounters.epoch_eq : job'.epoch = job.epoch := by
  unfold JobRun.epoch
  rw [h.leaseEpoch]

theorem SameCounters.attemptLimit_eq : job'.attemptLimit = job.attemptLimit := by
  unfold JobRun.attemptLimit
  rw [h.maxAttempts]

end Counters

section Steps

variable {strict : Prop} {bound bound' : AttemptIdentity → Prop} {attempts attempts' : List JobAttempt}
  {job job' : JobRun} {code : Option String}

variable (h : Healthy strict bound attempts job)
include h

theorem Healthy.length : (attempts.length : Int) = job.attempts := by
  have hlen := congrArg List.length h.numbers
  rw [length_map, length_sequenceTo] at hlen
  have hcnt := h.counted
  omega

theorem Healthy.quota_le : job.quotaPauseCount ≤ job.attempts := by
  have hpaus : schedulerPauses attempts ≤ attempts.length := countP_le_length
  have hlen := h.length
  have hquo := h.quota.2
  omega

theorem Healthy.open_unique {a b : JobAttempt} (ha : a ∈ attempts) (hopen : a.unfinished = true)
    (hb : b ∈ attempts) (hopen' : b.unfinished = true) : a = b ∧ job.status = .running := by
  have hmem : a ∈ attempts.filter JobAttempt.unfinished := mem_filter.mpr ⟨ha, hopen⟩
  have hmem' : b ∈ attempts.filter JobAttempt.unfinished := mem_filter.mpr ⟨hb, hopen'⟩
  by_cases hstat : job.status = .running
  · obtain ⟨-, _, hc, -⟩ := h.running hstat
    rw [hc, mem_singleton] at hmem hmem'
    exact ⟨hmem.trans hmem'.symm, hstat⟩
  · rw [h.idle hstat] at hmem
    cases hmem

/-- The row leaves the running state, its open attempt is closed and no longer bound. -/
theorem Healthy.close (hcls : Closes code attempts attempts') (hcnts : SameCounters job job')
    (hbd : ∀ i, bound' i → bound i ∧ ∀ a ∈ attempts, a.unfinished = true → a.identity ≠ i)
    (hstop : job'.status ≠ .running)
    (hquo : job'.quotaPauseCount = job.quotaPauseCount ∨
      (job'.quotaPauseCount = job.quotaPauseCount + 1 ∧ job.status = .running ∧
      code.any (fun c => schedulerPauseMarkers.contains c) = true ∧
      isPriorityResourceConfig job.configVersion = true))
    (hplain : strict → job'.quotaPauseCount = job.quotaPauseCount →
      code.any (fun c => schedulerPauseMarkers.contains c) = false)
    (hwait : job'.status = .pending ∨ job'.status = .retryWait → job'.leaseOwner = none ∧
      job'.leaseExpiresAt = none ∧ job.attempts < job.attemptLimit + job'.quotaPauseCount) :
    Healthy strict bound' attempts' job' := by
  have hatts := hcnts.attempts_eq
  have hlim := hcnts.attemptLimit_eq
  have hpaus := hcls.pauses
  refine
    { counted := hatts ▸ h.counted
      numbers := ?_
      epochs := ?_
      epoch := by rw [hcnts.epoch_eq, hatts, h.epoch]
      workers := ?_
      limit := by rw [hlim, hcnts.maxAttempts]; exact h.limit
      quota := ?_
      marked := ?_
      owned := ?_
      budget := ?_
      waiting := ?_
      idle := fun _ => hcls.finished
      running := fun hrun => absurd hrun hstop
      released := ?_ }
  · rw [hcls.map AttemptIdentity.attemptNumber, hatts]
    exact h.numbers
  · rw [hcls.map AttemptIdentity.leaseEpoch, hatts]
    exact h.epochs
  · intro a ha
    obtain ⟨b, hb, hidn⟩ := hcls.mem ha
    exact (congrArg AttemptIdentity.componentType hidn).trans (h.workers b hb)
  · have hbase := h.quota
    rcases hquo with hsame | ⟨hmore, hrun, hmark, -⟩
    · split at hpaus <;> omega
    · obtain ⟨-, a, ha, -⟩ := h.running hrun
      rw [if_pos hmark, ha, length_singleton] at hpaus
      omega
  · intro hstr
    have hbase := h.marked hstr
    rcases hquo with hsame | ⟨hmore, hrun, hmark, -⟩
    · rw [hplain hstr hsame, if_neg Bool.false_ne_true] at hpaus
      omega
    · obtain ⟨-, a, ha, -⟩ := h.running hrun
      rw [if_pos hmark, ha, length_singleton] at hpaus
      omega
  · intro hconf
    rw [hcnts.configVersion] at hconf
    rcases hquo with hsame | ⟨-, -, -, hprio⟩
    · rw [hsame, h.owned hconf]
    · rw [hconf] at hprio
      cases hprio
  · have hbase := h.budget
    rcases hquo with hsame | ⟨hmore, -⟩
    · omega
    · omega
  · intro hstat
    obtain ⟨hown, hexp, _⟩ := hwait hstat
    exact ⟨hown, hexp, by omega⟩
  · intro a ha _ hboundTo
    obtain ⟨b, hb, hidn⟩ := hcls.mem ha
    obtain ⟨hbef, hopen⟩ := hbd _ hboundTo
    rw [hidn] at hbef
    cases hfin : b.unfinished with
    | true => exact hopen b hb hfin hidn.symm
    | false => exact h.released b hb hfin hbef

/-- The next attempt is recorded: it is the open one, bound to the claiming component. -/
theorem Healthy.start (hcls : Closes code attempts attempts')
    (hcode : code.any (fun c => schedulerPauseMarkers.contains c) = false) {request : ClaimRequest}
    {uuid : String} {now : Timestamp} {new : JobAttempt}
    (hnew : new = newAttempt request uuid now job) (hown : PythonText.strip request.leaseOwner ≠ "")
    (hroom : job.attempts < job.attemptLimit + job.quotaPauseCount) (hbd : bound' new.identity)
    (hrel : ∀ a ∈ attempts', ¬ bound' a.identity) : Healthy strict bound' (attempts' ++ [new])
      (job.start request (job.attempts + 1) (job.epoch + 1) now) := by
  have hatts : (job.start request (job.attempts + 1) (job.epoch + 1) now).attempts =
      job.attempts + 1 := orDefault_zero _
  have hep := start_epoch request (job.attempts + 1) (job.epoch + 1) now job
  have hcnt := h.counted
  have hpaus : schedulerPauses (attempts' ++ [new]) = schedulerPauses attempts := by
    have hopen : new.isPause = false := by rw [hnew]; rfl
    have hclos := hcls.pauses
    rw [hcode, if_neg Bool.false_ne_true, Nat.add_zero] at hclos
    rw [← hclos, schedulerPauses_eq, schedulerPauses_eq]
    simp [hopen]
  have hunf : new.unfinished = true := by rw [hnew]; rfl
  refine
    { counted := by rw [hatts]; omega
      numbers := ?_
      epochs := ?_
      epoch := by rw [hep, hatts, h.epoch]
      workers := ?_
      limit := h.limit
      quota := by rw [hpaus]; exact h.quota
      marked := by rw [hpaus]; exact h.marked
      owned := h.owned
      budget := ?_
      waiting := fun hwait => by rcases hwait with hwait | hwait <;> cases hwait
      idle := fun hidle => absurd rfl hidle
      running := ?_
      released := ?_ }
  · rw [map_append, hcls.map AttemptIdentity.attemptNumber, h.numbers, hatts,
      sequenceTo_succ hcnt, hnew]
    rfl
  · rw [map_append, hcls.map AttemptIdentity.leaseEpoch, h.epochs, hatts,
      sequenceTo_succ hcnt, hnew, ← h.epoch]
    rfl
  · intro a ha
    rcases mem_append.mp ha with ha | ha
    · obtain ⟨b, hb, hidn⟩ := hcls.mem ha
      exact (congrArg AttemptIdentity.componentType hidn).trans (h.workers b hb)
    · rw [mem_singleton.mp ha, hnew]
      rfl
  · have hlim : (job.start request (job.attempts + 1) (job.epoch + 1) now).attemptLimit =
        job.attemptLimit := rfl
    have hquo : (job.start request (job.attempts + 1) (job.epoch + 1) now).quotaPauseCount =
        job.quotaPauseCount := rfl
    omega
  · intro _
    refine ⟨⟨request.leaseOwner, rfl, hown⟩, new, ?_, ?_, hbd⟩
    · rw [filter_append, hcls.finished]
      simp [hunf]
    · rw [hep, hnew]
      rfl
  · intro a ha hfin
    rcases mem_append.mp ha with ha | ha
    · exact hrel a ha
    · rw [mem_singleton.mp ha, hunf] at hfin
      cases hfin

/-- A write that touches neither counters, status nor the lease's owner. -/
theorem Healthy.keep (hcnts : SameCounters job job')
    (hbd : ∀ a ∈ attempts, bound' a.identity ↔ bound a.identity)
    (hquo : job'.quotaPauseCount = job.quotaPauseCount) (hstat : job'.status = job.status)
    (hown : job'.leaseOwner = job.leaseOwner)
    (hexp : job.status ≠ .running → job'.leaseExpiresAt = job.leaseExpiresAt) :
    Healthy strict bound' attempts job' := by
  have hatts := hcnts.attempts_eq
  have hlim := hcnts.attemptLimit_eq
  refine
    { counted := hatts ▸ h.counted
      numbers := hatts ▸ h.numbers
      epochs := hatts ▸ h.epochs
      epoch := by rw [hcnts.epoch_eq, hatts, h.epoch]
      workers := h.workers
      limit := by rw [hlim, hcnts.maxAttempts]; exact h.limit
      quota := hquo ▸ h.quota
      marked := hquo ▸ h.marked
      owned := by rw [hcnts.configVersion, hquo]; exact h.owned
      budget := by rw [hatts, hlim, hquo]; exact h.budget
      waiting := ?_
      idle := hstat ▸ h.idle
      running := ?_
      released := fun a ha hfin hboundTo =>
        h.released a ha hfin ((hbd a ha).mp hboundTo) }
  · intro hwait
    rw [hstat] at hwait
    obtain ⟨hnone, hlease, hroom⟩ := h.waiting hwait
    have hidle : job.status ≠ .running := by
      rcases hwait with hw | hw <;> rw [hw] <;> decide
    rw [hown, hexp hidle, hatts, hlim, hquo]
    exact ⟨hnone, hlease, hroom⟩
  · intro hrun
    rw [hstat] at hrun
    obtain ⟨hleas, a, ha, hep, hboundTo⟩ := h.running hrun
    have hmem : a ∈ attempts.filter JobAttempt.unfinished := by rw [ha]; exact mem_singleton_self a
    rw [hown, hcnts.epoch_eq]
    exact ⟨hleas, a, ha, hep, (hbd a (mem_filter.mp hmem).1).mpr hboundTo⟩

end Steps

end DyData.HeavyQueue
