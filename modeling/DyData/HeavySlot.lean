import DyData.HeavyQueueClaim
import DyData.ProjectionPublish

/-!
The database that all heavy work shares: the job queue with its attempts and components, and
the settlement projection whose publications the rebuilds and compactions record.
-/

namespace DyData.HeavySlot

open Relational
open DyData.HeavyQueue

structure Slot where
  projection : Projection.Db
  attempts : Table JobAttempt.attemptId
  components : Table ComponentHeartbeat.componentInstanceId
  attemptNumbers : (attempts.rows.map fun a => (a.jobId, a.attemptNumber)).Nodup
  attemptEpochs : (attempts.rows.map fun a => (a.jobId, a.leaseEpoch)).Nodup

namespace Slot

abbrev jobs (s : Slot) : Table JobRun.jobId := s.projection.jobs

abbrev events (s : Slot) : List JobEvent := s.projection.events

def queue (s : Slot) : HeavyQueue.Db :=
  { jobs := s.jobs, attempts := s.attempts, components := s.components, events := s.events
    attemptNumbers := s.attemptNumbers, attemptEpochs := s.attemptEpochs }

def updateJobs (s : Slot) (p : JobRun → Bool) (f : JobRun → JobRun)
    (hf : ∀ job, (f job).jobId = job.jobId) : Slot :=
  { s with projection := { s.projection with jobs := s.jobs.update p f hf } }

/-- `job.… = …` on the row of one job. -/
def updateJob (s : Slot) (jobId : String) (f : JobRun → JobRun)
    (hf : ∀ job, (f job).jobId = job.jobId) : Slot :=
  s.updateJobs (fun job => job.jobId = jobId) f hf

section Frame

variable (s : Slot) (jobId : String) (f : JobRun → JobRun)
  (hf : ∀ job, (f job).jobId = job.jobId)

theorem get?_updateJob (id : String) : (s.updateJob jobId f hf).jobs.get? id =
      (s.jobs.get? id).map fun job => if job.jobId = jobId then f job else job := by
  change (s.jobs.update (fun job => job.jobId = jobId) f hf).get? id = _
  rw [Table.get?_update]
  simp only [decide_eq_true_eq]

end Frame

theorem get?_updateJob_self {s : Slot} {jobId : String} {f : JobRun → JobRun}
    {hf : ∀ job, (f job).jobId = job.jobId} {row : JobRun} (hrow : s.jobs.get? jobId = some row) :
    (s.updateJob jobId f hf).jobs.get? jobId = some (f row) := by
  rw [get?_updateJob, hrow, Option.map_some, if_pos (s.jobs.key_of_get? hrow)]

end Slot

end DyData.HeavySlot
