/-
The delivery invariant of the two queues: whatever raises and whichever workers
stop, every id in flight has its row, no id is ever delivered twice, no job is
in the wrong queue, and each queue is first in, first out.
-/

import ImagePipeline.Cluster.Ownership

namespace ImagePipeline.Properties.Delivery

open Common
open Cluster
open Api.CreateJob (Routed newRow)
open Library (Machine FifoLog)

section Definitions

variable {R P W Image : Type} {site : Deployment R P W Image}

/-- The ids in both queues and all ids ever removed from one. -/
def idsSeen (state : State site) : List JobId :=
  ((state.queue .jobsDefault).popped ++ (state.queue .jobsDefault).items) ++
    ((state.queue .jobsHeavy).popped ++ (state.queue .jobsHeavy).items)

structure Delivered (state : State site) : Prop where
  /-- `get_job` finds every job that is waiting or held. -/
  known : ∀ jobId,
    ((∃ name, jobId ∈ (state.queue name).items) ∨ ∃ worker, state.holds worker jobId) →
      (∃ row ∈ state.stores.jobs.rows, row.jobId = jobId) ∧
        ∃ metadata, state.stores.jobs.getJob jobId = .ok metadata
  once : (idsSeen state).Nodup
  /-- No two workers execute one job, and an executed job is in no queue. -/
  executedOnce : ∀ worker jobId, state.holds worker jobId →
    (∀ name, jobId ∉ (state.queue name).items) ∧
      ∀ colleague, state.holds colleague jobId → colleague = worker
  isolated : ∀ name jobId, jobId ∈ (state.queue name).pushed →
    ∃ row ∈ state.stores.jobs.rows, row.jobId = jobId ∧
      ∃ pipeline heavy, pipelineFromJson row.pipeline = .ok pipeline ∧
        Api.isHeavyPipeline site.runtime pipeline = .ok heavy ∧
        (name = .jobsHeavy ↔ heavy = true)
  /-- The ids removed so far are those that `push_job` appended first, in that
  order. -/
  inOrder : ∀ name,
    (state.queue name).popped <+: State.appends site name state.pushCalls

end Definitions

section Results

variable {R P W Image : Type} {site : Deployment R P W Image}

theorem targetQueue_eq_heavy (heavy : Bool) :
    Api.targetQueue heavy = .jobsHeavy ↔ heavy = true := by
  cases heavy <;> decide

theorem idsSeen_nodup {state : State site} (owned : state.Ownership)
    (delivered : state.Deliveries) : (idsSeen state).Nodup := by
  have each (name : QueueName) :
      ((state.queue name).popped ++ (state.queue name).items).Nodup :=
    FifoLog.nodup_iff.mp (delivered.pushedOnce owned name)
  have pushed {name : QueueName} {jobId : JobId}
      (member : jobId ∈ (state.queue name).popped ++ (state.queue name).items) :
      jobId ∈ (state.queue name).pushed :=
    FifoLog.mem_pushed.mpr (List.mem_append.mp member)
  refine List.nodup_append.mpr ⟨each .jobsDefault, each .jobsHeavy, ?_⟩
  rintro jobId inDefault other inHeavy rfl
  have same := delivered.one_queue (pushed inDefault) (pushed inHeavy)
  cases same

variable [DecidableEq R] [DecidableEq P] [DecidableEq W]

theorem queues_deliver {state : State site}
    (reached : (machine site).Reachable anything state) : Delivered state := by
  obtain ⟨owned, delivered, holders⟩ := State.reachable_invariants reached
  refine ⟨?_, idsSeen_nodup owned delivered, ?_, ?_, ?_⟩
  · intro jobId somewhere
    have pushed : ∃ name, jobId ∈ (state.queue name).pushed := by
      rcases somewhere with ⟨name, waiting⟩ | ⟨worker, held⟩
      · exact ⟨name, FifoLog.mem_pushed.mpr (.inr waiting)⟩
      · exact ⟨_, FifoLog.mem_pushed.mpr (.inl (holders.popped worker jobId held))⟩
    obtain ⟨name, pushed⟩ := pushed
    obtain ⟨row, member, rfl, pipeline, heavy, decoded, _⟩ :=
      State.row_of_pushed owned delivered pushed
    obtain ⟨metadata, found, _⟩ := JobsTable.getJob_of_mem member decoded
    exact ⟨⟨row, member, rfl⟩, metadata, found⟩
  · intro worker jobId held
    have gone := holders.popped worker jobId held
    constructor
    · intro name waiting
      have same := delivered.one_queue (FifoLog.mem_pushed.mpr (.inr waiting))
        (FifoLog.mem_pushed.mpr (.inl gone))
      exact FifoLog.not_popped_of_waiting (delivered.pushedOnce owned name) waiting (same ▸ gone)
    · intro colleague heldToo
      exact holders.alone colleague worker jobId heldToo held
  · intro name jobId pushed
    obtain ⟨row, member, sameId, pipeline, heavy, decoded, classified, rfl⟩ :=
      State.row_of_pushed owned delivered pushed
    exact ⟨row, member, sameId, pipeline, heavy, decoded, classified, targetQueue_eq_heavy heavy⟩
  · intro name
    rw [← delivered.pushed name]
    exact FifoLog.popped_prefix _

/-- A retry is answered from the first request's row while a worker holds the
job. -/
theorem queues_deliver_retried :
    ∃ state : State smallSite, state.holds () firstJob ∧
      (state.requests true).hasEnded = true ∧ Delivered state := by
  refine ⟨(machine smallSite).finalState anything
    (.start false :: List.replicate 5 (.request false 0 .answered) ++
      [.start true, .worker () .answered, .request true 0 .answered]), ?_, ?_,
    queues_deliver (.finalState _)⟩
  · unfold State.holds
    decide +kernel
  · decide +kernel

end Results

end ImagePipeline.Properties.Delivery
