/-
No invisible PENDING job: while the database works and pops lose nothing, every
PENDING row is in the queue chosen for it, with a worker that has not marked it
yet, or with its own request. Each row is followed from one owner to the next.
-/

import ImagePipeline.Cluster.Statuses

namespace ImagePipeline.Properties.Visibility

open Common
open Cluster
open Api.CreateJob (Routed newRow)
open Library (Machine FifoLog)

/-- Redis calls of the API raise `RedisError` with or without effect, storage
calls raise anything, database calls do not raise, a pop that raises removes
nothing, and no worker is stopped. -/
def redisFailures : Environment :=
  { request := fun phase reply =>
      match phase with
      | .checkLength _ | .push _ => reply.redisOnly
      | .uploadImage _ => true
      | _ => reply = .answered
    worker := fun phase reply =>
      match phase with
      | .idle => reply.faithful
      | .download _ _ _ | .uploadResult _ _ _ _ => true
      | _ => reply = .answered
    stops := false }

/-- `mark_processing` has not been executed yet for the job the worker holds. -/
def beforeProcessing : Worker.RunOnce.Phase → Option JobId
  | .getJob jobId | .markProcessing jobId _ => some jobId
  | _ => none

section Definitions

variable {R P W Image : Type} {site : Deployment R P W Image}

/-- Somebody will still deal with the job. -/
inductive Visible (state : State site) (jobId : JobId) : Prop where
  | inFlight (request : R) (own : site.jobId request = jobId)
      (submitting : (state.requests request).submitting = true)
  | waiting (name : QueueName) (member : jobId ∈ (state.queue name).items)
  | picked (worker : W) (early : beforeProcessing (state.workers worker) = some jobId)

def AllVisible (state : State site) : Prop :=
  ∀ jobId, state.stores.jobs.statusOf jobId = some .pending → Visible state jobId

end Definitions

section Requests

variable {runtime : Runtime} {request : Api.CreateJob.Request} {maxQueueLength : Nat}
  {jobId : JobId} {stores after : Stores} {now : Timestamp} {reply : Reply}
  {phase next : Api.CreateJob.Phase runtime request}

theorem request_items
    (effect : Api.CreateJob.Effect jobId stores now phase reply after next)
    {name : QueueName} {waiting : JobId} (member : waiting ∈ (stores.queues name).items) :
    waiting ∈ (after.queues name).items := by
  cases effect with
  | quiet _ queues =>
      rw [queues]
      exact member
  | inserted => exact member
  | pushCall routed =>
      by_cases same : name = routed.target
      · subst name
        rw [Stores.setQueue_same, Reply.write]
        split
        · exact List.mem_cons_of_mem _ member
        · exact member
      · rw [Stores.setQueue_other _ _ same]
        exact member

private theorem afterPush_redis {routed : Routed runtime request} {fault : Fault}
    (redis : fault.exn.isRedisError = true) :
    Api.CreateJob.Phase.afterPush jobId routed (.error fault.exn) = .markFailed routed :=
  if_pos redis

theorem request_submitting
    (served : Api.CreateJob.Served maxQueueLength jobId stores now phase reply after next)
    (permitted : redisFailures.request phase reply = true) (submitting : phase.submitting = true) :
    next.submitting = true ∨ (∃ name, jobId ∈ (after.queues name).items) ∨
      after.jobs.statusOf jobId ≠ some .pending := by
  cases served with
  | pushed =>
      rename_i routed took
      refine .inr (.inl ⟨routed.target, ?_⟩)
      rw [Stores.setQueue_same]
      exact List.mem_cons_self
  | unpushed =>
      rw [afterPush_redis permitted]
      exact .inl rfl
  | marked =>
      exact .inr (.inr (JobsTable.statusOf_updateStatus_ne _ _ nofun))
  | unmarked => cases permitted
  | failed early =>
      rw [Api.CreateJob.Phase.not_submitting_of_early early] at submitting
      cases submitting
  | hit => cases submitting
  | hitAgain => cases submitting
  | miss => cases submitting
  | rejected => cases submitting
  | admitted => cases submitting
  | stored => cases submitting
  | inserted => cases submitting
  | refused => cases submitting

end Requests

section Workers

variable {R P W Image : Type} {site : Deployment R P W Image} {before : State site}
  {queueName : QueueName} {stores : Stores} {reply : Reply} {phase next : Worker.RunOnce.Phase}

theorem worker_items
    (served : Worker.RunOnce.Served site.runtime site.imaging queueName before.stores phase reply
      stores next)
    (permitted : redisFailures.worker phase reply = true) {name : QueueName} {jobId : JobId}
    (member : jobId ∈ (before.stores.queues name).items) :
    jobId ∈ (stores.queues name).items ∨ beforeProcessing next = some jobId := by
  cases served with
  | dropped => cases permitted
  | picked popped =>
      rename_i gone rest
      by_cases same : name = queueName
      · subst name
        rw [(FifoLog.pop?_spec popped).1, List.mem_append, List.mem_singleton] at member
        rcases member with stays | rfl
        · rw [Stores.setQueue_same]
          exact .inl stays
        · exact .inr rfl
      · rw [Stores.setQueue_other _ _ same]
        exact .inl member
  | polled => exact .inl member
  | loaded => exact .inl member
  | unloaded => exact .inl member
  | started => exact .inl member
  | unstarted => exact .inl member
  | rendered => exact .inl member
  | downloadAgain => exact .inl member
  | uploadAgain => exact .inl member
  | downloadFailed => exact .inl member
  | uploadFailed => exact .inl member
  | uploaded => exact .inl member
  | finished => exact .inl member
  | unfinished => exact .inl member
  | failed => exact .inl member
  | unfailed => exact .inl member

theorem worker_pending
    (served : Worker.RunOnce.Served site.runtime site.imaging queueName before.stores phase reply
      stores next) {jobId : JobId} (pending : stores.jobs.statusOf jobId = some .pending) :
    before.stores.jobs.statusOf jobId = some .pending := by
  rcases worker_status served jobId with same | ⟨_, _, _, written, write, changed⟩
  · exact same.symm.trans pending
  · rw [changed] at pending
    obtain ⟨old, _, rfl⟩ := Option.map_eq_some_iff.mp pending
    cases write with
    | last _ terminal => cases terminal

theorem worker_early (owned : before.Ownership)
    (served : Worker.RunOnce.Served site.runtime site.imaging queueName before.stores phase reply
      stores next)
    (permitted : redisFailures.worker phase reply = true) {jobId : JobId}
    (early : beforeProcessing phase = some jobId) :
    beforeProcessing next = some jobId ∨ stores.jobs.statusOf jobId ≠ some .pending := by
  cases served with
  | loaded => exact .inl early
  | unloaded missing =>
      refine .inr fun pending => ?_
      obtain ⟨row, member, same, _⟩ := JobsTable.statusOf_isSome pending
      obtain ⟨pipeline, decoded⟩ := owned.pipeline_decodes member
      obtain rfl := Option.some.inj early
      exact missing (of_decide_eq_true permitted) row member same pipeline decoded
  | started =>
      obtain rfl := Option.some.inj early
      exact .inr (JobsTable.statusOf_updateStatus_ne _ _ nofun)
  | unstarted => cases permitted
  | polled => cases early
  | dropped => cases early
  | picked => cases early
  | rendered => cases early
  | downloadAgain => cases early
  | uploadAgain => cases early
  | downloadFailed => cases early
  | uploadFailed => cases early
  | uploaded => cases early
  | finished => cases early
  | unfinished => cases early
  | failed => cases early
  | unfailed => cases early

end Workers

section Steps

variable {R P W Image : Type} {site : Deployment R P W Image} {before after : State site}

theorem AllVisible.initial : AllVisible (State.initial site) := by
  intro jobId pending
  cases pending

theorem Visible.requested [DecidableEq R] [DecidableEq P] {request : R} {now : Timestamp}
    {reply : Reply} {stores : Stores}
    {next : Api.CreateJob.Phase site.runtime (site.request request)} {jobId : JobId}
    (visible : Visible before jobId)
    (permitted : redisFailures.request (before.requests request) reply = true)
    (served : Api.CreateJob.Served site.maxQueueLength (site.jobId request) before.stores now
      (before.requests request) reply stores next)
    (pending : stores.jobs.statusOf jobId = some .pending) :
    Visible (before.afterRequest request reply stores next) jobId := by
  cases visible with
  | waiting name member => exact .waiting name (request_items served.effect member)
  | picked worker early => exact .picked worker early
  | inFlight owner own submitting =>
      by_cases same : owner = request
      · subst owner
        rcases request_submitting served permitted submitting with still | ⟨name, member⟩ | none
        · exact .inFlight request own (by rw [State.afterRequest_same]; exact still)
        · exact .waiting name (own ▸ member)
        · exact absurd (own ▸ pending) none
      · apply Visible.inFlight owner own
        rw [before.afterRequest_other request owner reply stores next same]
        exact submitting

theorem Visible.worked [DecidableEq W] {worker : W} {reply : Reply} {stores : Stores}
    {next : Worker.RunOnce.Phase} {jobId : JobId} (owned : before.Ownership)
    (visible : Visible before jobId)
    (permitted : redisFailures.worker (before.workers worker) reply = true)
    (served : Worker.RunOnce.Served site.runtime site.imaging (site.queueName worker)
      before.stores (before.workers worker) reply stores next)
    (pending : stores.jobs.statusOf jobId = some .pending) :
    Visible (before.afterWorker worker stores next) jobId := by
  have own (early : beforeProcessing next = some jobId) :
      Visible (before.afterWorker worker stores next) jobId :=
    .picked worker (by rw [State.afterWorker_same]; exact early)
  cases visible with
  | inFlight owner own submitting => exact .inFlight owner own submitting
  | waiting name member =>
      rcases worker_items served permitted member with stays | early
      · exact .waiting name stays
      · exact own early
  | picked holder early =>
      by_cases same : holder = worker
      · subst holder
        rcases worker_early owned served permitted early with still | none
        · exact own still
        · exact absurd pending none
      · apply Visible.picked holder
        rw [before.afterWorker_other worker stores next same]
        exact early

variable [DecidableEq R] [DecidableEq P] [DecidableEq W]

theorem AllVisible.step {event : Event R W} (owned : before.Ownership)
    (visible : AllVisible before) (permitted : redisFailures.permits before event = true)
    (stepped : before.Stepped event after) : AllVisible after := by
  intro jobId pending
  cases stepped with
  | started waiting free =>
      rename_i request
      cases visible jobId pending with
      | waiting name known => exact .waiting name known
      | picked worker early => exact .picked worker early
      | inFlight owner own submitting =>
          have different : owner ≠ request := by
            rintro rfl
            rw [waiting] at submitting
            cases submitting
          exact .inFlight owner own (by
            rw [before.afterStart_other request owner different]
            exact submitting)
  | requested served =>
      rename_i request now reply stores next
      change stores.jobs.statusOf jobId = some .pending at pending
      rcases request_status served jobId with
        same | ⟨own, ⟨routed, inserting, rfl⟩, _⟩ | ⟨_, _, _, failed⟩
      · exact (visible jobId (same.symm.trans pending)).requested permitted served pending
      · have answered : reply = .answered := by
          change redisFailures.request (before.requests request) reply = true at permitted
          rw [inserting] at permitted
          exact of_decide_eq_true permitted
        subst answered
        exact .inFlight request own.symm (by rw [State.afterRequest_same]; rfl)
      · rw [failed] at pending
        obtain ⟨_, _, wrong⟩ := Option.map_eq_some_iff.mp pending
        cases wrong
  | worked served =>
      exact (visible jobId (worker_pending served pending)).worked owned permitted served pending
  | stopped => cases permitted
  | restarted dead =>
      rename_i worker
      cases visible jobId pending with
      | waiting name known => exact .waiting name known
      | inFlight owner own submitting => exact .inFlight owner own submitting
      | picked holder early =>
          have different : holder ≠ worker := by
            rintro rfl
            rw [dead] at early
            cases early
          apply Visible.picked holder
          rw [before.afterRestart_other worker different]
          exact early

/-- Every PENDING row has its request in flight, its id in the queue chosen for
it, or a worker that is about to mark it. -/
theorem pending_rows_are_visible {state : State site}
    (reached : (machine site).Reachable redisFailures.permits state) {row : JobRow}
    (member : row ∈ state.stores.jobs.rows) (pending : row.status = .pending) :
    (∃ request, site.jobId request = row.jobId ∧ (state.requests request).submitting = true) ∨
    (∃ pipeline heavy, pipelineFromJson row.pipeline = .ok pipeline ∧
      Api.isHeavyPipeline site.runtime pipeline = .ok heavy ∧
      row.jobId ∈ (state.queue (Api.targetQueue heavy)).items) ∨
    ∃ worker, beforeProcessing (state.workers worker) = some row.jobId := by
  have all : AllVisible state :=
    reached.invariant AllVisible .initial
      (fun reachedBefore visible permitted stepped =>
        visible.step (State.reachable_ownership reachedBefore) permitted
          (State.step_cases stepped))
  have known : state.stores.jobs.statusOf row.jobId = some .pending :=
    pending ▸ JobsTable.statusOf_of_mem member
  cases all row.jobId known with
  | inFlight request own submitting => exact .inl ⟨request, own, submitting⟩
  | picked worker early => exact .inr (.inr ⟨worker, early⟩)
  | waiting name waiting =>
      obtain ⟨other, memberOther, sameId, pipeline, heavy, decoded, classified, rfl⟩ :=
        State.row_of_pushed (State.reachable_ownership reached)
          (State.reachable_deliveries reached) (FifoLog.mem_pushed.mpr (.inr waiting))
      obtain rfl := JobsTable.eq_of_jobId memberOther member sameId
      exact .inr (.inl ⟨pipeline, heavy, decoded, classified, waiting⟩)

/-- The push raised, but the id is in the queue and its row is still PENDING. -/
theorem pending_rows_are_visible_timeout :
    ∃ state : State smallSite, ∃ row ∈ state.stores.jobs.rows, row.status = .pending ∧
      ((∃ request, smallSite.jobId request = row.jobId ∧
        (state.requests request).submitting = true) ∨
      (∃ pipeline heavy, pipelineFromJson row.pipeline = .ok pipeline ∧
        Api.isHeavyPipeline smallSite.runtime pipeline = .ok heavy ∧
        row.jobId ∈ (state.queue (Api.targetQueue heavy)).items) ∨
      ∃ worker, beforeProcessing (state.workers worker) = some row.jobId) := by
  let events : List (Event Bool Unit) :=
    .start false :: List.replicate 4 (.request false 0 .answered) ++
      [.request false 0 (.raised .redisTimeout true)]
  have pending : ((machine smallSite).finalState redisFailures.permits
      events).stores.jobs.statusOf firstJob = some .pending := by
    decide +kernel
  obtain ⟨row, member, _, status⟩ := JobsTable.statusOf_isSome pending
  exact ⟨_, row, member, status, pending_rows_are_visible (.finalState events) member status⟩

end Steps

end ImagePipeline.Properties.Visibility
