/-
Workers that stop. A popped id is kept nowhere but in the worker, and nothing
ever puts it back: a job survives a stop only if it was settled before.
-/

import ImagePipeline.Cluster.Statuses

namespace ImagePipeline.Properties.WorkerStops

open Common
open Cluster
open Library (Machine FifoLog)

/-- API and stores are healthy: every call returns. Workers may be stopped. -/
def healthy : Environment :=
  { request := fun _ reply => reply = .answered
    worker := fun _ reply => reply = .answered
    stops := true }

section Definitions

variable {R P W Image : Type} {site : Deployment R P W Image}

def Settled (state : State site) (jobId : JobId) : Prop :=
  ∃ status, state.stores.jobs.statusOf jobId = some status ∧ status.terminal = true

/-- Every popped job is with a worker, was with a worker when that was stopped,
or has its last status. -/
def Accounted (state : State site) : Prop :=
  ∀ name jobId, jobId ∈ (state.queue name).popped →
    (∃ worker, state.holds worker jobId) ∨ jobId ∈ state.abandoned ∨ Settled state jobId

/-- An abandoned job was popped, and nobody holds it any more. -/
def Gone (state : State site) : Prop :=
  ∀ jobId ∈ state.abandoned, (∃ name, jobId ∈ (state.queue name).popped) ∧
    ∀ worker, ¬ state.holds worker jobId

theorem status_of_popped {state : State site} (owned : state.Ownership)
    (delivered : state.Deliveries) {name : QueueName} {jobId : JobId}
    (popped : jobId ∈ (state.queue name).popped) :
    ∃ status, state.stores.jobs.statusOf jobId = some status := by
  obtain ⟨row, member, rfl, _⟩ :=
    State.row_of_pushed owned delivered (FifoLog.mem_pushed.mpr (.inl popped))
  exact ⟨row.status, JobsTable.statusOf_of_mem member⟩

end Definitions

section Calls

theorem request_popped {runtime : Runtime} {request : Api.CreateJob.Request} {jobId : JobId}
    {stores after : Stores} {now : Timestamp} {reply : Reply}
    {phase next : Api.CreateJob.Phase runtime request}
    (effect : Api.CreateJob.Effect jobId stores now phase reply after next) (name : QueueName) :
    (after.queues name).popped = (stores.queues name).popped := by
  cases effect with
  | quiet _ queues => rw [queues]
  | inserted => rfl
  | pushCall =>
      rename_i routed
      by_cases same : name = routed.target
      · subst name
        rw [Stores.setQueue_same, Reply.write]
        split <;> rfl
      · rw [Stores.setQueue_other _ _ same]

theorem worker_popped {Image : Type} {runtime : Runtime} {imaging : Worker.Imaging Image}
    {queueName name : QueueName} {stores after : Stores} {phase next : Worker.RunOnce.Phase}
    (served : Worker.RunOnce.Served runtime imaging queueName stores phase .answered after next)
    {jobId : JobId} (member : jobId ∈ (after.queues name).popped) :
    jobId ∈ (stores.queues name).popped ∨ next.holds = some jobId := by
  cases served with
  | picked popped =>
      by_cases same : name = queueName
      · subst name
        rw [Stores.setQueue_same, (FifoLog.pop?_spec popped).2.2, List.mem_append,
          List.mem_singleton] at member
        rcases member with earlier | rfl
        · exact .inl earlier
        · exact .inr rfl
      · rw [Stores.setQueue_other _ _ same] at member
        exact .inl member
  | polled => exact .inl member
  | loaded => exact .inl member
  | unloaded => exact .inl member
  | started => exact .inl member
  | rendered => exact .inl member
  | downloadAgain => exact .inl member
  | downloadFailed => exact .inl member
  | uploaded => exact .inl member
  | finished => exact .inl member
  | failed => exact .inl member

end Calls

section Steps

variable {R P W Image : Type} {site : Deployment R P W Image} {before after : State site}

theorem Accounted.initial : Accounted (State.initial site) := by
  intro name jobId popped
  cases popped

theorem Gone.initial : Gone (State.initial site) := by
  intro jobId abandoned
  cases abandoned

theorem Settled.requested [DecidableEq R] [DecidableEq P] {request : R} {now : Timestamp}
    {reply : Reply} {stores : Stores}
    {next : Api.CreateJob.Phase site.runtime (site.request request)} {jobId : JobId}
    (settled : Settled before jobId)
    (served : Api.CreateJob.Served site.maxQueueLength (site.jobId request) before.stores now
      (before.requests request) reply stores next) :
    Settled (before.afterRequest request reply stores next) jobId := by
  obtain ⟨status, known, terminal⟩ := settled
  rcases request_status served jobId with same | ⟨_, _, absent, _⟩ | ⟨_, _, _, failed⟩
  · exact ⟨status, same.trans known, terminal⟩
  · rw [known] at absent
    cases absent
  · exact ⟨.failed, failed.trans (by rw [known]; rfl), rfl⟩

theorem Accounted.worked [DecidableEq W] {worker : W} {stores : Stores}
    {next : Worker.RunOnce.Phase} (accounted : Accounted before) (owned : before.Ownership)
    (delivered : before.Deliveries)
    (served : Worker.RunOnce.Served site.runtime site.imaging (site.queueName worker)
      before.stores (before.workers worker) .answered stores next) :
    Accounted (before.afterWorker worker stores next) := by
  intro name jobId popped
  have goesOn (held : next.holds = some jobId) :
      ∃ holder, (before.afterWorker worker stores next).holds holder jobId :=
    ⟨worker, by rw [State.holds, State.afterWorker_same]; exact held⟩
  rcases worker_popped served popped with earlier | held
  · obtain ⟨status, known⟩ := status_of_popped owned delivered earlier
    rcases accounted name jobId earlier with ⟨holder, held⟩ | abandoned | settled
    · by_cases same : holder = worker
      · subst holder
        rcases worker_release served held with still | ⟨last, terminal, written⟩
        · exact .inl (goesOn still)
        · exact .inr (.inr ⟨last, written.trans (by rw [known]; rfl), terminal⟩)
      · refine .inl ⟨holder, ?_⟩
        rw [State.holds, before.afterWorker_other worker stores next same]
        exact held
    · exact .inr (.inl abandoned)
    · obtain ⟨last, lastKnown, terminal⟩ := settled
      rcases worker_status served jobId with same | ⟨_, _, _, written, write, changed⟩
      · exact .inr (.inr ⟨last, same.trans lastKnown, terminal⟩)
      · cases write with
        | processing still => exact .inl (goesOn (still rfl))
        | last _ settles _ _ =>
            exact .inr (.inr ⟨written, changed.trans (by rw [known]; rfl), settles⟩)
  · exact .inl (goesOn held)

variable [DecidableEq R] [DecidableEq P] [DecidableEq W]

theorem Accounted.step {event : Event R W} (accounted : Accounted before)
    (owned : before.Ownership) (delivered : before.Deliveries)
    (permitted : healthy.permits before event = true) (stepped : before.Stepped event after) :
    Accounted after := by
  cases stepped with
  | started => exact accounted
  | requested served =>
      rename_i request now reply stores next
      intro name jobId popped
      change jobId ∈ (stores.queues name).popped at popped
      rw [request_popped served.effect name] at popped
      rcases accounted name jobId popped with held | abandoned | settled
      · exact .inl held
      · exact .inr (.inl abandoned)
      · exact .inr (.inr (settled.requested served))
  | worked served =>
      obtain rfl := of_decide_eq_true permitted
      exact accounted.worked owned delivered served
  | stopped =>
      rename_i worker alive
      intro name jobId popped
      rcases accounted name jobId popped with ⟨holder, held⟩ | abandoned | settled
      · by_cases same : holder = worker
        · subst holder
          refine .inr (.inl (List.mem_append_right _ ?_))
          rw [show (before.workers worker).holds = some jobId from held]
          exact List.mem_singleton.mpr rfl
        · refine .inl ⟨holder, ?_⟩
          rw [State.holds, before.afterStop_other worker same]
          exact held
      · exact .inr (.inl (List.mem_append_left _ abandoned))
      · exact .inr (.inr settled)
  | restarted =>
      rename_i worker dead
      intro name jobId popped
      rcases accounted name jobId popped with ⟨holder, held⟩ | abandoned | settled
      · have different : holder ≠ worker := by
          rintro rfl
          rw [State.holds, dead] at held
          cases held
        refine .inl ⟨holder, ?_⟩
        rw [State.holds, before.afterRestart_other worker different]
        exact held
      · exact .inr (.inl abandoned)
      · exact .inr (.inr settled)

theorem not_taken_again (owned : before.Ownership) (delivered : before.Deliveries)
    (effect : before.Effect after) {name : QueueName} {jobId : JobId}
    (popped : jobId ∈ (before.queue name).popped) (free : ∀ worker, ¬ before.holds worker jobId)
    (worker : W) : ¬ after.holds worker jobId := by
  intro held
  rcases effect.holds held with earlier | ⟨rest, taken, _⟩
  · exact free worker earlier
  · have waiting : jobId ∈ (before.queue (site.queueName worker)).items := by
      rw [(FifoLog.pop?_spec taken).1]
      exact List.mem_append_right _ (List.mem_singleton.mpr rfl)
    have same := delivered.one_queue (FifoLog.mem_pushed.mpr (.inr waiting))
      (FifoLog.mem_pushed.mpr (.inl popped))
    exact FifoLog.not_popped_of_waiting (delivered.pushedOnce owned _) waiting (same ▸ popped)

theorem Gone.step {event : Event R W} (gone : Gone before) (owned : before.Ownership)
    (delivered : before.Deliveries) (holders : before.Holders)
    (stepped : before.Stepped event after) : Gone after := by
  have effect := stepped.effect
  have old {jobId : JobId} (abandoned : jobId ∈ before.abandoned) :
      (∃ name, jobId ∈ (after.queue name).popped) ∧ ∀ worker, ¬ after.holds worker jobId := by
    obtain ⟨⟨name, popped⟩, free⟩ := gone jobId abandoned
    exact ⟨⟨name, effect.popped_kept popped⟩, not_taken_again owned delivered effect popped free⟩
  intro jobId abandoned
  cases stepped with
  | started => exact old abandoned
  | requested => exact old abandoned
  | worked => exact old abandoned
  | restarted => exact old abandoned
  | stopped =>
      rename_i worker alive
      rcases List.mem_append.mp abandoned with earlier | dropped
      · exact old earlier
      · have held : before.holds worker jobId := Option.mem_toList.mp dropped
        refine ⟨⟨_, holders.popped worker jobId held⟩, fun colleague heldAfter => ?_⟩
        by_cases same : colleague = worker
        · subst colleague
          rw [State.holds, State.afterStop_same] at heldAfter
          cases heldAfter
        · rw [State.holds, before.afterStop_other worker same] at heldAfter
          exact same (holders.alone colleague worker jobId heldAfter held)

end Steps

section Results

variable {R P W Image : Type} [DecidableEq R] [DecidableEq P] [DecidableEq W]
  {site : Deployment R P W Image}

/-- A popped job that is not settled is with a live worker, or its worker was
stopped while holding it. In the second case it is lost: no queue has it and no
worker holds it. -/
theorem unsettled_jobs_are_held_or_abandoned {state : State site}
    (reached : (machine site).Reachable healthy.permits state) (name : QueueName) (jobId : JobId)
    (popped : jobId ∈ (state.queue name).popped)
    (unsettled : state.stores.jobs.statusOf jobId = some .pending ∨
      state.stores.jobs.statusOf jobId = some .processing) :
    ((∃ worker, state.holds worker jobId) ∨ jobId ∈ state.abandoned) ∧
      (jobId ∈ state.abandoned →
        (∀ worker, ¬ state.holds worker jobId) ∧ ∀ other, jobId ∉ (state.queue other).items) := by
  have both : Accounted state ∧ Gone state :=
    reached.invariant (fun state => Accounted state ∧ Gone state)
      ⟨.initial, .initial⟩
      (fun reachedBefore kept permitted stepped =>
        have cases := State.step_cases stepped
        have ⟨owned, delivered, holders⟩ := State.reachable_invariants reachedBefore
        ⟨kept.1.step owned delivered permitted cases, kept.2.step owned delivered holders cases⟩)
  have owned := State.reachable_ownership reached
  have delivered := State.reachable_deliveries reached
  constructor
  · rcases both.1 name jobId popped with held | abandoned | ⟨status, known, terminal⟩
    · exact .inl held
    · exact .inr abandoned
    · rcases unsettled with pending | processing
      · obtain rfl := Option.some.inj (known.symm.trans pending)
        cases terminal
      · obtain rfl := Option.some.inj (known.symm.trans processing)
        cases terminal
  · intro abandoned
    refine ⟨(both.2 jobId abandoned).2, fun other waiting => ?_⟩
    have same := delivered.one_queue (FifoLog.mem_pushed.mpr (.inr waiting))
      (FifoLog.mem_pushed.mpr (.inl popped))
    exact FifoLog.not_popped_of_waiting (delivered.pushedOnce owned _) waiting (same ▸ popped)

/-- The worker pops the job, is stopped and restarted. -/
def stoppedAfterPop : State smallSite :=
  (machine smallSite).finalState healthy.permits
    (.start false :: List.replicate 5 (.request false 0 .answered) ++
      [.worker () .answered, .stop (), .restart ()])

theorem unsettled_jobs_are_held_or_abandoned_stopped :
    ((∃ worker, stoppedAfterPop.holds worker firstJob) ∨ firstJob ∈ stoppedAfterPop.abandoned) ∧
      (firstJob ∈ stoppedAfterPop.abandoned →
        (∀ worker, ¬ stoppedAfterPop.holds worker firstJob) ∧
          ∀ other, firstJob ∉ (stoppedAfterPop.queue other).items) :=
  unsettled_jobs_are_held_or_abandoned (.finalState _) .jobsDefault firstJob
    (by decide +kernel) (.inl (by decide +kernel))

/-- Not every popped job that is not settled is with a worker or back in its
queue. -/
theorem popped_jobs_can_be_lost :
    ¬ ∀ state : State smallSite, (machine smallSite).Reachable healthy.permits state →
      ∀ name jobId, jobId ∈ (state.queue name).popped →
        (state.stores.jobs.statusOf jobId = some .pending ∨
          state.stores.jobs.statusOf jobId = some .processing) →
        (∃ worker, state.holds worker jobId) ∨ jobId ∈ (state.queue name).items := by
  intro kept
  have reached : (machine smallSite).Reachable healthy.permits stoppedAfterPop := .finalState _
  have popped : firstJob ∈ (stoppedAfterPop.queue .jobsDefault).popped := by decide +kernel
  have pending : stoppedAfterPop.stores.jobs.statusOf firstJob = some .pending := by
    decide +kernel
  have free : (stoppedAfterPop.workers ()).holds = none := by decide +kernel
  have absent : firstJob ∉ (stoppedAfterPop.queue .jobsDefault).items := by decide +kernel
  have claimed := kept _ reached _ _ popped (.inl pending)
  generalize stoppedAfterPop = state at claimed free absent
  rcases claimed with ⟨worker, held⟩ | waiting
  · rw [State.holds, free] at held
    cases held
  · exact absent waiting

end Results

end ImagePipeline.Properties.WorkerStops
