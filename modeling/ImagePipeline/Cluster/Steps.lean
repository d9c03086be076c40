/-
The steps of the system as cases, and what each kind of step leaves alone.
-/

import ImagePipeline.Cluster.State

namespace ImagePipeline.Cluster

open Common
open Library (Machine)

section Cases

variable {R P W Image : Type} [DecidableEq R] [DecidableEq P] [DecidableEq W]
  {site : Deployment R P W Image}

namespace State

inductive Stepped (state : State site) : Event R W → State site → Prop where
  | started {request : R} (waiting : state.requests request = .waiting)
      (free : state.running (site.process request) = none) :
      Stepped state (.start request) (state.afterStart request)
  | requested {request : R} {now : Timestamp} {reply : Reply} {stores : Stores}
      {next : Api.CreateJob.Phase site.runtime (site.request request)}
      (served : Api.CreateJob.Served site.maxQueueLength (site.jobId request) state.stores now
        (state.requests request) reply stores next) :
      Stepped state (.request request now reply) (state.afterRequest request reply stores next)
  | worked {worker : W} {reply : Reply} {stores : Stores} {next : Worker.RunOnce.Phase}
      (served : Worker.RunOnce.Served site.runtime site.imaging (site.queueName worker)
        state.stores (state.workers worker) reply stores next) :
      Stepped state (.worker worker reply) (state.afterWorker worker stores next)
  | stopped {worker : W} (alive : state.workers worker ≠ .stopped) :
      Stepped state (.stop worker) (state.afterStop worker)
  | restarted {worker : W} (dead : state.workers worker = .stopped) :
      Stepped state (.restart worker) (state.afterRestart worker)

theorem step_cases {state after : State site} {event : Event R W}
    (stepped : state.step event = some after) : state.Stepped event after := by
  cases event with
  | start request =>
      change state.start? request = some after at stepped
      unfold start? at stepped
      split at stepped
      · rename_i waiting free
        cases stepped
        exact .started waiting free
      · cases stepped
  | request request now reply =>
      obtain ⟨⟨stores, next⟩, served, rfl⟩ := Option.map_eq_some_iff.mp stepped
      exact .requested (Api.CreateJob.serve_cases served)
  | worker worker reply =>
      obtain ⟨⟨stores, next⟩, served, rfl⟩ := Option.map_eq_some_iff.mp stepped
      exact .worked (Worker.RunOnce.serve_cases served)
  | stop worker =>
      change state.stop? worker = some after at stepped
      unfold stop? at stepped
      split at stepped
      · cases stepped
      · rename_i alive
        cases stepped
        exact .stopped alive
  | restart worker =>
      change state.restart? worker = some after at stepped
      unfold restart? at stepped
      split at stepped
      · rename_i dead
        cases stepped
        exact .restarted dead
      · cases stepped

/-- The steps by what they do to the jobs table and the queues: nothing that a
submission can notice, an insert, a call of `push_job`, or a pop. -/
inductive Effect (before : State site) : State site → Prop where
  | quiet {after : State site}
      (submissions : after.stores.jobs.submissions = before.stores.jobs.submissions)
      (queues : after.stores.queues = before.stores.queues)
      (pushCalls : after.pushCalls = before.pushCalls)
      (later : ∀ request, (before.requests request).Later (after.requests request))
      (pushing : ∀ request, (before.requests request).pushing = true →
        after.requests request = before.requests request)
      (kept : ∀ worker jobId, after.holds worker jobId → before.holds worker jobId) :
      Effect before after
  | inserted {request : R} {routed : Api.CreateJob.Routed site.runtime (site.request request)}
      {now : Timestamp} {reply : Reply} {jobs : JobsTable}
      (inserting : before.requests request = .insertRow routed)
      (took : reply.takesEffect = true)
      (accepted : before.stores.jobs.insert
        (Api.CreateJob.newRow (site.jobId request) routed now) = some jobs) :
      Effect before (before.afterRequest request reply { before.stores with jobs }
        (.afterInsert routed reply.result))
  | pushCall {request : R} {routed : Api.CreateJob.Routed site.runtime (site.request request)}
      {reply : Reply} (pushing : before.requests request = .push routed) :
      Effect before (before.afterRequest request reply
        (before.stores.setQueue routed.target
          (reply.write (before.queue routed.target)
            ((before.queue routed.target).push (site.jobId request))).1)
        (.afterPush (site.jobId request) routed reply.result))
  | popped {worker : W} {jobId : JobId} {rest : JobQueue} {next : Worker.RunOnce.Phase}
      (idle : before.workers worker = .idle)
      (popped : (before.queue (site.queueName worker)).pop? = some (jobId, rest))
      (kept : ∀ held, next.holds = some held → held = jobId) :
      Effect before (before.afterWorker worker
        (before.stores.setQueue (site.queueName worker) rest) next)

end State

end Cases

namespace State

section Requests

variable {R P W Image : Type} [DecidableEq R] [DecidableEq P] {site : Deployment R P W Image}
  (state : State site) (request other : R) (reply : Reply) (stores : Stores)
  (next : Api.CreateJob.Phase site.runtime (site.request request))

@[simp] theorem afterRequest_stores :
    (state.afterRequest request reply stores next).stores = stores := rfl

@[simp] theorem afterRequest_same :
    (state.afterRequest request reply stores next).requests request = next :=
  Function.update_self ..

theorem afterRequest_other (different : other ≠ request) :
    (state.afterRequest request reply stores next).requests other = state.requests other :=
  Function.update_of_ne different ..

theorem afterRequest_pushCalls (notPushing : (state.requests request).pushing = false) :
    (state.afterRequest request reply stores next).pushCalls = state.pushCalls := by
  simp only [afterRequest, notPushing, Bool.false_eq_true, if_false]

theorem afterRequest_pushed (wasPushing : (state.requests request).pushing = true) :
    (state.afterRequest request reply stores next).pushCalls =
      state.pushCalls ++ [(request, reply)] := by
  simp only [afterRequest, wasPushing, if_true]

@[simp] theorem afterStart_same : (state.afterStart request).requests request =
    .start site.runtime (site.request request) := Function.update_self ..

theorem afterStart_other (different : other ≠ request) :
    (state.afterStart request).requests other = state.requests other :=
  Function.update_of_ne different ..

end Requests

section Workers

variable {R P W Image : Type} [DecidableEq W] {site : Deployment R P W Image}
  (state : State site) (worker : W) (stores : Stores) (phase : Worker.RunOnce.Phase)

@[simp] theorem afterWorker_stores : (state.afterWorker worker stores phase).stores = stores := rfl

@[simp] theorem afterWorker_same :
    (state.afterWorker worker stores phase).workers worker = phase := Function.update_self ..

theorem afterWorker_other {colleague : W} (different : colleague ≠ worker) :
    (state.afterWorker worker stores phase).workers colleague = state.workers colleague :=
  Function.update_of_ne different ..

@[simp] theorem afterStop_same : (state.afterStop worker).workers worker = .stopped :=
  Function.update_self ..

theorem afterStop_other {colleague : W} (different : colleague ≠ worker) :
    (state.afterStop worker).workers colleague = state.workers colleague :=
  Function.update_of_ne different ..

@[simp] theorem afterRestart_same : (state.afterRestart worker).workers worker = .idle :=
  Function.update_self ..

theorem afterRestart_other {colleague : W} (different : colleague ≠ worker) :
    (state.afterRestart worker).workers colleague = state.workers colleague :=
  Function.update_of_ne different ..

end Workers

section Effects

variable {R P W Image : Type} {site : Deployment R P W Image} {before after : State site}

private theorem later_of_update [DecidableEq R] {request : R} {phases : State site}
    {next : Api.CreateJob.Phase site.runtime (site.request request)}
    (same : phases.requests = Function.update before.requests request next)
    (later : (before.requests request).Later next) (other : R) :
    (before.requests other).Later (phases.requests other) := by
  rw [same]
  by_cases equal : other = request
  · subst other
    rw [Function.update_self]
    exact later
  · rw [Function.update_of_ne equal]
    exact .refl _

private theorem unmoved_of_update [DecidableEq R] {request : R} {phases : State site}
    {next : Api.CreateJob.Phase site.runtime (site.request request)}
    (same : phases.requests = Function.update before.requests request next)
    (notPushing : (before.requests request).pushing = false) (other : R)
    (pushing : (before.requests other).pushing = true) :
    phases.requests other = before.requests other := by
  rw [same]
  by_cases equal : other = request
  · subst other
    rw [pushing] at notPushing
    cases notPushing
  · exact Function.update_of_ne equal ..

private theorem kept_of_update [DecidableEq W] {worker : W} {phases : State site}
    {next : Worker.RunOnce.Phase}
    (same : phases.workers = Function.update before.workers worker next)
    (kept : ∀ jobId, next.holds = some jobId → (before.workers worker).holds = some jobId)
    (other : W) (jobId : JobId) (held : phases.holds other jobId) : before.holds other jobId := by
  unfold holds at held ⊢
  rw [same] at held
  by_cases equal : other = worker
  · subst other
    rw [Function.update_self] at held
    exact kept jobId held
  · rw [Function.update_of_ne equal] at held
    exact held

variable [DecidableEq R] [DecidableEq P] [DecidableEq W]

theorem Stepped.effect {event : Event R W} (stepped : before.Stepped event after) :
    before.Effect after := by
  cases stepped with
  | started waiting free =>
      refine .quiet rfl rfl rfl (later_of_update rfl ?_) (unmoved_of_update rfl ?_)
        (fun _ _ held => held)
      · rw [waiting]
        exact .start
      · rw [waiting]
        rfl
  | stopped alive =>
      refine .quiet rfl rfl rfl (fun _ => .refl _) (fun _ _ => rfl) (kept_of_update rfl ?_)
      exact fun _ held => nomatch held
  | restarted dead =>
      refine .quiet rfl rfl rfl (fun _ => .refl _) (fun _ _ => rfl) (kept_of_update rfl ?_)
      exact fun _ held => nomatch held
  | requested served =>
      rename_i request now reply stores next
      have effect := served.effect
      generalize current : before.requests request = phase at effect
      cases effect with
      | quiet submissions queues notPushing later =>
          have idle : (before.requests request).pushing = false := by
            rw [current]
            exact notPushing
          refine .quiet submissions queues (before.afterRequest_pushCalls _ _ _ _ idle)
            (later_of_update rfl ?_) (unmoved_of_update rfl idle) (fun _ _ held => held)
          rw [current]
          exact later
      | inserted took accepted => exact .inserted current took accepted
      | pushCall => exact .pushCall current
  | worked served =>
      rename_i worker reply stores next
      have effect := served.effect
      generalize current : before.workers worker = phase at effect
      cases effect with
      | quiet submissions queues kept =>
          refine .quiet submissions queues rfl (fun _ => .refl _) (fun _ _ => rfl)
            (kept_of_update rfl ?_)
          rw [current]
          exact kept
      | popped popped kept => exact .popped current popped kept

theorem Stepped.requests_eq {event : Event R W} (stepped : before.Stepped event after)
    (request : R) :
    after.requests request = before.requests request ∨
    (event = .start request ∧ before.requests request = .waiting ∧
      after.requests request = .start site.runtime (site.request request)) ∨
    ∃ now reply, event = .request request now reply ∧
      Api.CreateJob.Served site.maxQueueLength (site.jobId request) before.stores now
        (before.requests request) reply after.stores (after.requests request) := by
  cases stepped with
  | started waiting free =>
      rename_i mover
      by_cases same : request = mover
      · subst request
        exact .inr (.inl ⟨rfl, waiting, before.afterStart_same mover⟩)
      · exact .inl (before.afterStart_other mover request same)
  | requested served =>
      rename_i mover now reply stores next
      by_cases same : request = mover
      · subst request
        refine .inr (.inr ⟨now, reply, rfl, ?_⟩)
        rw [afterRequest_same]
        exact served
      · exact .inl (before.afterRequest_other mover request reply stores next same)
  | worked served => exact .inl rfl
  | stopped alive => exact .inl rfl
  | restarted dead => exact .inl rfl

/-- A request that is answered was answered before, or by this very step. -/
theorem Stepped.ended {event : Event R W} (stepped : before.Stepped event after)
    {request : R} {outcome : Api.CreateJob.Outcome}
    (ends : after.requests request = .ended outcome) :
    before.requests request = .ended outcome ∨
    (event = .start request ∧ (outcome.statusCode = 400 ∨ outcome.statusCode = 500)) ∨
    ∃ now reply, event = .request request now reply ∧
      Api.CreateJob.Ending site.maxQueueLength (site.jobId request) before.stores
        (before.requests request) reply outcome := by
  rcases stepped.requests_eq request with
    same | ⟨rfl, waiting, started⟩ | ⟨now, reply, rfl, served⟩
  · exact .inl (same.symm.trans ends)
  · exact .inr (.inl ⟨rfl, Api.CreateJob.Phase.start_ended (started.symm.trans ends)⟩)
  · exact .inr (.inr ⟨now, reply, rfl, served.ending ends⟩)

end Effects

end State

end ImagePipeline.Cluster
