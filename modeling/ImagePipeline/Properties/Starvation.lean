/-
No job starves. Whatever the clients, the API and the other workers do, a job
that waits in a queue is popped once a worker of that queue has made a number of
calls that is linear in the number of jobs ahead of it.
-/

import ImagePipeline.Cluster.Ownership
import ImagePipeline.Library.Machine
import ImagePipeline.Worker.PassLength

namespace ImagePipeline.Properties.Starvation

open Common
open Cluster
open Library (Machine FifoLog)
open Worker.RunOnce (Phase Shorter serve serve_shorter)

/-- The event is a call that the worker makes. -/
def isCallOf {R W : Type} [DecidableEq W] (worker : W) : Event R W → Bool
  | .worker other _ => other = worker
  | _ => false

section Definitions

variable {R P W Image : Type} {site : Deployment R P W Image}

/-- The pops of the worker return. Everything else may end in any way, and any
worker may be stopped. -/
def popsReturn [DecidableEq W] (worker : W) (state : State site) : Event R W → Bool
  | .worker other reply =>
      match state.workers other with
      | .idle => other ≠ worker || reply = .answered
      | _ => true
  | _ => true

/-- The most calls that the worker makes before it pops the job itself. -/
def distance (worker : W) (jobId : JobId) (state : State site) : Nat :=
  (Phase.longest + 1) * (state.queue (site.queueName worker)).ahead jobId +
    (state.workers worker).remaining

theorem distance_lt (state : State site) (worker : W) (jobId : JobId) :
    distance worker jobId state <
      (Phase.longest + 1) * ((state.queue (site.queueName worker)).ahead jobId + 1) := by
  have bound := (state.workers worker).remaining_le
  unfold distance
  rw [Nat.mul_add, Nat.mul_one]
  omega

/-- No worker makes more attempts than there are. -/
def Attempting (state : State site) : Prop := ∀ worker, (state.workers worker).attempting

end Definitions

section Steps

variable {R P W Image : Type} {site : Deployment R P W Image} {before : State site}

theorem Attempting.initial : Attempting (State.initial site) := fun _ => trivial

theorem ahead_pop {worker : W} {stores : Stores} {next : Phase} {jobId : JobId}
    (waiting : jobId ∈ (before.queue (site.queueName worker)).items)
    (served : serve site.runtime site.imaging (site.queueName worker) before.stores .idle
      .answered = some (stores, next)) :
    jobId ∈ (stores.queues (site.queueName worker)).popped ∨
    jobId ∈ (stores.queues (site.queueName worker)).items ∧
      (stores.queues (site.queueName worker)).ahead jobId + 1 =
        (before.queue (site.queueName worker)).ahead jobId := by
  obtain ⟨first, rest, popped⟩ := FifoLog.exists_pop? (List.ne_nil_of_mem waiting)
  obtain ⟨items, _, gone⟩ := FifoLog.pop?_spec popped
  unfold State.queue at popped waiting items gone ⊢
  simp only [serve, getNextJob, popped, Option.some.injEq, Prod.mk.injEq] at served
  obtain ⟨rfl, _⟩ := served
  rw [Stores.setQueue_same]
  by_cases own : first = jobId
  · subst own
    rw [gone]
    exact .inl (List.mem_append_right _ (List.mem_singleton.mpr rfl))
  · refine .inr ⟨?_, (FifoLog.ahead_pop popped own).symm⟩
    rw [items, List.mem_append, List.mem_singleton] at waiting
    exact waiting.resolve_right (Ne.symm own)

end Steps

section Steps

variable {R P W Image : Type} [DecidableEq R] [DecidableEq P] [DecidableEq W]
  {site : Deployment R P W Image} {before after : State site}

/-- The step moves the phase of one worker at most. -/
theorem workers_cases {event : Event R W} (stepped : before.step event = some after)
    (worker : W) :
    (isCallOf worker event = false ∧ (after.workers worker = before.workers worker ∨
      after.workers worker = .stopped ∨ after.workers worker = .idle)) ∨
    ∃ reply stores next, event = .worker worker reply ∧
      serve site.runtime site.imaging (site.queueName worker) before.stores
        (before.workers worker) reply = some (stores, next) ∧
      after = before.afterWorker worker stores next := by
  cases event with
  | start request =>
      cases State.step_cases stepped with
      | started waiting free => exact .inl ⟨rfl, .inl rfl⟩
  | request request now reply =>
      cases State.step_cases stepped with
      | requested served => exact .inl ⟨rfl, .inl rfl⟩
  | worker mover reply =>
      obtain ⟨⟨stores, next⟩, served, rfl⟩ := Option.map_eq_some_iff.mp stepped
      by_cases own : mover = worker
      · subst own
        exact .inr ⟨reply, stores, next, rfl, served, rfl⟩
      · exact .inl ⟨decide_eq_false own,
          .inl (before.afterWorker_other mover stores next (Ne.symm own))⟩
  | stop mover =>
      cases State.step_cases stepped with
      | stopped alive =>
          by_cases own : worker = mover
          · subst own
            exact .inl ⟨rfl, .inr (.inl (before.afterStop_same worker))⟩
          · exact .inl ⟨rfl, .inl (before.afterStop_other mover own)⟩
  | restart mover =>
      cases State.step_cases stepped with
      | restarted dead =>
          by_cases own : worker = mover
          · subst own
            exact .inl ⟨rfl, .inr (.inr (before.afterRestart_same worker))⟩
          · exact .inl ⟨rfl, .inl (before.afterRestart_other mover own)⟩

theorem Attempting.step {event : Event R W} (attempting : Attempting before)
    (stepped : before.step event = some after) : Attempting after := by
  intro worker
  rcases workers_cases stepped worker with
    ⟨_, same | stopped | idle⟩ | ⟨reply, stores, next, _, served, rfl⟩
  · rw [same]
    exact attempting worker
  · rw [stopped]
    trivial
  · rw [idle]
    trivial
  · rw [State.afterWorker_same]
    rcases serve_shorter (attempting worker) served with ⟨_, within⟩ | shorter
    · exact within
    · exact shorter.attempting

theorem attempting_of_reachable {permits : State site → Event R W → Bool} {state : State site}
    (reached : (machine site).Reachable permits state) : Attempting state :=
  reached.invariant Attempting .initial (fun _ kept _ stepped => kept.step stepped)

/-- A waiting job is popped, or it waits on with no more jobs ahead of it. -/
theorem ahead_step (effect : before.Effect after) {name : QueueName} {jobId : JobId}
    (waiting : jobId ∈ (before.queue name).items) :
    jobId ∈ (after.queue name).popped ∨
    jobId ∈ (after.queue name).items ∧
      (after.queue name).ahead jobId ≤ (before.queue name).ahead jobId := by
  cases effect with
  | quiet _ queues =>
      refine .inr ?_
      rw [State.queue, queues]
      exact ⟨waiting, le_refl _⟩
  | inserted => exact .inr ⟨waiting, le_refl _⟩
  | pushCall pushing =>
      rename_i request routed reply
      refine .inr ?_
      rw [State.queue, State.afterRequest_stores]
      by_cases same : name = routed.target
      · subst name
        rw [Stores.setQueue_same, Reply.write]
        dsimp only
        split
        · exact ⟨List.mem_cons_of_mem _ waiting, (FifoLog.ahead_push waiting _).le⟩
        · exact ⟨waiting, le_refl _⟩
      · rw [Stores.setQueue_other _ _ same]
        exact ⟨waiting, le_refl _⟩
  | popped idle popped kept =>
      rename_i worker first rest next
      rw [State.queue, State.afterWorker_stores]
      by_cases same : name = site.queueName worker
      · subst name
        rw [Stores.setQueue_same]
        obtain ⟨items, _, gone⟩ := FifoLog.pop?_spec popped
        by_cases own : first = jobId
        · subst own
          rw [gone]
          exact .inl (List.mem_append_right _ (List.mem_singleton.mpr rfl))
        · refine .inr ⟨?_, ?_⟩
          · rw [items, List.mem_append, List.mem_singleton] at waiting
            exact waiting.resolve_right (Ne.symm own)
          · rw [FifoLog.ahead_pop popped own]
            exact Nat.le_succ _
      · rw [Stores.setQueue_other _ _ same]
        exact .inr ⟨waiting, le_refl _⟩

/-- Every call of the worker brings the job closer: it pops, or its pass gets
shorter. -/
theorem progress {permits : State site → Event R W → Bool} (worker : W) (jobId : JobId)
    (narrow : ∀ state event, permits state event = true → popsReturn worker state event = true) :
    Machine.Progress (machine site) permits
      (fun state => Attempting state ∧ jobId ∈ (state.queue (site.queueName worker)).pushed)
      (fun state => jobId ∈ (state.queue (site.queueName worker)).popped)
      (distance worker jobId) (isCallOf worker) where
  kept := by
    intro before event after ⟨attempting, pushed⟩ _ stepped
    have effect := (State.step_cases stepped).effect
    refine ⟨attempting.step stepped, ?_⟩
    rcases FifoLog.mem_pushed.mp pushed with popped | waiting
    · exact FifoLog.mem_pushed.mpr (.inl (effect.popped_kept popped))
    · rcases ahead_step effect waiting with popped | ⟨waits, _⟩
      · exact FifoLog.mem_pushed.mpr (.inl popped)
      · exact FifoLog.mem_pushed.mpr (.inr waits)
  stays := fun _ popped _ stepped => (State.step_cases stepped).effect.popped_kept popped
  advances := by
    intro before event after ⟨attempting, pushed⟩ permitted stepped
    have effect := (State.step_cases stepped).effect
    rcases FifoLog.mem_pushed.mp pushed with popped | waiting
    · exact .inl (effect.popped_kept popped)
    rcases ahead_step effect waiting with popped | ⟨_, closer⟩
    · exact .inl popped
    have closer := Nat.mul_le_mul_left (Phase.longest + 1) closer
    unfold distance
    rcases workers_cases stepped worker with
      ⟨other, still⟩ | ⟨reply, stores, next, rfl, served, rfl⟩
    · refine .inr ?_
      rw [other, if_neg Bool.false_ne_true]
      have shorter : (after.workers worker).remaining ≤ (before.workers worker).remaining := by
        rcases still with same | stopped | idle
        · rw [same]
        · rw [stopped]
          exact Nat.zero_le _
        · rw [idle]
          exact Nat.zero_le _
      omega
    · have own : isCallOf worker (Event.worker worker reply : Event R W) = true :=
        decide_eq_true rfl
      rw [own, if_pos rfl, State.afterWorker_same]
      rcases serve_shorter (attempting worker) served with ⟨idle, _⟩ | shorter
      · have permitted := narrow _ _ permitted
        unfold popsReturn at permitted
        dsimp only at permitted
        rw [idle] at permitted served ⊢
        have answered : reply = .answered := by simpa using permitted
        subst answered
        rcases ahead_pop waiting served with popped | ⟨_, forward⟩
        · exact .inl popped
        · refine .inr ?_
          have forward : (stores.queues (site.queueName worker)).ahead jobId + 1 ≤
              (before.queue (site.queueName worker)).ahead jobId := forward.le
          have lower := Nat.mul_le_mul_left (Phase.longest + 1) forward
          rw [Nat.mul_add, Nat.mul_one] at lower
          have bound := next.remaining_le
          rw [State.queue, State.afterWorker_stores]
          omega
      · have fewer := shorter.fewer
        omega

/-- A waiting job is popped before a worker of its queue has begun as many passes
as there are jobs in the queue up to it. -/
theorem queued_jobs_are_popped (worker : W) {start finish : State site} {jobId : JobId}
    {events : List (Event R W)} (reached : (machine site).Reachable anything start)
    (waiting : jobId ∈ (start.queue (site.queueName worker)).items)
    (ran : (machine site).run (popsReturn worker) start events = some finish)
    (enough : (Phase.longest + 1) * ((start.queue (site.queueName worker)).ahead jobId + 1) ≤
      events.countP (isCallOf worker)) :
    jobId ∈ (finish.queue (site.queueName worker)).popped := by
  exact (progress worker jobId fun _ _ permitted => permitted).reaches ran
    ⟨attempting_of_reachable reached, FifoLog.mem_pushed.mpr (.inr waiting)⟩
    (Nat.lt_of_lt_of_le (distance_lt start worker jobId) enough)

/-- A worker that is through with a job never gets it again. -/
theorem not_held_again (owned : before.Ownership) (delivered : before.Deliveries)
    (effect : before.Effect after) {worker : W} {jobId : JobId}
    (popped : jobId ∈ (before.queue (site.queueName worker)).popped)
    (free : ¬ before.holds worker jobId) : ¬ after.holds worker jobId := by
  intro held
  rcases effect.holds held with earlier | ⟨rest, taken, _⟩
  · exact free earlier
  · have waiting : jobId ∈ (before.queue (site.queueName worker)).items := by
      rw [(FifoLog.pop?_spec taken).1]
      exact List.mem_append_right _ (List.mem_singleton.mpr rfl)
    exact FifoLog.not_popped_of_waiting (delivered.pushedOnce owned _) waiting popped

theorem passing (permits : State site → Event R W → Bool) (worker : W) (jobId : JobId) :
    Machine.Progress (machine site) permits
      (fun state => (Attempting state ∧ state.Ownership ∧ state.Deliveries) ∧
        jobId ∈ (state.queue (site.queueName worker)).popped)
      (fun state => ¬ state.holds worker jobId)
      (fun state => (state.workers worker).remaining) (isCallOf worker) where
  kept := by
    intro before event after ⟨⟨attempting, owned, delivered⟩, popped⟩ _ stepped
    have effect := (State.step_cases stepped).effect
    exact ⟨⟨attempting.step stepped, owned.step effect, delivered.step effect⟩,
      effect.popped_kept popped⟩
  stays := fun ⟨⟨_, owned, delivered⟩, popped⟩ free _ stepped =>
    not_held_again owned delivered (State.step_cases stepped).effect popped free
  advances := by
    intro before event after ⟨⟨attempting, owned, delivered⟩, popped⟩ _ stepped
    by_cases held : before.holds worker jobId
    · rcases workers_cases stepped worker with
        ⟨other, same | stopped | idle⟩ | ⟨reply, stores, next, rfl, served, rfl⟩
      · rw [same, other, if_neg Bool.false_ne_true]
        exact .inr (le_refl _)
      · refine .inl fun holding => ?_
        rw [State.holds, stopped] at holding
        cases holding
      · refine .inl fun holding => ?_
        rw [State.holds, idle] at holding
        cases holding
      · have own : isCallOf worker (Event.worker worker reply : Event R W) = true :=
          decide_eq_true rfl
        rw [own, if_pos rfl, State.afterWorker_same]
        rcases serve_shorter (attempting worker) served with ⟨idle, _⟩ | shorter
        · rw [State.holds, idle] at held
          cases held
        · exact .inr shorter.fewer
    · exact .inl (not_held_again owned delivered (State.step_cases stepped).effect popped held)

/-- A worker lets go of a popped job within the calls of one pass, whatever raises. -/
theorem popped_jobs_are_let_go {permits : State site → Event R W → Bool}
    {start finish : State site} {worker : W} {jobId : JobId} {events : List (Event R W)}
    (reached : (machine site).Reachable permits start)
    (popped : jobId ∈ (start.queue (site.queueName worker)).popped)
    (ran : (machine site).run permits start events = some finish)
    (enough : Phase.longest < events.countP (isCallOf worker)) :
    ¬ finish.holds worker jobId := by
  have invariants := State.reachable_invariants reached
  refine (passing permits worker jobId).reaches ran
    ⟨⟨attempting_of_reachable reached, invariants.1, invariants.2.1⟩, popped⟩ ?_
  have bound := (start.workers worker).remaining_le
  omega

end Steps

def oneWaiting : State smallSite :=
  (machine smallSite).finalState anything
    (.start false :: List.replicate 5 (.request false 0 .answered))

/-- A worker that is stopped before its pop, restarted, and fails to download. -/
def clumsyPass : List (Event Bool Unit) :=
  [.stop (), .restart (), .worker () .answered, .worker () .answered, .worker () .answered,
    .worker () (.raised .other false)] ++ List.replicate 7 (.worker () .answered)

theorem queued_jobs_are_popped_clumsy :
    firstJob ∈ (oneWaiting.queue .jobsDefault).items ∧
    ∃ finish, (machine smallSite).run (popsReturn ()) oneWaiting clumsyPass = some finish ∧
      firstJob ∈ (finish.queue .jobsDefault).popped := by
  have reached : (machine smallSite).Reachable anything oneWaiting := .finalState _
  have waiting : firstJob ∈ (oneWaiting.queue .jobsDefault).items := by decide +kernel
  have first : (oneWaiting.queue (smallSite.queueName ())).ahead firstJob = 0 := by
    decide +kernel
  have runs : ((machine smallSite).run (popsReturn ()) oneWaiting clumsyPass).isSome = true := by
    decide +kernel
  obtain ⟨finish, ran⟩ := Option.isSome_iff_exists.mp runs
  refine ⟨waiting, finish, ran, queued_jobs_are_popped () reached waiting ran ?_⟩
  rw [first]
  decide

end ImagePipeline.Properties.Starvation
