/-
Last statuses. Status updates look at no previous status, so DONE and FAILED
are final only because nobody is left to write: neither the request, nor a
worker, nor a worker to come. The one exception is a push that raised although
it had appended the id; then the request and a worker write the same row.
-/

import ImagePipeline.Cluster.Statuses

namespace ImagePipeline.Properties.Finality

open Common
open Cluster
open Api.CreateJob (Routed Phase)
open Library (Machine FifoLog)

/-- Anything may raise, with or without effect, but a status update that raises
has not been applied. -/
def statusWritesFaithful : Environment :=
  { request := fun phase reply =>
      match phase with
      | .markFailed _ => reply.faithful
      | _ => true
    worker := fun phase reply => !phase.marking || reply.faithful
    stops := true }

/-- Only `push_job` raises, and only `RedisError`. -/
def pushesRaise : Environment :=
  { request := fun phase reply => if phase.pushing then reply.redisOnly else reply = .answered
    worker := fun _ reply => reply = .answered
    stops := false }

section Definitions

variable {R P W Image : Type} {site : Deployment R P W Image}

/-- The job's push raised a `RedisError` and appended the id all the same. -/
def Ambiguous (state : State site) (jobId : JobId) : Prop :=
  ∃ call ∈ state.pushCalls, site.jobId call.1 = jobId ∧
    ∃ fault, call.2 = .raised fault true ∧ fault.exn.isRedisError = true

/-- The request's push has raised a `RedisError`. -/
def PushRaised (state : State site) (request : R) : Prop :=
  ∃ fault applied, (request, Reply.raised fault applied) ∈ state.pushCalls ∧
    fault.exn.isRedisError = true

/-- Nobody is left who could write the job's status. -/
structure Free (state : State site) (jobId : JobId) : Prop where
  unheld : ∀ worker, ¬ state.holds worker jobId
  unqueued : ∀ name, jobId ∉ (state.queue name).items
  unsubmitted : ∀ request, site.jobId request = jobId →
    (state.requests request).submitting = false

/-- A job with a last status is free, unless its push was ambiguous. -/
def Final (state : State site) : Prop :=
  ∀ jobId status, state.stores.jobs.statusOf jobId = some status → status.terminal = true →
    ¬ Ambiguous state jobId → Free state jobId

/-- A request marks its row FAILED only after its push has raised. -/
def Marking (state : State site) : Prop :=
  ∀ request routed, state.requests request = .markFailed routed → PushRaised state request

/-- What an answer with status code 503 implies. -/
def Refused (state : State site) : Prop :=
  ∀ request outcome, state.requests request = .ended outcome → outcome.statusCode = 503 →
    PushRaised state request ∧ (¬ Ambiguous state (site.jobId request) →
      state.stores.jobs.statusOf (site.jobId request) = some .failed)

end Definitions

section Facts

variable {R P W Image : Type} {site : Deployment R P W Image} {state : State site}

theorem not_pushed_of_pushRaised (owned : state.Ownership) (delivered : state.Deliveries)
    {request : R} (raised : PushRaised state request)
    (unambiguous : ¬ Ambiguous state (site.jobId request)) (name : QueueName) :
    site.jobId request ∉ (state.queue name).pushed := by
  intro pushed
  obtain ⟨fault, applied, member, redis⟩ := raised
  obtain ⟨call, called, took, _, sameId⟩ := delivered.mem_pushed.mp pushed
  obtain rfl := owned.call_unique called member (site.fresh sameId)
  cases applied with
  | false => cases took
  | true => exact unambiguous ⟨_, member, rfl, fault, rfl, redis⟩

theorem not_pushed_of_submitting (owned : state.Ownership) (delivered : state.Deliveries)
    (marking : Marking state) {request : R}
    (submitting : (state.requests request).submitting = true)
    (unambiguous : ¬ Ambiguous state (site.jobId request)) (name : QueueName) :
    site.jobId request ∉ (state.queue name).pushed := by
  cases current : state.requests request with
  | markFailed routed =>
      exact not_pushed_of_pushRaised owned delivered (marking request routed current)
        unambiguous name
  | push routed =>
      intro pushed
      obtain ⟨call, called, _, _, sameId⟩ := delivered.mem_pushed.mp pushed
      have past := (owned.pushCalled call called).1
      rw [site.fresh sameId, current] at past
      cases past
  | _ =>
      rw [current] at submitting
      cases submitting

theorem free_of_not_pushed (holders : state.Holders) {jobId : JobId}
    (absent : ∀ name, jobId ∉ (state.queue name).pushed)
    (unsubmitted : ∀ request, site.jobId request = jobId →
      (state.requests request).submitting = false) : Free state jobId where
  unheld worker held :=
    absent _ (FifoLog.mem_pushed.mpr (.inl (holders.popped worker jobId held)))
  unqueued name waiting := absent name (FifoLog.mem_pushed.mpr (.inr waiting))
  unsubmitted := unsubmitted

end Facts

section Steps

variable {R P W Image : Type} {site : Deployment R P W Image} {before after : State site}

theorem Final.initial : Final (State.initial site) := by
  intro jobId status known
  cases known

theorem Marking.initial : Marking (State.initial site) := by
  intro request routed marking
  cases marking

theorem Refused.initial : Refused (State.initial site) := by
  intro request outcome ended
  cases ended

variable [DecidableEq R] [DecidableEq P] [DecidableEq W]

theorem Ambiguous.step (effect : before.Effect after) {jobId : JobId}
    (ambiguous : Ambiguous before jobId) : Ambiguous after jobId := by
  obtain ⟨call, member, rest⟩ := ambiguous
  exact ⟨call, effect.pushCalls_kept member, rest⟩

theorem PushRaised.step (effect : before.Effect after) {request : R}
    (raised : PushRaised before request) : PushRaised after request := by
  obtain ⟨fault, applied, member, redis⟩ := raised
  exact ⟨fault, applied, effect.pushCalls_kept member, redis⟩

theorem Marking.step (marking : Marking before) (effect : before.Effect after) :
    Marking after := by
  intro request routed marks
  have earlier (same : after.requests request = before.requests request) :
      PushRaised after request :=
    (marking request routed (same.symm.trans marks)).step effect
  have copy := effect
  cases copy with
  | popped => exact earlier rfl
  | quiet _ _ _ later pushing =>
      have submitting := (later request).submitting (by rw [marks]; rfl)
      cases current : before.requests request with
      | markFailed old => exact (marking request old current).step effect
      | push old => exact earlier (pushing request (by rw [current]; rfl))
      | _ =>
          rw [current] at submitting
          cases submitting
  | inserted inserting took accepted =>
      rename_i mover routedMover now reply jobs
      by_cases same : request = mover
      · subst same
        rw [State.afterRequest_same] at marks
        cases reply with
        | answered => cases marks
        | raised fault applied =>
            rw [Reply.result, Phase.afterInsert_fault] at marks
            cases marks
      · exact earlier (before.afterRequest_other _ _ _ _ _ same)
  | pushCall pushing =>
      rename_i mover routedMover reply
      by_cases same : request = mover
      · subst same
        have called := before.afterRequest_pushed request reply
          (before.stores.setQueue routedMover.target
            (reply.write (before.queue routedMover.target)
              ((before.queue routedMover.target).push (site.jobId request))).1)
          (.afterPush (site.jobId request) routedMover reply.result) (by rw [pushing]; rfl)
        rw [State.afterRequest_same] at marks
        cases reply with
        | answered => cases marks
        | raised fault applied =>
            refine ⟨fault, applied, ?_, ?_⟩
            · rw [called]
              exact List.mem_append_right _ (List.mem_singleton.mpr rfl)
            · by_contra notRedis
              rw [Reply.result, Phase.afterPush, if_neg notRedis] at marks
              cases marks
      · exact earlier (before.afterRequest_other _ _ _ _ _ same)

/-- Once nobody is left to write a job's status, nobody comes. -/
theorem Free.step (owned : before.Ownership) (delivered : after.Deliveries)
    (ownedAfter : after.Ownership) (effect : before.Effect after) {jobId : JobId}
    {status : Status} (known : before.stores.jobs.statusOf jobId = some status)
    (free : Free before jobId) : Free after jobId := by
  refine ⟨?_, ?_, ?_⟩
  · intro worker held
    rcases effect.holds held with earlier | ⟨rest, popped, _⟩
    · exact free.unheld worker earlier
    · apply free.unqueued (site.queueName worker)
      rw [(FifoLog.pop?_spec popped).1]
      exact List.mem_append_right _ (List.mem_singleton.mpr rfl)
  · intro name waiting
    have pushed : jobId ∈ (before.queue name).pushed := by
      have pushedAfter := FifoLog.mem_pushed.mpr (.inr waiting)
      rcases effect.pushed with ⟨_, same⟩ | ⟨request, routed, reply, pushing, _, _, queues⟩
      · rwa [same] at pushedAfter
      · rw [queues, List.mem_append] at pushedAfter
        rcases pushedAfter with earlier | added
        · exact earlier
        · split at added
          · have own := List.mem_singleton.mp added
            have submitted := free.unsubmitted request own.symm
            rw [pushing] at submitted
            cases submitted
          · cases added
    rcases FifoLog.mem_pushed.mp pushed with popped | waitingBefore
    · exact FifoLog.not_popped_of_waiting (delivered.pushedOnce ownedAfter name) waiting
        (effect.popped_kept popped)
    · exact free.unqueued name waitingBefore
  · intro request own
    cases submitting : (after.requests request).submitting with
    | false => rfl
    | true =>
        rcases effect.submitting submitting with earlier | ⟨beforeInsert, _⟩
        · rw [free.unsubmitted request own] at earlier
          cases earlier
        · obtain ⟨row, member, sameId, _⟩ := JobsTable.statusOf_isSome known
          have entry := JobsTable.submission_mem member
          obtain ⟨owner, routed, now, same, _⟩ := owned.rowsOwned _ entry
          have ownId : row.jobId = site.jobId owner := congrArg JobRow.jobId same
          obtain rfl : owner = request := site.fresh (ownId.symm.trans (sameId.trans own.symm))
          exact absurd ⟨routed, now, same ▸ entry⟩ (owned.not_inserted beforeInsert)

theorem Free.status {event : Event R W} (stepped : before.Stepped event after) {jobId : JobId}
    {status : Status} (known : before.stores.jobs.statusOf jobId = some status)
    (free : Free before jobId) : after.stores.jobs.statusOf jobId = some status := by
  cases stepped with
  | started => exact known
  | stopped => exact known
  | restarted => exact known
  | requested served =>
      rcases request_status served jobId with
        same | ⟨_, _, absent, _⟩ | ⟨rfl, ⟨routed, marking⟩, _⟩
      · exact same.trans known
      · rw [known] at absent
        cases absent
      · have submitted := free.unsubmitted _ rfl
        rw [marking] at submitted
        cases submitted
  | worked served =>
      rcases worker_status served jobId with same | ⟨held, _⟩
      · exact same.trans known
      · exact absurd held (free.unheld _)

theorem free_of_marked {request : R} {reply : Reply} {stores : Stores}
    {next : Phase site.runtime (site.request request)} (owned : before.Ownership)
    (delivered : before.Deliveries) (marking : Marking before)
    (holders : (before.afterRequest request reply stores next).Holders)
    (effect : before.Effect (before.afterRequest request reply stores next))
    {routed : Routed site.runtime (site.request request)}
    (marks : before.requests request = .markFailed routed)
    (ends : next = .afterMarkFailed reply.result)
    (unambiguous : ¬ Ambiguous before (site.jobId request)) :
    Free (before.afterRequest request reply stores next) (site.jobId request) := by
  refine free_of_not_pushed holders (fun name => ?_) (fun other own => ?_)
  · have absent := not_pushed_of_submitting owned delivered marking
      (by rw [marks]; rfl) unambiguous name
    rcases effect.pushed with ⟨_, same⟩ | ⟨other, _, _, pushing, past, _, queues⟩
    · rw [same]
      exact absent
    · rw [queues, List.mem_append, not_or]
      refine ⟨absent, fun added => ?_⟩
      split at added
      · obtain rfl := site.fresh (List.mem_singleton.mp added)
        cases marks.symm.trans pushing
      · cases added
  · obtain rfl := site.fresh own
    rw [State.afterRequest_same, ends]
    cases reply <;> rfl

theorem free_of_settled {worker : W} {stores : Stores} {next : Worker.RunOnce.Phase}
    (owned : before.Ownership) (delivered : before.Deliveries) (marking : Marking before)
    (holders : before.Holders)
    (delivers : (before.afterWorker worker stores next).Deliveries)
    (owns : (before.afterWorker worker stores next).Ownership)
    (effect : before.Effect (before.afterWorker worker stores next)) {jobId : JobId}
    (held : before.holds worker jobId) (ends : next = .idle)
    (unambiguous : ¬ Ambiguous before jobId) :
    Free (before.afterWorker worker stores next) jobId := by
  have popped := holders.popped worker jobId held
  constructor
  · intro colleague heldAfter
    by_cases same : colleague = worker
    · subst same
      rw [State.holds, State.afterWorker_same, ends] at heldAfter
      cases heldAfter
    · rw [State.holds, before.afterWorker_other _ _ _ same] at heldAfter
      exact same (holders.alone colleague worker jobId heldAfter held)
  · intro name waiting
    have poppedAfter := effect.popped_kept popped
    have same := delivers.one_queue (FifoLog.mem_pushed.mpr (.inr waiting))
      (FifoLog.mem_pushed.mpr (.inl poppedAfter))
    exact FifoLog.not_popped_of_waiting (delivers.pushedOnce owns name) waiting
      (same ▸ poppedAfter)
  · intro request own
    cases submitting : (before.requests request).submitting with
    | false => exact submitting
    | true =>
        subst own
        exact absurd (FifoLog.mem_pushed.mpr (.inl popped))
          (not_pushed_of_submitting owned delivered marking submitting unambiguous _)

theorem Final.step {event : Event R W} (final : Final before)
    (invariants : before.Ownership ∧ before.Deliveries ∧ before.Holders)
    (invariantsAfter : after.Ownership ∧ after.Deliveries ∧ after.Holders)
    (marking : Marking before)
    (permitted : statusWritesFaithful.permits before event = true)
    (stepped : before.Stepped event after) : Final after := by
  obtain ⟨owned, delivered, holders⟩ := invariants
  obtain ⟨ownedAfter, deliveredAfter, holdersAfter⟩ := invariantsAfter
  have effect := stepped.effect
  intro jobId status known terminal unambiguous
  have unambiguousBefore : ¬ Ambiguous before jobId :=
    fun ambiguous => unambiguous (ambiguous.step effect)
  have settled (same : after.stores.jobs.statusOf jobId = before.stores.jobs.statusOf jobId) :
      Free after jobId :=
    (final jobId status (same.symm.trans known) terminal unambiguousBefore).step owned
      deliveredAfter ownedAfter effect (same.symm.trans known)
  cases stepped with
  | started => exact settled rfl
  | stopped => exact settled rfl
  | restarted => exact settled rfl
  | requested served =>
      rcases request_status served jobId with
        same | ⟨_, _, _, pending⟩ | ⟨rfl, ⟨routed, marks⟩, ends, _⟩
      · exact settled same
      · obtain rfl := Option.some.inj (known.symm.trans pending)
        cases terminal
      · exact free_of_marked owned delivered marking holdersAfter effect marks ends
          unambiguousBefore
  | worked served =>
      rename_i worker reply stores next
      rcases worker_status served jobId with
        same | ⟨held, marks, took, written, write, changed⟩
      · exact settled same
      · have answered : reply = .answered := by
          change (!(before.workers worker).marking || reply.faithful) = true at permitted
          rw [marks] at permitted
          exact reply.answered_of_faithful permitted took
        cases write with
        | processing =>
            change stores.jobs.statusOf jobId = some status at known
            cases earlier : before.stores.jobs.statusOf jobId with
            | none =>
                rw [earlier] at changed
                rw [changed] at known
                cases known
            | some old =>
                rw [earlier] at changed
                obtain rfl := Option.some.inj (known.symm.trans changed)
                cases terminal
        | last _ _ _ ends =>
            exact free_of_settled owned delivered marking holders deliveredAfter ownedAfter effect
              held (ends answered) unambiguousBefore

theorem Refused.step {event : Event R W} (refused : Refused before) (final : Final before)
    (owned : before.Ownership) (marking : Marking before)
    (stepped : before.Stepped event after) : Refused after := by
  have effect := stepped.effect
  intro request outcome ended isRefused
  rcases stepped.ended ended with earlier | ⟨_, broken⟩ | ⟨now, reply, rfl, ending⟩
  · obtain ⟨raised, failed⟩ := refused request outcome earlier isRefused
    refine ⟨raised.step effect, fun unambiguous => ?_⟩
    have unambiguousBefore : ¬ Ambiguous before (site.jobId request) :=
      fun ambiguous => unambiguous (ambiguous.step effect)
    have known := failed unambiguousBefore
    exact (final _ _ known rfl unambiguousBefore).status stepped known
  · rw [isRefused] at broken
    rcases broken with wrong | wrong <;> cases wrong
  · obtain ⟨routed, marks, rfl⟩ := ending.of_refused isRefused
    refine ⟨(marking request routed marks).step effect, fun _ => ?_⟩
    have inserted := owned.submitted request (by rw [marks]; rfl)
    obtain ⟨row, member, _, _, same⟩ := inserted.row
    have sameId : row.jobId = site.jobId request := congrArg JobRow.jobId same
    have known := JobsTable.statusOf_of_mem member
    rw [sameId] at known
    cases stepped with
    | requested served =>
        rename_i stores next
        rw [State.afterRequest_stores]
        generalize before.requests request = phase at served marks
        subst marks
        cases served with
        | failed early => cases early
        | marked =>
            rw [JobsTable.statusOf_updateStatus, if_pos rfl, known]
            rfl

end Steps

section Results

variable {R P W Image : Type} [DecidableEq R] [DecidableEq P] [DecidableEq W]
  {site : Deployment R P W Image}

structure Settling (state : State site) : Prop where
  final : Final state
  marking : Marking state
  refused : Refused state

theorem settling_of_reachable {state : State site}
    (reached : (machine site).Reachable statusWritesFaithful.permits state) : Settling state :=
  reached.invariant Settling ⟨.initial, .initial, .initial⟩
    (fun reachedBefore kept permitted taken =>
      have stepped := State.step_cases taken
      have invariants := State.reachable_invariants reachedBefore
      have invariantsAfter := State.reachable_invariants (reachedBefore.snoc permitted taken)
      ⟨kept.final.step invariants invariantsAfter kept.marking permitted stepped,
        kept.marking.step stepped.effect,
        kept.refused.step kept.final invariants.1 kept.marking stepped⟩)

theorem status_kept {state later : State site}
    (reached : (machine site).Reachable statusWritesFaithful.permits state)
    (reaches : (machine site).Reaches statusWritesFaithful.permits state later) {jobId : JobId}
    {status : Status} (known : state.stores.jobs.statusOf jobId = some status)
    (terminal : status.terminal = true) (unambiguous : ¬ Ambiguous later jobId) :
    later.stores.jobs.statusOf jobId = some status := by
  refine (Machine.Reaches.preserves (fun current : State site =>
    (machine site).Reachable statusWritesFaithful.permits current ∧
      (¬ Ambiguous current jobId → current.stores.jobs.statusOf jobId = some status))
    ?_ reaches ⟨reached, fun _ => known⟩).2 unambiguous
  intro before event after ⟨reachedBefore, kept⟩ permitted taken
  refine ⟨reachedBefore.snoc permitted taken, fun still => ?_⟩
  have stepped := State.step_cases taken
  have earlier : ¬ Ambiguous before jobId := fun ambiguous => still (ambiguous.step stepped.effect)
  exact ((settling_of_reachable reachedBefore).final jobId status (kept earlier) terminal
    earlier).status stepped (kept earlier)

/-- Unless a job's push raised and appended its id all the same, its last
status is final, and if its request was answered 503 it is FAILED and was never
in a queue. -/
theorem last_statuses_are_final {state later : State site}
    (reached : (machine site).Reachable statusWritesFaithful.permits state)
    (reaches : (machine site).Reaches statusWritesFaithful.permits state later) {jobId : JobId}
    (unambiguous : ¬ Ambiguous later jobId) :
    (∀ status, state.stores.jobs.statusOf jobId = some status → status.terminal = true →
      later.stores.jobs.statusOf jobId = some status) ∧
    (∀ request outcome, site.jobId request = jobId → state.requests request = .ended outcome →
      outcome.statusCode = 503 → later.stores.jobs.statusOf jobId = some .failed ∧
        ∀ name, jobId ∉ (later.queue name).pushed) := by
  refine ⟨fun status known terminal => status_kept reached reaches known terminal unambiguous, ?_⟩
  rintro request outcome rfl ended isRefused
  obtain ⟨raised, failed⟩ := (settling_of_reachable reached).refused request outcome ended isRefused
  have earlier : ¬ Ambiguous state (site.jobId request) := fun ambiguous =>
    unambiguous (reaches.preserves (fun current => Ambiguous current (site.jobId request))
      (fun kept _ taken => kept.step (State.step_cases taken).effect) ambiguous)
  have raisedLater : PushRaised later request :=
    reaches.preserves (fun current => PushRaised current request)
      (fun kept _ taken => kept.step (State.step_cases taken).effect) raised
  have reachedLater := reached.reaches reaches
  exact ⟨status_kept reached reaches (failed earlier) rfl unambiguous,
    not_pushed_of_pushRaised (State.reachable_ownership reachedLater)
      (State.reachable_deliveries reachedLater) raisedLater unambiguous⟩

/-- The push of the only request, and what follows it. -/
def pushEnds (push : Reply) : List (Event Bool Unit) :=
  .start false :: List.replicate 4 (.request false 0 .answered) ++
    [.request false 0 push, .request false 0 .answered]

/-- A push that raises without effect: FAILED, also after a pop. -/
theorem last_statuses_are_final_unqueued :
    ∃ state later : State smallSite,
      state.stores.jobs.statusOf firstJob = some .failed ∧
        (∀ status, state.stores.jobs.statusOf firstJob = some status → status.terminal = true →
          later.stores.jobs.statusOf firstJob = some status) := by
  let events := pushEnds (.raised .redisError false)
  have ran : ((machine smallSite).run statusWritesFaithful.permits (.initial smallSite)
      (events ++ [.worker () .answered])).isSome = true := by
    decide +kernel
  have calls : ((machine smallSite).finalState statusWritesFaithful.permits
      (events ++ [.worker () .answered])).pushCalls = [(false, .raised .redisError false)] := by
    decide +kernel
  refine ⟨_, _, ?_, (last_statuses_are_final (.finalState events) (.finalState ran) ?_).1⟩
  · decide +kernel
  · intro ⟨call, member, _, fault, appended, _⟩
    rw [calls, List.mem_singleton] at member
    rw [member] at appended
    cases appended

/-- A last status is not final when the push raised after it had appended the
id: the API marks the row FAILED, then a worker marks it PROCESSING. -/
theorem failed_jobs_can_be_processed :
    ¬ ∀ state later : State smallSite,
      (machine smallSite).Reachable pushesRaise.permits state →
      (machine smallSite).Reaches pushesRaise.permits state later →
      ∀ jobId status, state.stores.jobs.statusOf jobId = some status → status.terminal = true →
        later.stores.jobs.statusOf jobId = some status := by
  intro final
  let events := pushEnds (.raised .redisTimeout true)
  let more : List (Event Bool Unit) := List.replicate 3 (.worker () .answered)
  have ran : ((machine smallSite).run pushesRaise.permits (.initial smallSite)
      (events ++ more)).isSome = true := by
    decide +kernel
  have failed : ((machine smallSite).finalState pushesRaise.permits
      events).stores.jobs.statusOf firstJob = some .failed := by
    decide +kernel
  have processing : ((machine smallSite).finalState pushesRaise.permits
      (events ++ more)).stores.jobs.statusOf firstJob = some .processing := by
    decide +kernel
  have claimed := final _ _ (.finalState events) (.finalState ran) firstJob .failed failed rfl
  rw [processing] at claimed
  cases claimed

end Results

end ImagePipeline.Properties.Finality
