/-
What a 200 answer promises. It comes from the request's own push or from the
row under its key, and that row outlives a push that failed: a retry after 503
is answered 200 for a job that no worker will ever see.
-/

import ImagePipeline.Cluster.Ownership

namespace ImagePipeline.Properties.Scheduling

open Common
open Cluster
open Api.CreateJob (Routed Phase newRow)
open Library (Machine FifoLog)

/-- `push_job` may raise a `RedisError`, without effect. An insert that raises
has no effect either; everything else may happen. -/
def pushesFail : Environment :=
  { request := fun phase reply =>
      match phase with
      | .push _ => reply.redisOnly && reply.faithful
      | .insertRow _ => reply.faithful
      | _ => true
    worker := fun _ _ => true
    stops := true }

section Definitions

variable {R P W Image : Type} {site : Deployment R P W Image}

def Scheduled (state : State site) (jobId : JobId) : Prop :=
  ∃ name, jobId ∈ (state.queue name).pushed

/-- The request that inserted the job is about to push it. -/
def InFlight (state : State site) (jobId : JobId) : Prop :=
  ∃ request, site.jobId request = jobId ∧ (state.requests request).pushing = true

/-- Every job that a 200 answer has named is scheduled or still in flight. -/
def Honest (state : State site) : Prop :=
  ∀ request jobId, (state.requests request).named? = some jobId →
    Scheduled state jobId ∨ InFlight state jobId

def PushFailed (state : State site) (jobId : JobId) : Prop :=
  ∃ call ∈ state.pushCalls, site.jobId call.1 = jobId ∧ call.2 ≠ .answered

/-- The step does not go wrong: no push raises for a job that a 200 answer has
already named, and no lookup finds, with an equal hash, the row of a job whose
push has raised. -/
def Meets (state : State site) : Event R W → Prop
  | .request request _ reply =>
      ((state.requests request).pushing = true → reply ≠ .answered →
        ∀ other, (state.requests other).named? ≠ some (site.jobId request)) ∧
      (∀ key, (state.requests request).looksFor = some key → reply = .answered →
        ∀ row ∈ state.stores.jobs.rows, row.idempotencyKey = some key →
          row.idempotencyRequestHash = (site.request request).ownHash? site.runtime →
            ¬ PushFailed state row.jobId)
  | _ => True

/-- A row's request is about to push or has called `push_job`, and a call that
raised had no effect. -/
structure Pushes (state : State site) : Prop where
  called : ∀ request, state.Inserted request → (state.requests request).pushing = true ∨
    ∃ reply, (request, reply) ∈ state.pushCalls
  faithful : ∀ call ∈ state.pushCalls, call.2.faithful = true

end Definitions

section Facts

variable {R P W Image : Type} {site : Deployment R P W Image} {state : State site}

theorem not_scheduled_of_pushFailed (owned : state.Ownership) (delivered : state.Deliveries)
    (pushes : Pushes state) {jobId : JobId} (failed : PushFailed state jobId) :
    ¬ (Scheduled state jobId ∨ InFlight state jobId) := by
  obtain ⟨call, member, rfl, raised⟩ := failed
  rintro (⟨name, pushed⟩ | ⟨request, sameId, pushing⟩)
  · obtain ⟨other, called, took, _, sameId⟩ := delivered.mem_pushed.mp pushed
    obtain rfl := owned.call_unique called member (site.fresh sameId)
    exact raised (Reply.answered_of_faithful (pushes.faithful _ member) took)
  · obtain rfl := site.fresh sameId
    have past := (owned.pushCalled call member).1
    rw [Phase.not_pastPush_of_pushing pushing] at past
    cases past

theorem scheduled_of_row (owned : state.Ownership) (delivered : state.Deliveries)
    (pushes : Pushes state) {row : JobRow} (member : row ∈ state.stores.jobs.rows)
    (unfailed : ¬ PushFailed state row.jobId) :
    Scheduled state row.jobId ∨ InFlight state row.jobId := by
  have known := JobsTable.submission_mem member
  obtain ⟨request, routed, now, entry, _⟩ := owned.rowsOwned _ known
  have ownId : row.jobId = site.jobId request := congrArg JobRow.jobId entry
  rcases pushes.called request ⟨routed, now, entry ▸ known⟩ with pushing | ⟨reply, called⟩
  · exact .inr ⟨request, ownId.symm, pushing⟩
  · have answered : reply = .answered := by
      by_contra raised
      exact unfailed ⟨_, called, ownId.symm, raised⟩
    subst answered
    exact .inl ⟨routed.target, delivered.mem_pushed.mpr
      ⟨_, called, rfl, routed.target?_eq, ownId.symm⟩⟩

end Facts

section Steps

variable {R P W Image : Type} {site : Deployment R P W Image} {before after : State site}

theorem Honest.initial : Honest (State.initial site) := by
  intro request jobId named
  cases named

theorem Pushes.initial : Pushes (State.initial site) where
  called request inserted := by
    obtain ⟨routed, now, member⟩ := inserted
    cases member
  faithful _ member := nomatch member

theorem scheduled_of_called (delivered : after.Deliveries) {owner : R}
    (pushing : (before.requests owner).pushing = true)
    (called : (owner, Reply.answered) ∈ after.pushCalls) : Scheduled after (site.jobId owner) := by
  cases current : before.requests owner with
  | push routed =>
      exact ⟨routed.target, delivered.mem_pushed.mpr ⟨_, called, rfl, routed.target?_eq, rfl⟩⟩
  | _ =>
      rw [current] at pushing
      cases pushing

variable [DecidableEq R] [DecidableEq P] [DecidableEq W]

theorem pushed_kept (effect : before.Effect after) {jobId : JobId}
    (scheduled : Scheduled before jobId) : Scheduled after jobId := by
  obtain ⟨name, member⟩ := scheduled
  rcases effect.pushed with ⟨_, same⟩ | ⟨_, _, _, _, _, _, queues⟩
  · exact ⟨name, by rw [same]; exact member⟩
  · exact ⟨name, by rw [queues]; exact List.mem_append_left _ member⟩

theorem pushing_of_inserted {event : Event R W} (owned : before.Ownership)
    (ownedAfter : after.Ownership) (permitted : pushesFail.permits before event = true)
    (stepped : before.Stepped event after) {request : R}
    {routed : Routed site.runtime (site.request request)}
    (inserting : before.requests request = .insertRow routed)
    (inserted : after.Inserted request) : (after.requests request).pushing = true := by
  have fresh : ¬ before.Inserted request := owned.not_inserted (by rw [inserting]; rfl)
  rcases stepped.requests_eq request with
    same | ⟨_, waiting, _⟩ | ⟨now, reply, rfl, served⟩
  · have notYet : (after.requests request).beforeInsert = true := by rw [same, inserting]; rfl
    exact absurd inserted (ownedAfter.not_inserted notYet)
  · rw [inserting] at waiting
    cases waiting
  · change pushesFail.request (before.requests request) reply = true at permitted
    have unchanged (same : after.stores = before.stores) : False := by
      obtain ⟨routed, now, member⟩ := inserted
      exact fresh ⟨routed, now, same ▸ member⟩
    revert permitted
    generalize after.stores = stores at served unchanged
    generalize after.requests request = next at served
    generalize before.requests request = phase at served inserting
    subst inserting
    intro permitted
    cases served with
    | failed => exact (unchanged rfl).elim
    | refused => exact (unchanged rfl).elim
    | inserted took =>
        rw [Reply.answered_of_faithful permitted took]
        rfl

theorem Pushes.step {event : Event R W} (pushes : Pushes before) (owned : before.Ownership)
    (ownedAfter : after.Ownership) (permitted : pushesFail.permits before event = true)
    (stepped : before.Stepped event after) : Pushes after := by
  have effect := stepped.effect
  constructor
  · intro request inserted
    rcases effect.inserted_earlier inserted with earlier | ⟨routed, inserting⟩
    · rcases pushes.called request earlier with pushing | ⟨reply, called⟩
      · exact effect.pushing pushing
      · exact .inr ⟨reply, effect.pushCalls_kept called⟩
    · exact .inl (pushing_of_inserted owned ownedAfter permitted stepped inserting inserted)
  · intro call member
    cases stepped with
    | started => exact pushes.faithful call member
    | worked => exact pushes.faithful call member
    | stopped => exact pushes.faithful call member
    | restarted => exact pushes.faithful call member
    | requested served =>
        rename_i request now reply stores next
        cases pushing : (before.requests request).pushing with
        | false =>
            rw [before.afterRequest_pushCalls _ _ _ _ pushing] at member
            exact pushes.faithful call member
        | true =>
            rw [before.afterRequest_pushed _ _ _ _ pushing, List.mem_append,
              List.mem_singleton] at member
            rcases member with earlier | rfl
            · exact pushes.faithful call earlier
            · change pushesFail.request (before.requests request) reply = true at permitted
              cases current : before.requests request with
              | push routed =>
                  rw [current] at permitted
                  exact (Bool.and_eq_true_iff.mp permitted).2
              | _ =>
                  rw [current] at pushing
                  cases pushing

theorem pushing_or_called {event : Event R W} (stepped : before.Stepped event after)
    {owner : R} (pushing : (before.requests owner).pushing = true) :
    (after.requests owner).pushing = true ∨
      ∃ now reply, event = .request owner now reply ∧ (owner, reply) ∈ after.pushCalls := by
  rcases stepped.requests_eq owner with same | ⟨_, waiting, _⟩ | ⟨now, reply, rfl, _⟩
  · exact .inl (same ▸ pushing)
  · rw [waiting] at pushing
    cases pushing
  · refine .inr ⟨now, reply, rfl, ?_⟩
    cases stepped with
    | requested served =>
        rw [before.afterRequest_pushed _ _ _ _ pushing]
        exact List.mem_append_right _ (List.mem_singleton.mpr rfl)

/-- A step that meets the condition gives no promise it cannot keep. -/
theorem Honest.step {event : Event R W} (honest : Honest before) (pushes : Pushes before)
    (owned : before.Ownership) (delivered : before.Deliveries)
    (deliveredAfter : after.Deliveries) (meets : Meets before event)
    (stepped : before.Stepped event after) : Honest after := by
  have effect := stepped.effect
  intro request jobId named
  obtain ⟨status, pipeline, ended⟩ := Phase.named?_eq named
  rcases stepped.ended ended with earlier | ⟨_, broken⟩ | ⟨now, reply, rfl, ending⟩
  · have namedBefore : (before.requests request).named? = some jobId := by rw [earlier]; rfl
    rcases honest request jobId namedBefore with scheduled | ⟨owner, rfl, pushing⟩
    · exact .inl (pushed_kept effect scheduled)
    · rcases pushing_or_called stepped pushing with still | ⟨now, reply, rfl, called⟩
      · exact .inr ⟨owner, rfl, still⟩
      · have answered : reply = .answered := by
          by_contra raised
          exact meets.1 pushing raised request namedBefore
        subst answered
        exact .inl (scheduled_of_called deliveredAfter pushing called)
  · rcases broken with wrong | wrong <;> cases wrong
  · rcases ending.of_returned with
      ⟨pushing, rfl, rfl⟩ | ⟨rfl, key, looking, _, row, member, keyed, rfl, sameHash⟩
    · rcases pushing_or_called stepped pushing with still | ⟨_, _, same, called⟩
      · rw [ended] at still
        cases still
      · cases same
        exact .inl (scheduled_of_called deliveredAfter pushing called)
    · have unfailed := meets.2 key looking rfl row member keyed sameHash
      rcases scheduled_of_row owned delivered pushes member unfailed with
        scheduled | ⟨owner, sameId, pushing⟩
      · exact .inl (pushed_kept effect scheduled)
      · rcases pushing_or_called stepped pushing with still | ⟨_, _, same, _⟩
        · exact .inr ⟨owner, sameId, still⟩
        · cases same
          rw [Phase.not_looking_of_pushing pushing] at looking
          cases looking

/-- A step that does not meet the condition breaks a promise. -/
theorem meets_of_honest {event : Event R W} (owned : before.Ownership)
    (ownedAfter : after.Ownership) (deliveredAfter : after.Deliveries)
    (pushesAfter : Pushes after) (honest : Honest after)
    (taken : before.step event = some after) : Meets before event := by
  have stepped := State.step_cases taken
  cases event with
  | start => trivial
  | worker => trivial
  | stop => trivial
  | restart => trivial
  | request request now reply =>
      constructor
      · intro pushing raised other named
        have called : (request, reply) ∈ after.pushCalls := by
          cases stepped with
          | requested served =>
              rw [before.afterRequest_pushed _ _ _ _ pushing]
              exact List.mem_append_right _ (List.mem_singleton.mpr rfl)
        have still : (after.requests other).named? = some (site.jobId request) := by
          rcases stepped.requests_eq other with same | ⟨wrong, _⟩ | ⟨_, _, same, _⟩
          · exact same ▸ named
          · cases wrong
          · cases same
            obtain ⟨_, _, ended⟩ := Phase.named?_eq named
            rw [ended] at pushing
            cases pushing
        exact not_scheduled_of_pushFailed ownedAfter deliveredAfter pushesAfter
          ⟨_, called, rfl, raised⟩ (honest other _ still)
      · rintro key looking rfl row member keyed sameHash ⟨call, called, sameId, raised⟩
        obtain ⟨pipeline, decoded⟩ := owned.pipeline_decodes member
        have failed : PushFailed after row.jobId :=
          ⟨call, stepped.effect.pushCalls_kept called, sameId, raised⟩
        have served := Api.CreateJob.serve_looking site.maxQueueLength (site.jobId request) now
          looking member keyed decoded
        have named : (after.requests request).named? = some row.jobId := by
          change (Api.CreateJob.serve _ _ _ _ _ _).map _ = some after at taken
          rw [served] at taken
          cases taken
          rw [State.afterRequest_same, Api.CreateJob.answerFrom, if_pos sameHash]
          rfl
        exact not_scheduled_of_pushFailed ownedAfter deliveredAfter pushesAfter failed
          (honest request _ named)

end Steps

section Results

variable {R P W Image : Type} [DecidableEq R] [DecidableEq P] [DecidableEq W]
  {site : Deployment R P W Image}

theorem pushes_of_reachable {state : State site}
    (reached : (machine site).Reachable pushesFail.permits state) : Pushes state :=
  reached.invariant Pushes .initial
    (fun reachedBefore pushes permitted taken =>
      pushes.step (State.reachable_ownership reachedBefore)
        (State.reachable_ownership (reachedBefore.snoc permitted taken)) permitted
        (State.step_cases taken))

/-- In every run, the promises of 200 answers are kept in all states if and
only if all steps meet the condition. -/
theorem answers_are_honest_iff {events : List (Event R W)} {finish : State site}
    (ran : (machine site).run pushesFail.permits (.initial site) events = some finish) :
    (∀ state, (machine site).Passes pushesFail.permits (.initial site) events state →
      Honest state) ↔
    ∀ state event, (machine site).Takes pushesFail.permits (.initial site) events state event →
      Meets state event := by
  constructor
  · intro honest state event takes
    obtain ⟨permitted, after, taken, passes⟩ := takes.next ran
    obtain ⟨first, _, ranFirst⟩ := takes
    have reached : (machine site).Reachable pushesFail.permits state := ⟨first, ranFirst⟩
    have reachedAfter := reached.snoc permitted taken
    exact meets_of_honest (State.reachable_ownership reached)
      (State.reachable_ownership reachedAfter) (State.reachable_deliveries reachedAfter)
      (pushes_of_reachable reachedAfter) (honest after passes) taken
  · intro met state passes
    refine passes.invariant Honest .initial ?_ met
    intro before event after reached honest meets permitted taken
    have reachedBefore : (machine site).Reachable pushesFail.permits before := reached
    exact honest.step (pushes_of_reachable reachedBefore)
      (State.reachable_ownership reachedBefore) (State.reachable_deliveries reachedBefore)
      (State.reachable_deliveries (reachedBefore.snoc permitted taken)) meets
      (State.step_cases taken)

/-- The first push raises `RedisError`, the request is answered 503, and the
client retries with the same key. -/
def retryAfter503 : List (Event Bool Unit) :=
  .start false :: List.replicate 4 (.request false 0 .answered) ++
    [.request false 0 (.raised .redisError false), .request false 0 .answered, .start true,
      .request true 0 .answered]

theorem retryAfter503_ran :
    ((machine smallSite).run pushesFail.permits (.initial smallSite) retryAfter503).isSome =
      true := by
  decide +kernel

theorem answers_are_honest_iff_retry :
    (∀ state, (machine smallSite).Passes pushesFail.permits (.initial smallSite) retryAfter503
      state → Honest state) ↔
    ∀ state event, (machine smallSite).Takes pushesFail.permits (.initial smallSite)
      retryAfter503 state event → Meets state event :=
  answers_are_honest_iff (Option.some_get retryAfter503_ran).symm

/-- The retry is answered 200 for a job that is in no queue and never will be. -/
theorem retry_promises_unscheduled_job :
    ¬ ∀ state : State smallSite, (machine smallSite).Reachable pushesFail.permits state →
      Honest state := by
  intro honest
  let state : State smallSite := (machine smallSite).finalState pushesFail.permits retryAfter503
  have named : (state.requests true).named? = some firstJob := by decide +kernel
  have unpushed : ∀ name, firstJob ∉ (state.queue name).pushed := by
    intro name
    cases name <;> decide +kernel
  have none : ∀ request, (state.requests request).pushing = false := by decide +kernel
  rcases honest state (.finalState _) true firstJob named with
    ⟨name, pushed⟩ | ⟨request, _, pushing⟩
  · exact unpushed name pushed
  · rw [none] at pushing
    cases pushing

end Results

end ImagePipeline.Properties.Scheduling
