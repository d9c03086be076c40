/-
Who put what where. Every row was inserted by one request, every id in a queue
was pushed by the request that inserted its row, and every id a worker holds
was popped from that worker's queue. Nothing here depends on which calls raise.
-/

import ImagePipeline.Cluster.Steps

namespace ImagePipeline.Cluster

open Common
open Api.CreateJob (Routed newRow)
open Library (Machine FifoLog)

namespace State

section Definitions

variable {R P W Image : Type} {site : Deployment R P W Image}

def appends (site : Deployment R P W Image) (name : QueueName) (calls : List (R × Reply)) :
    List JobId :=
  calls.filterMap (fun call =>
    if call.2.takesEffect = true ∧ (site.request call.1).target? site.runtime = some name then
      some (site.jobId call.1)
    else none)

def Inserted (state : State site) (request : R) : Prop :=
  ∃ (routed : Routed site.runtime (site.request request)) (now : Timestamp),
    newRow (site.jobId request) routed now ∈ state.stores.jobs.submissions

theorem Inserted.row {state : State site} {request : R} (inserted : state.Inserted request) :
    ∃ row ∈ state.stores.jobs.rows,
      ∃ (routed : Routed site.runtime (site.request request)) (now : Timestamp),
        row.submission = newRow (site.jobId request) routed now := by
  obtain ⟨routed, now, member⟩ := inserted
  obtain ⟨row, known, same⟩ := JobsTable.mem_submissions.mp member
  exact ⟨row, known, routed, now, same⟩

structure Ownership (state : State site) : Prop where
  rowsOwned : ∀ entry ∈ state.stores.jobs.submissions,
    ∃ (request : R) (routed : Routed site.runtime (site.request request)) (now : Timestamp),
      entry = newRow (site.jobId request) routed now ∧
        (state.requests request).beforeInsert = false
  submitted : ∀ request, (state.requests request).submitting = true → state.Inserted request
  pushCalled : ∀ call ∈ state.pushCalls,
    (state.requests call.1).pastPush = true ∧ state.Inserted call.1
  pushCalledOnce : (state.pushCalls.map Prod.fst).Nodup

/-- The queues' histories are the calls of `push_job` that took effect, in
their order. -/
structure Deliveries (state : State site) : Prop where
  pushed : ∀ name, (state.queue name).pushed = appends site name state.pushCalls

structure Holders (state : State site) : Prop where
  popped : ∀ worker jobId, state.holds worker jobId →
    jobId ∈ (state.queue (site.queueName worker)).popped
  alone : ∀ worker colleague jobId, state.holds worker jobId → state.holds colleague jobId →
    worker = colleague

theorem Inserted.of_submissions {before after : State site} {request : R}
    (inserted : before.Inserted request)
    (kept : ∀ entry ∈ before.stores.jobs.submissions, entry ∈ after.stores.jobs.submissions) :
    after.Inserted request := by
  obtain ⟨routed, now, member⟩ := inserted
  exact ⟨routed, now, kept _ member⟩

end Definitions

section Steps

variable {R P W Image : Type} {site : Deployment R P W Image} {before after : State site}

theorem Ownership.initial : (State.initial site).Ownership where
  rowsOwned _ member := nomatch member
  submitted _ submitting := nomatch submitting
  pushCalled _ member := nomatch member
  pushCalledOnce := List.nodup_nil

theorem Deliveries.initial : (State.initial site).Deliveries := ⟨fun _ => rfl⟩

theorem Holders.initial : (State.initial site).Holders where
  popped _ _ held := nomatch held
  alone _ _ _ held := nomatch held

theorem Deliveries.mem_pushed {state : State site} (delivered : state.Deliveries)
    {name : QueueName} {jobId : JobId} :
    jobId ∈ (state.queue name).pushed ↔
      ∃ call ∈ state.pushCalls, call.2.takesEffect = true ∧
        (site.request call.1).target? site.runtime = some name ∧ site.jobId call.1 = jobId := by
  rw [delivered.pushed, appends, List.mem_filterMap]
  simp only [Option.ite_none_right_eq_some, Option.some.injEq, and_assoc]

theorem Ownership.pipeline_decodes {state : State site} (owned : state.Ownership) {row : JobRow}
    (member : row ∈ state.stores.jobs.rows) :
    ∃ pipeline, pipelineFromJson row.pipeline = .ok pipeline := by
  obtain ⟨request, routed, now, same, _⟩ :=
    owned.rowsOwned _ (JobsTable.submission_mem member)
  have stored : row.pipeline = pipelineToJson routed.pipeline := congrArg JobRow.pipeline same
  exact ⟨routed.pipeline, by rw [stored, pipelineFromJson_pipelineToJson]⟩

theorem Ownership.not_inserted {state : State site} (owned : state.Ownership) {request : R}
    (beforeInsert : (state.requests request).beforeInsert = true) : ¬ state.Inserted request := by
  intro ⟨routed, now, member⟩
  obtain ⟨owner, _, _, same, inserted⟩ := owned.rowsOwned _ member
  obtain rfl : request = owner := site.fresh (congrArg JobRow.jobId same)
  rw [beforeInsert] at inserted
  cases inserted

theorem Ownership.call_unique {state : State site} (owned : state.Ownership)
    {call other : R × Reply} (member : call ∈ state.pushCalls)
    (memberOther : other ∈ state.pushCalls) (same : call.1 = other.1) : call = other :=
  List.inj_on_of_nodup_map owned.pushCalledOnce member memberOther same

theorem Deliveries.pushedOnce {state : State site} (delivered : state.Deliveries)
    (owned : state.Ownership) (name : QueueName) : (state.queue name).pushed.Nodup := by
  rw [delivered.pushed]
  apply (List.pairwise_map.mp owned.pushCalledOnce).filterMap
  intro call later different jobId appended other appendedLater same
  simp only [Option.ite_none_right_eq_some, Option.some.injEq] at appended appendedLater
  exact different (site.fresh (appended.2.trans (same.trans appendedLater.2.symm)))

theorem Deliveries.one_queue {state : State site} (delivered : state.Deliveries)
    {name other : QueueName} {jobId : JobId} (member : jobId ∈ (state.queue name).pushed)
    (memberOther : jobId ∈ (state.queue other).pushed) : name = other := by
  obtain ⟨call, _, _, target, rfl⟩ := delivered.mem_pushed.mp member
  obtain ⟨callOther, _, _, targetOther, same⟩ := delivered.mem_pushed.mp memberOther
  rw [site.fresh same] at targetOther
  exact Option.some.inj (target.symm.trans targetOther)

theorem row_of_pushed {state : State site} (owned : state.Ownership)
    (delivered : state.Deliveries) {name : QueueName} {jobId : JobId}
    (pushed : jobId ∈ (state.queue name).pushed) :
    ∃ row ∈ state.stores.jobs.rows, row.jobId = jobId ∧
      ∃ pipeline heavy, pipelineFromJson row.pipeline = .ok pipeline ∧
        Api.isHeavyPipeline site.runtime pipeline = .ok heavy ∧
        name = Api.targetQueue heavy := by
  obtain ⟨call, called, _, target, rfl⟩ := delivered.mem_pushed.mp pushed
  obtain ⟨row, member, routed, now, same⟩ := (owned.pushCalled call called).2.row
  have sameId : row.jobId = site.jobId call.1 := congrArg JobRow.jobId same
  have stored : row.pipeline = pipelineToJson routed.pipeline := congrArg JobRow.pipeline same
  refine ⟨row, member, sameId, routed.pipeline, routed.heavy, ?_, routed.classified, ?_⟩
  · rw [stored, pipelineFromJson_pipelineToJson]
  · exact Option.some.inj (target.symm.trans routed.target?_eq)

private theorem taken_alone (owned : before.Ownership) (delivered : before.Deliveries)
    (holders : before.Holders)
    {worker colleague : W} {jobId : JobId} {rest : JobQueue}
    (popped : (before.queue (site.queueName worker)).pop? = some (jobId, rest))
    (held : before.holds colleague jobId) : False := by
  have gone := holders.popped colleague jobId held
  have waiting : jobId ∈ (before.queue (site.queueName worker)).items := by
    rw [(FifoLog.pop?_spec popped).1]
    exact List.mem_append_right _ (List.mem_singleton.mpr rfl)
  have same : site.queueName worker = site.queueName colleague :=
    delivered.one_queue (FifoLog.mem_pushed.mpr (.inr waiting))
      (FifoLog.mem_pushed.mpr (.inl gone))
  exact FifoLog.not_popped_of_waiting (delivered.pushedOnce owned _) waiting (same ▸ gone)

variable [DecidableEq R] [DecidableEq P] [DecidableEq W]

theorem Effect.submissions (effect : before.Effect after) {entry : JobRow}
    (member : entry ∈ before.stores.jobs.submissions) :
    entry ∈ after.stores.jobs.submissions := by
  cases effect with
  | quiet submissions => rw [submissions]; exact member
  | inserted inserting took accepted =>
      rw [afterRequest_stores, JobsTable.insert_submissions accepted]
      exact List.mem_append_left _ member
  | pushCall pushing => exact member
  | popped => exact member

theorem Effect.later (effect : before.Effect after) (request : R) :
    ((before.requests request).beforeInsert = false →
      (after.requests request).beforeInsert = false) ∧
    ((before.requests request).pastPush = true → (after.requests request).pastPush = true) := by
  have moved {mover : R} {reply : Reply} {stores : Stores}
      {next : Api.CreateJob.Phase site.runtime (site.request mover)}
      (inserted : next.beforeInsert = false)
      (past : (before.requests mover).pastPush = true → next.pastPush = true) :
      ((before.requests request).beforeInsert = false →
        ((before.afterRequest mover reply stores next).requests request).beforeInsert = false) ∧
      ((before.requests request).pastPush = true →
        ((before.afterRequest mover reply stores next).requests request).pastPush = true) := by
    by_cases same : request = mover
    · subst request
      rw [afterRequest_same]
      exact ⟨fun _ => inserted, past⟩
    · rw [before.afterRequest_other _ _ _ _ _ same]
      exact ⟨id, id⟩
  cases effect with
  | quiet _ _ _ later => exact ⟨(later request).inserted, (later request).pastPush⟩
  | inserted inserting took accepted =>
      refine moved (Api.CreateJob.Phase.afterInsert_beforeInsert _ _) (fun past => ?_)
      rw [inserting] at past
      cases past
  | pushCall pushing =>
      exact moved (Api.CreateJob.Phase.afterPush_beforeInsert _ _ _)
        (fun _ => Api.CreateJob.Phase.afterPush_pastPush _ _ _)
  | popped => exact ⟨id, id⟩

/-- The only way to append an id is a call of `push_job`, which appends it to
the queue chosen for the job if it takes effect. -/
theorem Effect.pushed (effect : before.Effect after) :
    (after.pushCalls = before.pushCalls ∧
      ∀ name, (after.queue name).pushed = (before.queue name).pushed) ∨
    ∃ (request : R) (routed : Routed site.runtime (site.request request)) (reply : Reply),
      before.requests request = .push routed ∧ (after.requests request).pastPush = true ∧
      after.pushCalls = before.pushCalls ++ [(request, reply)] ∧
      ∀ name, (after.queue name).pushed = (before.queue name).pushed ++
        if name = routed.target ∧ reply.takesEffect = true then [site.jobId request] else [] := by
  cases effect with
  | quiet submissions queues pushCalls =>
      exact .inl ⟨pushCalls, fun name => congrArg (fun queues => (queues name).pushed) queues⟩
  | inserted inserting =>
      refine .inl ⟨before.afterRequest_pushCalls _ _ _ _ ?_, fun name => rfl⟩
      rw [inserting]
      rfl
  | popped idle popped kept =>
      rename_i worker jobId rest next
      refine .inl ⟨rfl, fun name => ?_⟩
      change ((before.stores.setQueue (site.queueName worker) rest).queues name).pushed = _
      by_cases same : name = site.queueName worker
      · subst name
        rw [Stores.setQueue_same]
        exact (FifoLog.pop?_spec popped).2.1
      · rw [Stores.setQueue_other _ _ same]
        rfl
  | pushCall pushing =>
      rename_i request routed reply
      have wasPushing : (before.requests request).pushing = true := by rw [pushing]; rfl
      refine .inr ⟨request, routed, reply, pushing, ?_,
        before.afterRequest_pushed _ _ _ _ wasPushing, fun name => ?_⟩
      · rw [afterRequest_same]
        exact Api.CreateJob.Phase.afterPush_pastPush ..
      · rw [queue, afterRequest_stores]
        by_cases same : name = routed.target
        · subst name
          rw [Stores.setQueue_same]
          cases took : reply.takesEffect <;> simp [Reply.write, took]
        · rw [Stores.setQueue_other _ _ same, if_neg (fun both => same both.1), List.append_nil]
          rfl

theorem Effect.pushCalls_kept (effect : before.Effect after) {call : R × Reply}
    (member : call ∈ before.pushCalls) : call ∈ after.pushCalls := by
  rcases effect.pushed with ⟨same, _⟩ | ⟨_, _, _, _, _, appended, _⟩
  · rw [same]
    exact member
  · rw [appended]
    exact List.mem_append_left _ member

theorem Effect.pushing (effect : before.Effect after) {request : R}
    (pushing : (before.requests request).pushing = true) :
    (after.requests request).pushing = true ∨ ∃ reply, (request, reply) ∈ after.pushCalls := by
  cases effect with
  | quiet _ _ _ _ unmoved => exact .inl (by rw [unmoved request pushing]; exact pushing)
  | popped => exact .inl pushing
  | inserted inserting =>
      rename_i mover routed now reply jobs accepted took
      by_cases same : request = mover
      · subst same
        rw [inserting] at pushing
        cases pushing
      · exact .inl (by rw [before.afterRequest_other _ _ _ _ _ same]; exact pushing)
  | pushCall pushes =>
      rename_i mover routed reply
      by_cases same : request = mover
      · subst same
        refine .inr ⟨reply, ?_⟩
        rw [before.afterRequest_pushed _ _ _ _ pushing]
        exact List.mem_append_right _ (List.mem_singleton.mpr rfl)
      · exact .inl (by rw [before.afterRequest_other _ _ _ _ _ same]; exact pushing)

theorem Effect.submitting (effect : before.Effect after) {request : R}
    (submitting : (after.requests request).submitting = true) :
    (before.requests request).submitting = true ∨
      (before.requests request).beforeInsert = true ∧ after.Inserted request := by
  cases effect with
  | quiet _ _ _ later => exact .inl ((later request).submitting submitting)
  | popped => exact .inl submitting
  | inserted inserting took accepted =>
      rename_i mover routed now reply jobs
      by_cases same : request = mover
      · subst request
        refine .inr ⟨by rw [inserting]; rfl, routed, now, ?_⟩
        rw [afterRequest_stores, JobsTable.insert_submissions accepted]
        exact List.mem_append_right _ (List.mem_singleton.mpr rfl)
      · rw [before.afterRequest_other _ _ _ _ _ same] at submitting
        exact .inl submitting
  | pushCall pushing =>
      rename_i mover routed reply
      by_cases same : request = mover
      · subst request
        exact .inl (by rw [pushing]; rfl)
      · rw [before.afterRequest_other _ _ _ _ _ same] at submitting
        exact .inl submitting

theorem Effect.inserted_earlier (effect : before.Effect after) {request : R}
    (inserted : after.Inserted request) :
    before.Inserted request ∨ ∃ routed, before.requests request = .insertRow routed := by
  obtain ⟨routed, now, member⟩ := inserted
  cases effect with
  | quiet submissions => exact .inl ⟨routed, now, submissions ▸ member⟩
  | pushCall => exact .inl ⟨routed, now, member⟩
  | popped => exact .inl ⟨routed, now, member⟩
  | inserted inserting took accepted =>
      rename_i mover routedMover nowMover reply jobs
      rw [afterRequest_stores, JobsTable.insert_submissions accepted, List.mem_append,
        List.mem_singleton] at member
      rcases member with known | same
      · exact .inl ⟨routed, now, known⟩
      · obtain rfl : request = mover := site.fresh (congrArg JobRow.jobId same)
        exact .inr ⟨routedMover, inserting⟩

theorem Ownership.step (owned : before.Ownership) (effect : before.Effect after) :
    after.Ownership := by
  have kept {request : R} (inserted : before.Inserted request) : after.Inserted request :=
    inserted.of_submissions (fun _ => effect.submissions)
  refine ⟨?_, ?_, ?_, ?_⟩
  · intro entry member
    have old (known : entry ∈ before.stores.jobs.submissions) :
        ∃ (request : R) (routed : Routed site.runtime (site.request request)) (now : Timestamp),
          entry = newRow (site.jobId request) routed now ∧
            (after.requests request).beforeInsert = false := by
      obtain ⟨request, routed, now, same, inserted⟩ := owned.rowsOwned entry known
      exact ⟨request, routed, now, same, (effect.later request).1 inserted⟩
    cases effect with
    | quiet submissions => exact old (submissions ▸ member)
    | pushCall => exact old member
    | popped => exact old member
    | inserted inserting took accepted =>
        rename_i request routed now reply jobs
        rw [afterRequest_stores, JobsTable.insert_submissions accepted, List.mem_append,
          List.mem_singleton] at member
        rcases member with known | rfl
        · exact old known
        · refine ⟨request, routed, now, rfl, ?_⟩
          rw [afterRequest_same]
          exact Api.CreateJob.Phase.afterInsert_beforeInsert ..
  · intro request submitting
    rcases effect.submitting submitting with earlier | ⟨_, inserted⟩
    · exact kept (owned.submitted request earlier)
    · exact inserted
  · intro call member
    have old (known : call ∈ before.pushCalls) :
        (after.requests call.1).pastPush = true ∧ after.Inserted call.1 := by
      obtain ⟨past, inserted⟩ := owned.pushCalled call known
      exact ⟨(effect.later call.1).2 past, kept inserted⟩
    rcases effect.pushed with ⟨same, _⟩ | ⟨request, routed, reply, pushing, past, appended, _⟩
    · exact old (same ▸ member)
    · rw [appended, List.mem_append, List.mem_singleton] at member
      rcases member with known | rfl
      · exact old known
      · exact ⟨past, kept (owned.submitted request (by rw [pushing]; rfl))⟩
  · rcases effect.pushed with ⟨same, _⟩ | ⟨request, routed, reply, pushing, past, appended, _⟩
    · rw [same]
      exact owned.pushCalledOnce
    · rw [appended, List.map_append, List.map_singleton, List.nodup_append]
      refine ⟨owned.pushCalledOnce, List.nodup_singleton _, ?_⟩
      rintro caller calledBefore other same rfl
      obtain rfl := List.mem_singleton.mp same
      obtain ⟨call, member, rfl⟩ := List.mem_map.mp calledBefore
      have pastPush := (owned.pushCalled call member).1
      rw [pushing] at pastPush
      cases pastPush

theorem Deliveries.step (delivered : before.Deliveries) (effect : before.Effect after) :
    after.Deliveries := by
  refine ⟨fun name => ?_⟩
  rcases effect.pushed with
    ⟨calls, queues⟩ | ⟨request, routed, reply, pushing, past, calls, queues⟩
  · rw [calls, queues]
    exact delivered.pushed name
  · rw [calls, queues, delivered.pushed]
    simp only [appends, List.filterMap_append, routed.target?_eq, Option.some.injEq,
      List.filterMap_cons, List.filterMap_nil]
    congr 1
    by_cases hit : name = routed.target ∧ reply.takesEffect = true
    · rw [if_pos hit, if_pos ⟨hit.2, hit.1.symm⟩]
    · rw [if_neg hit, if_neg (fun both => hit ⟨both.2.symm, both.1⟩)]

theorem Effect.popped_kept (effect : before.Effect after) {name : QueueName} {jobId : JobId}
    (member : jobId ∈ (before.queue name).popped) : jobId ∈ (after.queue name).popped := by
  cases effect with
  | quiet _ queues =>
      rw [queue, queues]
      exact member
  | inserted => exact member
  | popped idle popped kept =>
      rename_i worker gone rest next
      change jobId ∈ ((before.stores.setQueue (site.queueName worker) rest).queues name).popped
      by_cases same : name = site.queueName worker
      · subst name
        rw [Stores.setQueue_same, (FifoLog.pop?_spec popped).2.2]
        exact List.mem_append_left _ member
      · rw [Stores.setQueue_other _ _ same]
        exact member
  | pushCall pushing =>
      rename_i request routed reply
      rw [queue, afterRequest_stores]
      by_cases same : name = routed.target
      · subst name
        rw [Stores.setQueue_same]
        cases took : reply.takesEffect <;> simpa [Reply.write, took] using member
      · rw [Stores.setQueue_other _ _ same]
        exact member

theorem Effect.holds (effect : before.Effect after) {worker : W} {jobId : JobId}
    (held : after.holds worker jobId) :
    before.holds worker jobId ∨
      ∃ rest, (before.queue (site.queueName worker)).pop? = some (jobId, rest) ∧
        jobId ∈ (after.queue (site.queueName worker)).popped ∧
        ∀ colleague, colleague ≠ worker → ∀ other, after.holds colleague other →
          before.holds colleague other := by
  cases effect with
  | quiet _ _ _ _ _ kept => exact .inl (kept worker jobId held)
  | inserted => exact .inl held
  | pushCall => exact .inl held
  | popped idle popped kept =>
      rename_i mover gone rest next
      by_cases same : worker = mover
      · subst worker
        rw [State.holds, afterWorker_same] at held
        obtain rfl := kept jobId held
        refine .inr ⟨rest, popped, ?_, ?_⟩
        · rw [queue, afterWorker_stores, Stores.setQueue_same, (FifoLog.pop?_spec popped).2.2]
          exact List.mem_append_right _ (List.mem_singleton.mpr rfl)
        · intro colleague different other holding
          rw [State.holds, before.afterWorker_other _ _ _ different] at holding
          exact holding
      · rw [State.holds, before.afterWorker_other _ _ _ same] at held
        exact .inl held

theorem Holders.step (owned : before.Ownership) (delivered : before.Deliveries)
    (holders : before.Holders) (effect : before.Effect after) : after.Holders := by
  constructor
  · intro worker jobId held
    rcases effect.holds held with earlier | ⟨rest, popped, member, _⟩
    · exact effect.popped_kept (holders.popped worker jobId earlier)
    · exact member
  · intro worker colleague jobId held heldToo
    by_contra different
    rcases effect.holds held with earlier | ⟨rest, popped, _, others⟩
    · rcases effect.holds heldToo with earlierToo | ⟨rest, popped, _, others⟩
      · exact different (holders.alone worker colleague jobId earlier earlierToo)
      · exact taken_alone owned delivered holders popped earlier
    · exact taken_alone owned delivered holders popped
        (others colleague (Ne.symm different) jobId heldToo)

/-- All three hold in every state of every run, whatever raises or stops. -/
theorem reachable_invariants {permits : State site → Event R W → Bool} {state : State site}
    (reached : (machine site).Reachable permits state) :
    state.Ownership ∧ state.Deliveries ∧ state.Holders := by
  refine reached.invariant (fun state =>
    state.Ownership ∧ state.Deliveries ∧ state.Holders)
    ⟨.initial, .initial, .initial⟩ ?_
  intro before event after _ ⟨owned, delivered, holders⟩ _ stepped
  have effect := (step_cases stepped).effect
  exact ⟨owned.step effect, delivered.step effect, .step owned delivered holders effect⟩

theorem reachable_ownership {permits : State site → Event R W → Bool} {state : State site}
    (reached : (machine site).Reachable permits state) : state.Ownership :=
  (reachable_invariants reached).1

theorem reachable_deliveries {permits : State site → Event R W → Bool} {state : State site}
    (reached : (machine site).Reachable permits state) : state.Deliveries :=
  (reachable_invariants reached).2.1

end Steps

end State

end ImagePipeline.Cluster
