/-
How a call of `create_job` can end, and what its answer says about the tables.
-/

import ImagePipeline.Api.CreateJobCases

namespace ImagePipeline.Api.CreateJob

open Common

variable {runtime : Runtime} {request : Request}

/-- The request's own `build_idempotency_request_hash`, if its form parses. -/
def Request.ownHash? (runtime : Runtime) (request : Request) : Option Str :=
  match parsePipeline runtime request.pipeline with
  | .error _ => none
  | .ok pipeline => some (buildIdempotencyRequestHash runtime pipeline request.imageBytes)

theorem Submission.requestHash_eq (submission : Submission runtime request) {key : Str}
    (usable : request.usableKey = some key) :
    submission.requestHash = request.ownHash? runtime := by
  simp only [Submission.requestHash, usable, Option.map_some, Request.ownHash?,
    submission.parsed]

/-- The job that a 200 answer names. -/
def Phase.named? : Phase runtime request → Option JobId
  | .ended (.returned jobId _ _) => some jobId
  | _ => none

theorem Phase.named?_eq {phase : Phase runtime request} {jobId : JobId}
    (named : phase.named? = some jobId) :
    ∃ status pipeline, phase = .ended (.returned jobId status pipeline) := by
  unfold Phase.named? at named
  split at named
  · cases named
    exact ⟨_, _, rfl⟩
  · cases named

theorem statusCode_of_notHttp {raised : Exn} (notHttp : raised.isHttp = false) :
    (Outcome.raised raised).statusCode = 500 := by
  cases raised with
  | httpException statusCode detail => cases notHttp
  | _ => rfl

theorem serve_looking (maxQueueLength : Nat) (jobId : JobId) (now : Timestamp) {stores : Stores}
    {phase : Phase runtime request} {key : Str} {row : JobRow} {pipeline : List PipelineStep}
    (looking : phase.looksFor = some key) (member : row ∈ stores.jobs.rows)
    (keyed : row.idempotencyKey = some key)
    (decoded : pipelineFromJson row.pipeline = .ok pipeline) :
    serve maxQueueLength jobId stores phase now .answered =
      some (stores, .ended (answerFrom row pipeline (request.ownHash? runtime))) := by
  have located := JobsTable.findKey?_eq_some.mpr ⟨member, keyed⟩
  cases phase with
  | lookup submission found usable =>
      obtain rfl := Option.some.inj looking
      simp only [serve, Reply.read, JobsTable.getJobByIdempotencyKey, located, decoded,
        Except.map, Phase.afterLookup, submission.requestHash_eq usable]
      rfl
  | lookupAgain routed found usable =>
      obtain rfl := Option.some.inj looking
      simp only [serve, Reply.read, JobsTable.getJobByIdempotencyKey, located, decoded,
        Except.map, Phase.afterLookupAgain, routed.requestHash_eq usable]
      rfl
  | _ => cases looking

/-- The ways a call to a service can be a request's last one. -/
inductive Ending (maxQueueLength : Nat) (jobId : JobId) (stores : Stores) :
    Phase runtime request → Reply → Outcome → Prop where
  | replayed {phase : Phase runtime request} {key : Str} {row : JobRow}
      {pipeline : List PipelineStep} (looking : phase.looksFor = some key)
      (usable : request.usableKey = some key) (member : row ∈ stores.jobs.rows)
      (keyed : row.idempotencyKey = some key) :
      Ending maxQueueLength jobId stores phase .answered
        (answerFrom row pipeline (request.ownHash? runtime))
  | created {routed : Routed runtime request} :
      Ending maxQueueLength jobId stores (.push routed) .answered
        (.returned jobId .pending (pipelineToJson routed.pipeline))
  | rejected {routed : Routed runtime request}
      (full : maxQueueLength ≤ (stores.queues routed.target).items.length) :
      Ending maxQueueLength jobId stores (.checkLength routed) .answered
        (.raised capacityReached)
  | unqueued {routed : Routed runtime request} :
      Ending maxQueueLength jobId stores (.markFailed routed) .answered (.raised notQueued)
  | broken {phase : Phase runtime request} {reply : Reply} {raised : Exn}
      (notHttp : raised.isHttp = false) :
      Ending maxQueueLength jobId stores phase reply (.raised raised)

variable {maxQueueLength : Nat} {jobId : JobId} {stores after : Stores} {now : Timestamp}
  {reply : Reply} {phase next : Phase runtime request} {outcome : Outcome}

private theorem ending_of_fault {fault : Fault}
    (ends : (.ended (.raised fault.exn) : Phase runtime request) = .ended outcome) :
    Ending maxQueueLength jobId stores phase reply outcome := by
  cases ends
  exact .broken fault.exn_isHttp

private theorem ending_of_pushFault {routed : Routed runtime request} {fault : Fault}
    (ends : Phase.afterPush jobId routed (.error fault.exn) = .ended outcome) :
    Ending maxQueueLength jobId stores phase reply outcome := by
  rcases Phase.afterPush_error jobId routed fault.exn with next | next
  · rw [next] at ends
    cases ends
  · rw [next] at ends
    exact ending_of_fault ends

theorem Served.ending
    (served : Served maxQueueLength jobId stores now phase reply after next)
    (ends : next = .ended outcome) :
    Ending maxQueueLength jobId stores phase reply outcome := by
  cases served with
  | hit member keyed decoded =>
      rename_i submission key usable row pipeline
      cases ends
      rw [submission.requestHash_eq usable]
      exact .replayed rfl usable member keyed
  | hitAgain member keyed decoded =>
      rename_i routed key usable row pipeline
      cases ends
      rw [routed.requestHash_eq usable]
      exact .replayed rfl usable member keyed
  | miss absent =>
      rename_i submission key usable
      rcases Phase.route_cases submission with ⟨routed, _, next⟩ | ⟨raised, notHttp, next⟩
      · rw [next] at ends
        cases ends
      · rw [next] at ends
        cases ends
        exact .broken notHttp
  | failed early notHttp =>
      cases ends
      exact .broken notHttp
  | rejected full =>
      cases ends
      exact .rejected full
  | admitted => cases ends
  | refused => cases ends
  | stored =>
      cases reply with
      | answered => cases ends
      | raised fault applied => exact ending_of_fault ends
  | inserted took accepted =>
      cases reply with
      | answered => cases ends
      | raised fault applied =>
          rw [Reply.result, Phase.afterInsert_fault] at ends
          exact ending_of_fault ends
  | pushed took =>
      cases reply with
      | answered =>
          cases ends
          exact .created
      | raised fault applied => exact ending_of_pushFault ends
  | unpushed => exact ending_of_pushFault ends
  | marked =>
      cases reply with
      | answered =>
          cases ends
          exact .unqueued
      | raised fault applied => exact ending_of_fault ends
  | unmarked => exact ending_of_fault ends

theorem Phase.start_ended (ends : Phase.start runtime request = .ended outcome) :
    outcome.statusCode = 400 ∨ outcome.statusCode = 500 := by
  unfold Phase.start at ends
  split at ends
  · rename_i raised failed
    cases ends
    rcases parsePipeline_error failed with ⟨detail, rfl⟩ | notHttp
    · exact .inl rfl
    · exact .inr (statusCode_of_notHttp notHttp)
  · split at ends
    · cases ends
    · rename_i pipeline parsed absent
      rcases Phase.route_cases ⟨pipeline, parsed⟩ with ⟨routed, _, next⟩ | ⟨raised, notHttp, next⟩
      · rw [next] at ends
        cases ends
      · rw [next] at ends
        cases ends
        exact .inr (statusCode_of_notHttp notHttp)

theorem Ending.of_ok (ending : Ending maxQueueLength jobId stores phase reply outcome)
    (accepted : outcome.statusCode = 200) :
    ∃ named status pipeline, outcome = .returned named status pipeline := by
  cases ending with
  | created => exact ⟨_, _, _, rfl⟩
  | replayed looking usable member keyed =>
      unfold answerFrom at accepted ⊢
      split at accepted
      · rename_i sameHash
        exact ⟨_, _, _, if_pos sameHash⟩
      · cases accepted
  | rejected => cases accepted
  | unqueued => cases accepted
  | broken notHttp =>
      rw [statusCode_of_notHttp notHttp] at accepted
      cases accepted

theorem Ending.of_returned {named : JobId} {status : Status} {pipeline : Json}
    (ending : Ending maxQueueLength jobId stores phase reply (.returned named status pipeline)) :
    (phase.pushing = true ∧ reply = .answered ∧ named = jobId) ∨
    reply = .answered ∧ ∃ key, phase.looksFor = some key ∧ request.usableKey = some key ∧
      ∃ row ∈ stores.jobs.rows, row.idempotencyKey = some key ∧ row.jobId = named ∧
        row.idempotencyRequestHash = request.ownHash? runtime := by
  generalize answer : Outcome.returned named status pipeline = given at ending
  cases ending with
  | created =>
      cases answer
      exact .inl ⟨rfl, rfl, rfl⟩
  | replayed looking usable member keyed =>
      rename_i key row steps
      unfold answerFrom at answer
      split at answer
      · rename_i sameHash
        cases answer
        exact .inr ⟨rfl, key, looking, usable, row, member, keyed, rfl, sameHash⟩
      · cases answer
  | rejected => cases answer
  | unqueued => cases answer
  | broken => cases answer

theorem Ending.of_conflict (ending : Ending maxQueueLength jobId stores phase reply outcome)
    (refused : outcome.statusCode = 409) :
    ∃ key, request.usableKey = some key ∧ ∃ row ∈ stores.jobs.rows,
      row.idempotencyKey = some key ∧
        row.idempotencyRequestHash ≠ request.ownHash? runtime := by
  cases ending with
  | created => cases refused
  | replayed looking usable member keyed =>
      rename_i key row steps
      unfold answerFrom at refused
      split at refused
      · cases refused
      · rename_i different
        exact ⟨key, usable, row, member, keyed, different⟩
  | rejected => cases refused
  | unqueued => cases refused
  | broken notHttp =>
      rw [statusCode_of_notHttp notHttp] at refused
      cases refused

theorem Ending.of_rejected (ending : Ending maxQueueLength jobId stores phase reply outcome)
    (refused : outcome.statusCode = 429) :
    ∃ routed, phase = .checkLength routed ∧
      maxQueueLength ≤ (stores.queues routed.target).items.length := by
  cases ending with
  | created => cases refused
  | replayed looking usable member keyed =>
      unfold answerFrom at refused
      split at refused <;> cases refused
  | rejected full => exact ⟨_, rfl, full⟩
  | unqueued => cases refused
  | broken notHttp =>
      rw [statusCode_of_notHttp notHttp] at refused
      cases refused

/-- 503 comes from the request that has just marked its row FAILED. -/
theorem Ending.of_refused (ending : Ending maxQueueLength jobId stores phase reply outcome)
    (refused : outcome.statusCode = 503) :
    ∃ routed, phase = .markFailed routed ∧ reply = .answered := by
  cases ending with
  | created => cases refused
  | replayed looking usable member keyed =>
      unfold answerFrom at refused
      split at refused <;> cases refused
  | rejected => cases refused
  | unqueued => exact ⟨_, rfl, rfl⟩
  | broken notHttp =>
      rw [statusCode_of_notHttp notHttp] at refused
      cases refused

end ImagePipeline.Api.CreateJob
