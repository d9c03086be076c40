/-
`create_job` as the source writes it and the phases it is cut into are one
endpoint: served with the ends of its calls, the phases come to the same answer
over the same stores. What is logged on the way is told by the answer.
-/

import ImagePipeline.Api.Submit
import ImagePipeline.Library.Machine

namespace ImagePipeline.Api.Submit

open Common
open CreateJob (Request Submission Routed Outcome Phase conflict capacityReached notQueued replay
  serve)
open Library (Machine)
open Library.Stateful (Ends resultOf stateOf)

/-- A request from its first call on. -/
def phases (runtime : Runtime) (maxQueueLength : Nat) (jobId : JobId) (now : Timestamp)
    (request : Request) (stores : Stores) : Machine (Stores × Phase runtime request) Reply :=
  { initial := (stores, .start runtime request)
    step := fun state reply => serve maxQueueLength jobId state.1 state.2 now reply }

def anyReply {runtime : Runtime} {request : Request} :
    Stores × Phase runtime request → Reply → Bool := fun _ _ => true

/-- The log of a request, by how it was answered. -/
inductive Account (runtime : Runtime) (maxQueueLength : Nat) (jobId : JobId) (request : Request) :
    Outcome → List LogEvent → Prop where
  | created {routed : Routed runtime request} {queueLength : Nat}
      (room : queueLength < maxQueueLength) :
      Account runtime maxQueueLength jobId request
        (.returned jobId .pending (pipelineToJson routed.pipeline))
        [.jobCreated jobId routed.target queueLength (pipelineToJson routed.pipeline)
          request.idempotencyKey.isSome]
  | hit {key : Str} {existing : JobMetadata} (usable : request.usableKey = some key) :
      Account runtime maxQueueLength jobId request
        (.returned existing.jobId existing.status (pipelineToJson existing.pipeline))
        [.idempotencyHit key existing.jobId existing.status]
  | conflict {key : Str} (usable : request.usableKey = some key) :
      Account runtime maxQueueLength jobId request (.raised conflict) [.idempotencyConflict key]
  | rejected {routed : Routed runtime request} {queueLength : Nat}
      (full : maxQueueLength ≤ queueLength) :
      Account runtime maxQueueLength jobId request (.raised capacityReached)
        [.jobRejected429 routed.target queueLength maxQueueLength]
  | unqueued : Account runtime maxQueueLength jobId request (.raised notQueued)
      [.failedToEnqueue jobId]
  | refused {raised : Exn}
      (code : (Outcome.raised raised).statusCode = 400 ∨
        (Outcome.raised raised).statusCode = 500) :
      Account runtime maxQueueLength jobId request (.raised raised) []

theorem Account.length_eq {runtime : Runtime} {maxQueueLength : Nat} {jobId : JobId}
    {request : Request} {outcome : Outcome} {logged : List LogEvent}
    (account : Account runtime maxQueueLength jobId request outcome logged) :
    logged.length = if outcome.statusCode ∈ [200, 409, 429, 503] then 1 else 0 := by
  cases account with
  | refused code =>
      rcases code with bad | broken
      · rw [bad]
        rfl
      · rw [broken]
        rfl
  | _ => rfl

section Endpoint

variable {runtime : Runtime} {maxQueueLength : Nat} {jobId : JobId} {now : Timestamp}
  {request : Request} {replies : Replies} {start : Stores} {world : World}

/-- The calls so far lead to this phase and these stores. -/
def Leads (maxQueueLength : Nat) (jobId : JobId) (now : Timestamp) (start : Stores)
    (phase : Phase runtime request) (world : World) : Prop :=
  (phases runtime maxQueueLength jobId now request start).run anyReply
    (start, .start runtime request) world.calls = some (world.stores, phase)

/-- The request is under way, and nothing is logged yet. -/
structure Underway (maxQueueLength : Nat) (jobId : JobId) (now : Timestamp) (start : Stores)
    (phase : Phase runtime request) (world : World) : Prop where
  leads : Leads maxQueueLength jobId now start phase world
  unlogged : world.logged = []

/-- The request is answered, and its log accounts for the answer. -/
structure Answered (runtime : Runtime) (maxQueueLength : Nat) (jobId : JobId) (now : Timestamp)
    (request : Request) (start : Stores) (result : Except Exn Answer) (world : World) :
    Prop where
  leads : Leads maxQueueLength jobId now start
    (.ended (outcomeOf result) : Phase runtime request) world
  account : Account runtime maxQueueLength jobId request (outcomeOf result) world.logged

theorem callService_leads {α : Type} {phase : Phase runtime request} {reply : Reply}
    {effect : Stores → Stores × Except Exn α} {follow : Except Exn α → Phase runtime request}
    (underway : Underway maxQueueLength jobId now start phase world)
    (step : serve maxQueueLength jobId world.stores phase now reply =
      some ((effect world.stores).1, follow (effect world.stores).2)) :
    Ends (callService reply effect) world
      (fun value after => (effect world.stores).2 = .ok value ∧
        Underway maxQueueLength jobId now start (follow (.ok value)) after)
      (fun raised after => (effect world.stores).2 = .error raised ∧
        Underway maxQueueLength jobId now start (follow (.error raised)) after) := by
  have next (result : Except Exn α) (ended : (effect world.stores).2 = result) :
      Underway maxQueueLength jobId now start (follow result)
        { world with stores := (effect world.stores).1, calls := world.calls ++ [reply] } := by
    rw [ended] at step
    exact ⟨Machine.run_snoc.mpr ⟨(world.stores, phase), underway.leads, rfl, step⟩,
      underway.unlogged⟩
  cases result : (effect world.stores).2 with
  | ok value =>
      refine Ends.of_ok ?_ ⟨rfl, next (.ok value) result⟩
      simp only [callService, result]
  | error raised =>
      refine Ends.of_error ?_ ⟨rfl, next (.error raised) result⟩
      simp only [callService, result]

theorem Underway.refused {raised : Exn}
    (underway : Underway maxQueueLength jobId now start
      (.ended (.raised raised) : Phase runtime request) world) (notHttp : raised.isHttp = false) :
    Answered runtime maxQueueLength jobId now request start (.error raised) world where
  leads := underway.leads
  account := by
    rw [underway.unlogged]
    exact .refused (.inr (CreateJob.statusCode_of_notHttp notHttp))

theorem Underway.logged (result : Except Exn Answer) {event : LogEvent}
    (underway : Underway maxQueueLength jobId now start
      (.ended (outcomeOf result) : Phase runtime request) world)
    (account : Account runtime maxQueueLength jobId request (outcomeOf result) [event]) :
    Answered runtime maxQueueLength jobId now request start result
      { world with logged := world.logged ++ [event] } where
  leads := underway.leads
  account := by
    rw [underway.unlogged]
    exact account

def Answers (runtime : Runtime) (maxQueueLength : Nat) (jobId : JobId) (now : Timestamp)
    (request : Request) (start : Stores) (rest : EStateM Exn World Answer) (world : World) : Prop :=
  Ends rest world
    (fun answer after =>
      Answered runtime maxQueueLength jobId now request start (.ok answer) after)
    (fun raised after =>
      Answered runtime maxQueueLength jobId now request start (.error raised) after)

theorem answerExisting_answers {key : Str} {requestHash existingRequestHash : Option Str}
    {existing : JobMetadata} (usable : request.usableKey = some key)
    (underway : Underway maxQueueLength jobId now start
      (.ended (replay existing existingRequestHash requestHash) : Phase runtime request) world) :
    Answers runtime maxQueueLength jobId now request start
      (answerExisting key requestHash existing existingRequestHash) world := by
  unfold answerExisting
  unfold replay at underway
  by_cases same : existingRequestHash = requestHash
  · rw [if_pos same] at underway
    rw [if_neg (not_not_intro same)]
    exact Ends.of_ok rfl (Underway.logged (.ok ⟨_, _, _⟩) underway (.hit usable))
  · rw [if_neg same] at underway
    rw [if_pos same]
    exact Ends.of_error rfl (Underway.logged (.error conflict) underway (.conflict usable))

theorem result_error {reply : Reply} {raised : Exn} (failed : reply.result = .error raised) :
    raised.isHttp = false := by
  cases reply with
  | answered => cases failed
  | raised fault applied =>
      cases failed
      exact fault.exn_isHttp

theorem markFailed_answers {routed : Routed runtime request}
    (underway : Underway maxQueueLength jobId now start (.markFailed routed) world) {α : Type}
    {returned : α → World → Prop} :
    Ends
      (do
        markFailed replies.markFailed jobId
        logEvent (.failedToEnqueue jobId)
        throw notQueued : EStateM Exn World α) world returned
      (fun raised after =>
        Answered runtime maxQueueLength jobId now request start (.error raised) after) := by
  have marks : Ends (markFailed replies.markFailed jobId) world _ _ :=
    callService_leads underway rfl
  apply Ends.bind marks
  · intro raised after ⟨failed, broken⟩
    exact broken.refused (result_error failed)
  · intro _ after ⟨_, marked⟩
    exact Ends.of_error rfl (Underway.logged (.error notQueued) marked .unqueued)

theorem push_answers {routed : Routed runtime request}
    (underway : Underway maxQueueLength jobId now start (.push routed) world) :
    Ends
      (tryCatch (pushJob replies.push jobId routed.target) fun raised =>
        if raised.isRedisError then do
          markFailed replies.markFailed jobId
          logEvent (.failedToEnqueue jobId)
          throw notQueued
        else throw raised) world
      (fun _ after => Underway maxQueueLength jobId now start (.afterPush jobId routed (.ok ()))
        after)
      (fun raised after =>
        Answered runtime maxQueueLength jobId now request start (.error raised) after) := by
  have pushes : Ends (pushJob replies.push jobId routed.target) world _ _ :=
    callService_leads underway rfl
  refine Ends.tryCatch (pushes.mono (fun _ _ pushed => pushed.2) fun _ _ failed => failed) ?_
  intro raised after ⟨failed, broken⟩
  unfold Phase.afterPush at broken
  dsimp only at broken
  by_cases redis : raised.isRedisError = true
  · rw [if_pos redis] at broken ⊢
    exact markFailed_answers broken
  · rw [if_neg redis] at broken ⊢
    exact Ends.of_error rfl (broken.refused (result_error failed))

theorem enqueue_answers (routed : Routed runtime request) {queueLength : Nat}
    (room : queueLength < maxQueueLength)
    (underway : Underway maxQueueLength jobId now start (.push routed) world) :
    Answers runtime maxQueueLength jobId now request start
      (enqueue jobId request replies routed.pipeline routed.target queueLength) world := by
  unfold enqueue
  apply Ends.bind (push_answers underway)
  · exact fun raised after failed => failed
  · intro _ after pushed
    exact Ends.of_ok rfl (Underway.logged (.ok ⟨_, _, _⟩) pushed (.created room))

/-- The handler of the insert: an answer, and then the endpoint is left. -/
theorem onUniqueViolation_answers {routed : Routed runtime request}
    (underway : Underway maxQueueLength jobId now start
      (.afterInsert routed (.error .uniqueViolation)) world) :
    Answers runtime maxQueueLength jobId now request start
      (onUniqueViolation request replies routed.requestHash) world := by
  unfold onUniqueViolation
  unfold Phase.afterInsert at underway
  dsimp only at underway
  split at underway
  · rename_i key usable
    rw [usable]
    have looks : Ends (getJobByIdempotencyKey replies.lookupAgain key) world _ _ :=
      callService_leads underway rfl
    apply Ends.bind looks
    · intro raised after ⟨failed, broken⟩
      have notHttp : raised.isHttp = false :=
        (Reply.read_error failed).elim JobsTable.getJobByIdempotencyKey_error id
      exact broken.refused notHttp
    · rintro found after ⟨_, looked⟩
      cases found with
      | none => exact Ends.of_error rfl (looked.refused rfl)
      | some entry => exact answerExisting_answers usable looked
  · rename_i unusable
    rw [unusable]
    exact Ends.of_error rfl (underway.refused rfl)

theorem insertCall_error {table : JobsTable} {pipeline : List PipelineStep}
    {inputKey outputKey : Str} {key hash : Option Str} {reply : Reply} {raised : Exn}
    (failed : (table.insertCall
      (table.createJob jobId pipeline inputKey outputKey key hash now) reply).2 = .error raised) :
    raised.isHttp = false := by
  cases created : table.createJob jobId pipeline inputKey outputKey key hash now with
  | ok after =>
      rw [created] at failed
      exact result_error failed
  | error refused =>
      rw [created] at failed
      cases reply with
      | raised fault applied =>
          cases failed
          exact fault.exn_isHttp
      | answered =>
          cases failed
          rcases JobsTable.createJob_error created with rfl | ⟨rfl, _⟩ <;> rfl

theorem insert_answers (routed : Routed runtime request)
    (underway : Underway maxQueueLength jobId now start (.insertRow routed) world) :
    Ends
      (tryCatch
        (do
          insertRow jobId now request replies routed.pipeline routed.requestHash
          pure none)
        fun raised =>
          if raised = .uniqueViolation then do
            let answer ← onUniqueViolation request replies routed.requestHash
            pure (some answer)
          else throw raised) world
      (fun existing after =>
        match existing with
        | none => Underway maxQueueLength jobId now start (.push routed) after
        | some answer =>
            Answered runtime maxQueueLength jobId now request start (.ok answer) after)
      (fun raised after =>
        Answered runtime maxQueueLength jobId now request start (.error raised) after) := by
  have inserts : Ends (insertRow jobId now request replies routed.pipeline routed.requestHash)
      world _ _ := callService_leads underway rfl
  apply Ends.tryCatch (Ends.bind inserts (fun _ _ failed => failed) ?_)
  · intro raised after ⟨failed, broken⟩
    by_cases violated : raised = .uniqueViolation
    · subst violated
      rw [if_pos rfl]
      apply Ends.bind (onUniqueViolation_answers broken)
      · exact fun raised after failed => failed
      · exact fun answer after answered => Ends.pure answered
    · rw [if_neg violated]
      have left : Phase.afterInsert routed (.error raised) = .ended (.raised raised) := by
        unfold Phase.afterInsert
        split
        · rename_i same
          cases same
        · rename_i same
          exact absurd (Except.error.inj same) violated
        · rename_i same
          rw [Except.error.inj same]
      rw [left] at broken
      exact Ends.of_error rfl (broken.refused (insertCall_error failed))
  · intro _ after ⟨_, inserted⟩
    exact Ends.pure inserted

theorem submit_answers (replies : Replies) (submission : Submission runtime request)
    (underway : Underway maxQueueLength jobId now start (.route submission) world) :
    Answers runtime maxQueueLength jobId now request start
      (submit runtime maxQueueLength jobId now request replies submission.pipeline
        submission.requestHash) world := by
  unfold submit
  unfold Phase.route at underway
  split at underway
  · rename_i raised classified
    rw [classified]
    have notHttp : raised.isHttp = false := by
      rw [isHeavyPipeline_error classified]
      rfl
    exact Ends.of_error rfl (underway.refused notHttp)
  · rename_i heavy classified
    rw [classified]
    let routed : Routed runtime request := { submission with heavy, classified }
    have checks : Ends (length replies.length routed.target) world _ _ :=
      callService_leads underway rfl
    apply Ends.bind checks
    · intro raised after ⟨failed, broken⟩
      have notHttp : raised.isHttp = false := (Reply.read_error failed).elim nofun id
      exact broken.refused notHttp
    intro queueLength after ⟨_, checked⟩
    unfold Phase.afterLength at checked
    dsimp only at checked
    by_cases full : maxQueueLength ≤ queueLength
    · rw [if_pos full] at checked ⊢
      have account : Account runtime maxQueueLength jobId request (.raised capacityReached)
          [.jobRejected429 routed.target queueLength maxQueueLength] := .rejected full
      exact Ends.of_error rfl (Underway.logged (.error capacityReached) checked account)
    · rw [if_neg full] at checked ⊢
      have room := Nat.lt_of_not_le full
      have uploads : Ends
          (upload replies.upload (originalKey jobId request.filename) request.imageBytes)
          after _ _ := callService_leads checked rfl
      apply Ends.bind uploads
      · intro raised later ⟨failed, broken⟩
        exact broken.refused (result_error failed)
      intro _ later ⟨_, uploaded⟩
      apply Ends.bind (insert_answers routed uploaded)
      · exact fun raised later failed => failed
      intro existing later inserted
      cases existing with
      | some answer => exact Ends.pure inserted
      | none => exact enqueue_answers routed room inserted

theorem start_unparsed {raised : Exn}
    (failed : parsePipeline runtime request.pipeline = .error raised) :
    Phase.start runtime request = .ended (.raised raised) := by
  unfold Phase.start
  split
  · rename_i same
    rw [Except.error.inj (failed.symm.trans same)]
  · rename_i parsed
    cases failed.symm.trans parsed

theorem start_unkeyed (submission : Submission runtime request)
    (unusable : request.usableKey = none) :
    Phase.start runtime request = .route submission := by
  unfold Phase.start
  split
  · rename_i failed
    cases failed.symm.trans submission.parsed
  · rename_i parsed
    cases Except.ok.inj (parsed.symm.trans submission.parsed)
    split
    · rename_i usable
      cases unusable.symm.trans usable
    · rfl

theorem start_keyed (submission : Submission runtime request) {key : Str}
    (usable : request.usableKey = some key) :
    Phase.start runtime request = .lookup submission key usable := by
  unfold Phase.start
  split
  · rename_i failed
    cases failed.symm.trans submission.parsed
  · rename_i parsed
    cases Except.ok.inj (parsed.symm.trans submission.parsed)
    split
    · rename_i same
      cases Option.some.inj (same.symm.trans usable)
      rfl
    · rename_i unusable
      cases unusable.symm.trans usable

theorem createJob_answers :
    Answers runtime maxQueueLength jobId now request start
      (createJob runtime maxQueueLength jobId now request replies) ⟨start, [], []⟩ := by
  have started : Underway maxQueueLength jobId now start (.start runtime request)
      ⟨start, [], []⟩ := ⟨rfl, rfl⟩
  unfold createJob
  cases parsed : parsePipeline runtime request.pipeline with
  | error raised =>
      have left := start_unparsed parsed
      have code := CreateJob.Phase.start_ended left
      rw [left] at started
      refine Ends.of_error rfl ⟨started.leads, ?_⟩
      rw [started.unlogged]
      exact .refused code
  | ok pipeline =>
      let submission : Submission runtime request := ⟨pipeline, parsed⟩
      cases usable : request.usableKey with
      | none =>
          have unhashed : submission.requestHash = none := by
            rw [Submission.requestHash, usable, Option.map_none]
          rw [start_unkeyed submission usable] at started
          have submits := submit_answers replies submission started
          rw [unhashed] at submits
          exact submits
      | some key =>
          have hashed : submission.requestHash =
              some (buildIdempotencyRequestHash runtime pipeline request.imageBytes) := by
            rw [Submission.requestHash, usable, Option.map_some]
          rw [start_keyed submission usable] at started
          have looks : Ends (getJobByIdempotencyKey replies.lookup key) ⟨start, [], []⟩ _ _ :=
            callService_leads started rfl
          apply Ends.bind looks
          · rintro raised after ⟨failed, broken⟩
            have notHttp : raised.isHttp = false :=
              (Reply.read_error failed).elim JobsTable.getJobByIdempotencyKey_error id
            exact broken.refused notHttp
          · rintro found after ⟨_, looked⟩
            cases found with
            | some entry =>
                unfold Phase.afterLookup at looked
                dsimp only at looked
                rw [hashed] at looked
                exact answerExisting_answers usable looked
            | none =>
                have submits := submit_answers replies submission looked
                rw [hashed] at submits
                exact submits

/-- The endpoint as it is written answers as its phases do, over the same stores,
and it logs one event when it answers 200, 409, 429 or 503, and none otherwise. -/
theorem createJob_served (runtime : Runtime) (maxQueueLength : Nat) (jobId : JobId)
    (now : Timestamp) (request : Request) (replies : Replies) (stores : Stores) :
    let ending := createJob runtime maxQueueLength jobId now request replies ⟨stores, [], []⟩
    let outcome := outcomeOf (resultOf ending)
    (phases runtime maxQueueLength jobId now request stores).run anyReply
        (stores, .start runtime request) (stateOf ending).calls =
          some ((stateOf ending).stores, .ended outcome) ∧
      Account runtime maxQueueLength jobId request outcome (stateOf ending).logged ∧
      (stateOf ending).logged.length =
        if outcome.statusCode ∈ [200, 409, 429, 503] then 1 else 0 := by
  intro ending outcome
  have ends : Ends (createJob runtime maxQueueLength jobId now request replies) ⟨stores, [], []⟩
      _ _ := createJob_answers
  have answered : Answered runtime maxQueueLength jobId now request stores (resultOf ending)
      (stateOf ending) := by
    cases result : resultOf ending with
    | ok answer => exact ends.of_returned result
    | error raised => exact ends.of_raised result
  exact ⟨answered.leads, answered.account, answered.account.length_eq⟩

end Endpoint

end ImagePipeline.Api.Submit
