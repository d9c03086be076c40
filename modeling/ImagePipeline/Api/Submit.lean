/-
`create_job` as the source writes it: an early return for a known key, and two
`try` blocks around one call each. How every call to a service ends is given
beforehand, with the time of the insert; the calls and the log are recorded.
-/

import ImagePipeline.Api.CreateJobEndings
import ImagePipeline.Library.Stateful

namespace ImagePipeline.Api.Submit

open Common
open CreateJob (Request Outcome conflict capacityReached notQueued)

/-- What is logged about a request, with the arguments of `log_event`. -/
inductive LogEvent where
  | idempotencyConflict (idempotencyKey : Str)
  | idempotencyHit (idempotencyKey : Str) (jobId : JobId) (status : Status)
  | jobRejected429 (targetQueue : QueueName) (queueLength maxQueueLength : Nat)
  /-- `logger.exception`. -/
  | failedToEnqueue (jobId : JobId)
  | jobCreated (jobId : JobId) (targetQueue : QueueName) (queueLengthAtSubmit : Nat)
      (pipeline : Json) (idempotencyKeyPresent : Bool)

/-- How the calls of one request end. None is made twice. -/
structure Replies where
  lookup : Reply
  length : Reply
  upload : Reply
  insert : Reply
  lookupAgain : Reply
  push : Reply
  markFailed : Reply

/-- The stores, the ends of the calls so far, and the log. -/
structure World where
  stores : Stores
  calls : List Reply
  logged : List LogEvent

structure Answer where
  jobId : JobId
  status : Status
  pipeline : Json

def outcomeOf : Except Exn Answer → Outcome
  | .ok answer => .returned answer.jobId answer.status answer.pipeline
  | .error raised => .raised raised

section Calls

def callService {α : Type} (reply : Reply) (effect : Stores → Stores × Except Exn α) :
    EStateM Exn World α :=
  fun world =>
    let (stores, answer) := effect world.stores
    let after := { world with stores, calls := world.calls ++ [reply] }
    match answer with
    | .ok value => .ok value after
    | .error raised => .error raised after

def lift {α : Type} (result : Except Exn α) : EStateM Exn World α :=
  fun world =>
    match result with
    | .ok value => .ok value world
    | .error raised => .error raised world

def logEvent (event : LogEvent) : EStateM Exn World Unit :=
  fun world => .ok () { world with logged := world.logged ++ [event] }

def getJobByIdempotencyKey (reply : Reply) (key : Str) :
    EStateM Exn World (Option (JobMetadata × Option Str)) :=
  callService reply fun stores => (stores, reply.read (stores.jobs.getJobByIdempotencyKey key))

def length (reply : Reply) (queueName : QueueName) : EStateM Exn World Nat :=
  callService reply fun stores => (stores, queueLength (stores.queues queueName) reply)

def upload (reply : Reply) (key : Str) (data : Bytes) : EStateM Exn World Unit :=
  callService reply fun stores =>
    let (objects, answer) := Common.upload stores.objects key data reply
    ({ stores with objects }, answer)

def pushJob (reply : Reply) (jobId : JobId) (queueName : QueueName) : EStateM Exn World Unit :=
  callService reply fun stores =>
    let (queue, answer) := Common.pushJob (stores.queues queueName) jobId reply
    (stores.setQueue queueName queue, answer)

def markFailed (reply : Reply) (jobId : JobId) : EStateM Exn World Unit :=
  callService reply fun stores =>
    let (jobs, answer) := reply.write stores.jobs (stores.jobs.updateStatus jobId .failed)
    ({ stores with jobs }, answer)

end Calls

section Endpoint

variable (runtime : Runtime) (maxQueueLength : Nat) (jobId : JobId) (now : Timestamp)
  (request : Request) (replies : Replies)

/-- `job_repository.create_job` with its keyword arguments. -/
def insertRow (parsedPipeline : List PipelineStep) (requestHash : Option Str) :
    EStateM Exn World Unit :=
  callService replies.insert fun stores =>
    let created := stores.jobs.createJob jobId parsedPipeline
      (originalKey jobId request.filename) (resultKey jobId) request.idempotencyKey
      requestHash now
    let (jobs, answer) := stores.jobs.insertCall created replies.insert
    ({ stores with jobs }, answer)

/-- The answer from an existing entry; the source has it twice. -/
def answerExisting (key : Str) (requestHash : Option Str) (existing : JobMetadata)
    (existingRequestHash : Option Str) : EStateM Exn World Answer :=
  if existingRequestHash ≠ requestHash then do
    logEvent (.idempotencyConflict key)
    throw conflict
  else do
    logEvent (.idempotencyHit key existing.jobId existing.status)
    pure ⟨existing.jobId, existing.status, pipelineToJson existing.pipeline⟩

/-- `except UniqueViolation`. -/
def onUniqueViolation (requestHash : Option Str) : EStateM Exn World Answer :=
  match request.usableKey with
  | none => throw .uniqueViolation
  | some key => do
      match ← getJobByIdempotencyKey replies.lookupAgain key with
      | none => throw .uniqueViolation
      | some (existing, existingRequestHash) =>
          answerExisting key requestHash existing existingRequestHash

/-- From the second `try` on. -/
def enqueue (parsedPipeline : List PipelineStep) (targetQueue : QueueName) (queueLength : Nat) :
    EStateM Exn World Answer := do
  tryCatch (pushJob replies.push jobId targetQueue) fun raised =>
    if raised.isRedisError then do
      markFailed replies.markFailed jobId
      logEvent (.failedToEnqueue jobId)
      throw notQueued
    else throw raised
  logEvent (.jobCreated jobId targetQueue queueLength (pipelineToJson parsedPipeline)
    request.idempotencyKey.isSome)
  pure ⟨jobId, .pending, pipelineToJson parsedPipeline⟩

/-- From the choice of the queue on. -/
def submit (parsedPipeline : List PipelineStep) (requestHash : Option Str) :
    EStateM Exn World Answer := do
  let heavy ← lift (isHeavyPipeline runtime parsedPipeline)
  let targetQueue := Api.targetQueue heavy
  let queueLength ← length replies.length targetQueue
  if maxQueueLength ≤ queueLength then do
    logEvent (.jobRejected429 targetQueue queueLength maxQueueLength)
    throw capacityReached
  else do
    upload replies.upload (originalKey jobId request.filename) request.imageBytes
    let existing ← tryCatch
      (do
        insertRow jobId now request replies parsedPipeline requestHash
        pure none)
      fun raised =>
        if raised = .uniqueViolation then do
          let answer ← onUniqueViolation request replies requestHash
          pure (some answer)
        else throw raised
    match existing with
    | some answer => pure answer
    | none => enqueue jobId request replies parsedPipeline targetQueue queueLength

def createJob : EStateM Exn World Answer := do
  let parsedPipeline ← lift (parsePipeline runtime request.pipeline)
  match request.usableKey with
  | none => submit runtime maxQueueLength jobId now request replies parsedPipeline none
  | some key => do
      let requestHash :=
        some (buildIdempotencyRequestHash runtime parsedPipeline request.imageBytes)
      match ← getJobByIdempotencyKey replies.lookup key with
      | some (existing, existingRequestHash) =>
          answerExisting key requestHash existing existingRequestHash
      | none => submit runtime maxQueueLength jobId now request replies parsedPipeline requestHash

end Endpoint

end ImagePipeline.Api.Submit
