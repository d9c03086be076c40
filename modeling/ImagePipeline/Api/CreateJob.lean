/-
POST /jobs, cut at its calls to the services. A phase is the point of
`create_job` from which the next call is made, with the local variables that
are still used; the functions named `after…` are the code between one call and
the next. The proofs carried by the locals say where their values came from.
-/

import ImagePipeline.Api.Pipeline
import ImagePipeline.Common.Stores

namespace ImagePipeline.Api.CreateJob

open Common

/-- One POST /jobs call. The form field is given by what `json.loads` makes of
it, `none` being a `JSONDecodeError`. -/
structure Request where
  pipeline : Option Json
  filename : Option Str
  imageBytes : Bytes
  idempotencyKey : Option Str

/-- `if idempotency_key:`. A missing and an empty header are alike here. -/
def Request.usableKey (request : Request) : Option Str :=
  match request.idempotencyKey with
  | some (head :: rest) => some (head :: rest)
  | _ => none

theorem Request.usableKey_eq {request : Request} {key : Str}
    (usable : request.usableKey = some key) : request.idempotencyKey = some key := by
  unfold usableKey at usable
  split at usable
  · rename_i found
    rw [found, usable]
  · cases usable

/-- `parsed_pipeline`. -/
structure Submission (runtime : Runtime) (request : Request) where
  pipeline : List PipelineStep
  parsed : parsePipeline runtime request.pipeline = .ok pipeline

/-- `idempotency_request_hash`. -/
def Submission.requestHash {runtime : Runtime} {request : Request}
    (submission : Submission runtime request) : Option Str :=
  request.usableKey.map (fun _ =>
    buildIdempotencyRequestHash runtime submission.pipeline request.imageBytes)

/-- The locals once the target queue is chosen. -/
structure Routed (runtime : Runtime) (request : Request) extends Submission runtime request where
  heavy : Bool
  classified : isHeavyPipeline runtime pipeline = .ok heavy

def Routed.target {runtime : Runtime} {request : Request} (routed : Routed runtime request) :
    QueueName := targetQueue routed.heavy

/-- How a call of the endpoint ends: with its body and status 200, or with an
exception. -/
inductive Outcome where
  | returned (jobId : JobId) (status : Status) (pipeline : Json)
  | raised (exn : Exn)

/-- An exception that is no `HTTPException` is answered with 500. -/
def Outcome.statusCode : Outcome → Nat
  | .returned _ _ _ => 200
  | .raised (.httpException statusCode _) => statusCode
  | .raised _ => 500

theorem Routed.eq {runtime : Runtime} {request : Request} (left right : Routed runtime request) :
    left = right := by
  obtain ⟨⟨pipeline, parsed⟩, heavy, classified⟩ := left
  obtain ⟨⟨other, parsedOther⟩, heavyOther, classifiedOther⟩ := right
  obtain rfl : pipeline = other := Except.ok.inj (parsed.symm.trans parsedOther)
  obtain rfl : heavy = heavyOther := Except.ok.inj (classified.symm.trans classifiedOther)
  rfl

/-- The queue chosen for a request, if its form gets that far. -/
def Request.target? (runtime : Runtime) (request : Request) : Option QueueName :=
  match parsePipeline runtime request.pipeline with
  | .error _ => none
  | .ok pipeline =>
      match isHeavyPipeline runtime pipeline with
      | .error _ => none
      | .ok heavy => some (targetQueue heavy)

theorem Routed.target?_eq {runtime : Runtime} {request : Request}
    (routed : Routed runtime request) : request.target? runtime = some routed.target := by
  simp only [Request.target?, routed.parsed, routed.classified, Routed.target]

def conflict : Exn :=
  .httpException 409 (str "Idempotency-Key was already used for a different request.")

def capacityReached : Exn :=
  .httpException 429 (str "Queue capacity reached. Please retry later.")

def notQueued : Exn :=
  .httpException 503 (str "Job could not be queued. Please retry later.")

/-- The answer for a key that already has a row. -/
def replay (existing : JobMetadata) (existingHash requestHash : Option Str) : Outcome :=
  if existingHash = requestHash then
    .returned existing.jobId existing.status (pipelineToJson existing.pipeline)
  else .raised conflict

inductive Phase (runtime : Runtime) (request : Request) where
  | waiting
  | lookup (submission : Submission runtime request) (key : Str)
      (usable : request.usableKey = some key)
  | checkLength (routed : Routed runtime request)
  | uploadImage (routed : Routed runtime request)
  | insertRow (routed : Routed runtime request)
  | lookupAgain (routed : Routed runtime request) (key : Str)
      (usable : request.usableKey = some key)
  | push (routed : Routed runtime request)
  | markFailed (routed : Routed runtime request)
  | ended (outcome : Outcome)

namespace Phase

variable {runtime : Runtime} {request : Request}

def hasEnded : Phase runtime request → Bool
  | .ended _ => true
  | _ => false

/-- The point right before `queue.length`, reached from both lookups' misses. -/
def route (submission : Submission runtime request) : Phase runtime request :=
  match classified : isHeavyPipeline runtime submission.pipeline with
  | .error raised => .ended (.raised raised)
  | .ok heavy => .checkLength { submission with heavy, classified }

/-- From the start of the function to its first call. -/
def start (runtime : Runtime) (request : Request) : Phase runtime request :=
  match parsed : parsePipeline runtime request.pipeline with
  | .error raised => .ended (.raised raised)
  | .ok pipeline =>
      match usable : request.usableKey with
      | some key => .lookup ⟨pipeline, parsed⟩ key usable
      | none => route ⟨pipeline, parsed⟩

def afterLookup (submission : Submission runtime request) :
    Except Exn (Option (JobMetadata × Option Str)) → Phase runtime request
  | .error raised => .ended (.raised raised)
  | .ok (some (existing, existingHash)) =>
      .ended (replay existing existingHash submission.requestHash)
  | .ok none => route submission

def afterLength (maxQueueLength : Nat) (routed : Routed runtime request) :
    Except Exn Nat → Phase runtime request
  | .error raised => .ended (.raised raised)
  | .ok length =>
      if maxQueueLength ≤ length then .ended (.raised capacityReached) else .uploadImage routed

def afterUpload (routed : Routed runtime request) : Except Exn Unit → Phase runtime request
  | .error raised => .ended (.raised raised)
  | .ok () => .insertRow routed

def afterInsert (routed : Routed runtime request) : Except Exn Unit → Phase runtime request
  | .ok () => .push routed
  | .error .uniqueViolation =>
      match usable : request.usableKey with
      | some key => .lookupAgain routed key usable
      | none => .ended (.raised .uniqueViolation)
  | .error raised => .ended (.raised raised)

def afterLookupAgain (routed : Routed runtime request) :
    Except Exn (Option (JobMetadata × Option Str)) → Phase runtime request
  | .error raised => .ended (.raised raised)
  | .ok (some (existing, existingHash)) =>
      .ended (replay existing existingHash routed.requestHash)
  | .ok none => .ended (.raised .uniqueViolation)

def afterPush (jobId : JobId) (routed : Routed runtime request) :
    Except Exn Unit → Phase runtime request
  | .ok () => .ended (.returned jobId .pending (pipelineToJson routed.pipeline))
  | .error raised =>
      if raised.isRedisError then .markFailed routed else .ended (.raised raised)

def afterMarkFailed : Except Exn Unit → Phase runtime request
  | .ok () => .ended (.raised notQueued)
  | .error raised => .ended (.raised raised)

end Phase

variable {runtime : Runtime} {request : Request}

def newRow (jobId : JobId) (routed : Routed runtime request) (now : Timestamp) : JobRow :=
  { jobId
    idempotencyKey := request.idempotencyKey
    idempotencyRequestHash := routed.requestHash
    pipeline := pipelineToJson routed.pipeline
    inputKey := originalKey jobId request.filename
    outputKey := resultKey jobId
    status := .pending
    createdAt := now }

/-- One call to a service and the code after it. -/
def serve (maxQueueLength : Nat) (jobId : JobId) (stores : Stores) (phase : Phase runtime request)
    (now : Timestamp) (reply : Reply) : Option (Stores × Phase runtime request) :=
  match phase with
  | .waiting => none
  | .lookup submission key _ =>
      some (stores, .afterLookup submission
        (reply.read (stores.jobs.getJobByIdempotencyKey key)))
  | .checkLength routed =>
      some (stores, .afterLength maxQueueLength routed
        (queueLength (stores.queues routed.target) reply))
  | .uploadImage routed =>
      let (objects, answer) :=
        upload stores.objects (originalKey jobId request.filename) request.imageBytes reply
      some ({ stores with objects }, .afterUpload routed answer)
  | .insertRow routed =>
      let created := stores.jobs.createJob jobId routed.pipeline
        (originalKey jobId request.filename) (resultKey jobId) request.idempotencyKey
        routed.requestHash now
      let (jobs, answer) := stores.jobs.insertCall created reply
      some ({ stores with jobs }, .afterInsert routed answer)
  | .lookupAgain routed key _ =>
      some (stores, .afterLookupAgain routed
        (reply.read (stores.jobs.getJobByIdempotencyKey key)))
  | .push routed =>
      let (queue, answer) := pushJob (stores.queues routed.target) jobId reply
      some (stores.setQueue routed.target queue, .afterPush jobId routed answer)
  | .markFailed _ =>
      let (jobs, answer) := reply.write stores.jobs (stores.jobs.updateStatus jobId .failed)
      some ({ stores with jobs }, .afterMarkFailed answer)
  | .ended _ => none

end ImagePipeline.Api.CreateJob
