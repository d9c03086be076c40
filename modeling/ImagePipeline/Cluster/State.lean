/-
The whole system: API processes and workers around the shared stores. An event
is one call of one request or worker to a service together with how that call
ends, so a run is an interleaving at the granularity of single calls.

`create_job` has no await after it has read the file. From there on a request
therefore has its process for itself until it ends (`running`).
-/

import ImagePipeline.Api.CreateJobEndings
import ImagePipeline.Library.Machine
import ImagePipeline.Worker.RunOnceCases

namespace ImagePipeline.Cluster

open Common
open Api (CreateJob.Request CreateJob.Outcome)
open Worker (Imaging blackPixel pixelImaging)
open Library (Machine)

/-- Everything that is fixed during a run: the requests that clients may send,
the API process each one goes to, the job id each one would draw, and the queue
each worker is configured for. Any number of requests may stay unsent. -/
structure Deployment (R P W Image : Type) where
  runtime : Runtime
  imaging : Imaging Image
  request : R → CreateJob.Request
  process : R → P
  jobId : R → JobId
  fresh : Function.Injective jobId
  queueName : W → QueueName
  maxQueueLength : Nat

inductive Event (R W : Type) where
  /-- The request has read its file and runs to its first call. -/
  | start (request : R)
  | request (request : R) (now : Timestamp) (reply : Reply)
  | worker (worker : W) (reply : Reply)
  /-- The worker process dies between two calls. -/
  | stop (worker : W)
  | restart (worker : W)

/-- `pushCalls` and `abandoned` are history: every call of `push_job` with how
it ended, and the jobs whose worker was stopped while it held them. -/
structure State {R P W Image : Type} (site : Deployment R P W Image) where
  stores : Stores
  running : P → Option R
  requests : (request : R) → Api.CreateJob.Phase site.runtime (site.request request)
  workers : W → Worker.RunOnce.Phase
  pushCalls : List (R × Reply)
  abandoned : List JobId

namespace State

variable {R P W Image : Type} [DecidableEq R] [DecidableEq P] [DecidableEq W]
  {site : Deployment R P W Image}

def initial (site : Deployment R P W Image) : State site :=
  { stores := .empty
    running := fun _ => none
    requests := fun _ => .waiting
    workers := fun _ => .idle
    pushCalls := []
    abandoned := [] }

def afterStart (state : State site) (request : R) : State site :=
  let next := Api.CreateJob.Phase.start site.runtime (site.request request)
  { state with
    requests := Function.update state.requests request next
    running :=
      if next.hasEnded then state.running
      else Function.update state.running (site.process request) (some request) }

def afterRequest (state : State site) (request : R) (reply : Reply) (stores : Stores)
    (next : Api.CreateJob.Phase site.runtime (site.request request)) : State site :=
  { state with
    stores
    requests := Function.update state.requests request next
    running :=
      if next.hasEnded then Function.update state.running (site.process request) none
      else state.running
    pushCalls :=
      if (state.requests request).pushing then state.pushCalls ++ [(request, reply)]
      else state.pushCalls }

def afterWorker (state : State site) (worker : W) (stores : Stores)
    (next : Worker.RunOnce.Phase) : State site :=
  { state with
    stores
    workers := Function.update state.workers worker next }

def afterStop (state : State site) (worker : W) : State site :=
  { state with
    workers := Function.update state.workers worker .stopped
    abandoned := state.abandoned ++ (state.workers worker).holds.toList }

def afterRestart (state : State site) (worker : W) : State site :=
  { state with workers := Function.update state.workers worker .idle }

def start? (state : State site) (request : R) : Option (State site) :=
  match state.requests request, state.running (site.process request) with
  | .waiting, none => some (state.afterStart request)
  | _, _ => none

def request? (state : State site) (request : R) (now : Timestamp) (reply : Reply) :
    Option (State site) :=
  (Api.CreateJob.serve site.maxQueueLength (site.jobId request) state.stores
    (state.requests request) now reply).map
    (fun (stores, next) => state.afterRequest request reply stores next)

def worker? (state : State site) (worker : W) (reply : Reply) : Option (State site) :=
  (Worker.RunOnce.serve site.runtime site.imaging (site.queueName worker) state.stores
    (state.workers worker) reply).map
    (fun (stores, next) => state.afterWorker worker stores next)

def stop? (state : State site) (worker : W) : Option (State site) :=
  match state.workers worker with
  | .stopped => none
  | _ => some (state.afterStop worker)

def restart? (state : State site) (worker : W) : Option (State site) :=
  match state.workers worker with
  | .stopped => some (state.afterRestart worker)
  | _ => none

def step (state : State site) : Event R W → Option (State site)
  | .start request => state.start? request
  | .request request now reply => state.request? request now reply
  | .worker worker reply => state.worker? worker reply
  | .stop worker => state.stop? worker
  | .restart worker => state.restart? worker

/-- The ids waiting in a queue, the ids ever appended to it and the ids ever
removed from it. -/
def queue (state : State site) (name : QueueName) : JobQueue := state.stores.queues name

def holds (state : State site) (worker : W) (jobId : JobId) : Prop :=
  (state.workers worker).holds = some jobId

end State

/-- The system of a deployment. -/
def machine {R P W Image : Type} [DecidableEq R] [DecidableEq P] [DecidableEq W]
    (site : Deployment R P W Image) : Machine (State site) (Event R W) :=
  { initial := .initial site
    step := State.step }

/-- No restriction on what may happen: any call may raise, with or without
having taken effect, and any worker may stop. -/
def anything {R P W Image : Type} {site : Deployment R P W Image} :
    State site → Event R W → Bool := fun _ _ => true

/-- What may happen, given by how each call may end and whether workers may
be stopped. -/
structure Environment where
  request : {runtime : Common.Runtime} → {request : CreateJob.Request} →
    Api.CreateJob.Phase runtime request → Reply → Bool
  worker : Worker.RunOnce.Phase → Reply → Bool
  stops : Bool

def Environment.permits (environment : Environment) {R P W Image : Type}
    {site : Deployment R P W Image} (state : State site) : Event R W → Bool
  | .start _ => true
  | .request request _ reply => environment.request (state.requests request) reply
  | .worker worker reply => environment.worker (state.workers worker) reply
  | .stop _ => environment.stops
  | .restart _ => true

/-! ### A small deployment -/

/-- `grayscale` on the pixel, with an idempotency key. -/
def pixelRequest : CreateJob.Request :=
  { pipeline := some (.arr [.obj [(str "operation", .str (str "grayscale"))]])
    filename := some (str "pixel.ppm")
    imageBytes := blackPixel
    idempotencyKey := some (str "order-7") }

/-- SHA-256 of the pixel and of `pixelRequest`'s canonical payload. -/
def pixelDigest (data : Bytes) : Str :=
  if data = blackPixel then
    str "29ed444ca1f60c900547fc9b077bdd96e6d2d3729734f115f02e3631c374341d"
  else str "4f7dd4ef0986f1f37e2b3a3a9a33264ab0a0516bd50d0854bf344305de4c330a"

/-- One API process, one worker, and a request with its retry. -/
def smallSite : Deployment Bool Unit Unit Unit :=
  { runtime :=
      { intOfStr := fun _ => none
        floatRepr := fun _ => []
        sha256 := pixelDigest }
    imaging := pixelImaging
    request := fun _ => pixelRequest
    process := fun _ => ()
    jobId := fun retry => if retry then secondJob else firstJob
    fresh := by
      unfold Function.Injective
      decide
    queueName := fun _ => .jobsDefault
    maxQueueLength := 1 }

end ImagePipeline.Cluster
