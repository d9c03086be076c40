/-
`Worker.run_once` as the source writes it: one `try` around all stages, two of
them inside `retry_with_backoff`. How every call to a service ends is given
beforehand; the trace records the calls, the rendering and the log events.
Times are not modelled.
-/

import ImagePipeline.Common.Retry
import ImagePipeline.Common.Stores
import ImagePipeline.Worker.ImageProcessor

namespace ImagePipeline.Worker.Pass

open Common

inductive ServiceCall where
  | getNextJob
  | getJob
  | markProcessing
  | download (attempt : Nat)
  | upload (attempt : Nat) (key : Str) (data : Bytes)
  | markDone
  | markFailed
  deriving DecidableEq

inductive Event where
  | called (call : ServiceCall) (reply : Reply)
  /-- `process_image` returned. -/
  | processed
  | retry (event : RetryEvent)
  | slept (seconds : PyFloat)
  | logged (event : Str) (status : Option Status)

def Event.isUpload : Event → Bool
  | .called (.upload _ _ _) _ => true
  | _ => false

/-- How the calls of one pass end. Attempts are counted from 1. -/
structure Replies where
  getNextJob : Reply
  getJob : Reply
  markProcessing : Reply
  download : Nat → Reply
  upload : Nat → Reply
  markDone : Reply
  markFailed : Reply

structure World where
  stores : Stores
  trace : List Event

def World.record (event : Event) (world : World) : World :=
  { world with trace := world.trace ++ [event] }

section Stages

variable {Image : Type} (runtime : Runtime) (imaging : Imaging Image) (queueName : QueueName)
  (uniform : Jitter) (replies : Replies)

/-- The call is recorded, it changes the stores, and it returns or raises. -/
def callService {α : Type} (call : ServiceCall) (reply : Reply)
    (effect : Stores → Stores × Except Exn α) : EStateM Exn World α :=
  fun world =>
    let (stores, answer) := effect world.stores
    let after := { stores, trace := world.trace ++ [.called call reply] }
    match answer with
    | .ok value => .ok value after
    | .error raised => .error raised after

def lift {α : Type} (result : Except Exn α) : EStateM Exn World α :=
  fun world =>
    match result with
    | .ok value => .ok value world
    | .error raised => .error raised world

def logEvent (event : Str) (status : Option Status) : EStateM Exn World Unit :=
  fun world => .ok () (world.record (.logged event status))

def getNextJob : EStateM Exn World (Option JobId) :=
  callService .getNextJob replies.getNextJob fun stores =>
    let (queue, answer) := Common.getNextJob (stores.queues queueName) replies.getNextJob
    (stores.setQueue queueName queue, answer)

def getJob (jobId : JobId) : EStateM Exn World JobMetadata :=
  callService .getJob replies.getJob fun stores =>
    (stores, replies.getJob.read (stores.jobs.getJob jobId))

def updateStatus (call : ServiceCall) (reply : Reply) (jobId : JobId) (status : Status) :
    EStateM Exn World Unit :=
  callService call reply fun stores =>
    let (jobs, answer) := reply.write stores.jobs (stores.jobs.updateStatus jobId status)
    ({ stores with jobs }, answer)

def markProcessing (jobId : JobId) : EStateM Exn World Unit :=
  updateStatus .markProcessing replies.markProcessing jobId .processing

def markDone (jobId : JobId) : EStateM Exn World Unit :=
  updateStatus .markDone replies.markDone jobId .done

def markFailed (jobId : JobId) : EStateM Exn World Unit :=
  updateStatus .markFailed replies.markFailed jobId .failed

def download (inputKey : Str) (attempt : Nat) : EStateM Exn World Bytes :=
  callService (.download attempt) (replies.download attempt) fun stores =>
    (stores, Common.download stores.objects inputKey (replies.download attempt))

def upload (outputKey : Str) (data : Bytes) (attempt : Nat) : EStateM Exn World Unit :=
  callService (.upload attempt outputKey data) (replies.upload attempt) fun stores =>
    let (objects, answer) := Common.upload stores.objects outputKey data (replies.upload attempt)
    ({ stores with objects }, answer)

/-- `log_event`, `random.uniform` and `time.sleep`. -/
def surroundings : Surroundings World :=
  { uniform := uniform
    sleep := fun seconds world => world.record (.slept seconds)
    logFunction := some (fun event world => world.record (.retry event)) }

/-- Decoding, `process_image`, and saving as PNG. -/
def render (inputBytes : Bytes) (pipeline : List PipelineStep) : EStateM Exn World Bytes := do
  let image ← lift (imaging.openImage inputBytes)
  let resultImage ← lift (processImage runtime imaging image pipeline []).1
  modify (World.record .processed)
  lift (imaging.savePng resultImage)

/-- The body of the `try`. -/
def processJob (jobId : JobId) : EStateM Exn World Unit := do
  let metadata ← getJob replies jobId
  markProcessing replies jobId
  let inputBytes ← retryWithBackoff {} (surroundings uniform) (str "storage_download")
    (download replies metadata.inputKey)
  let data ← render runtime imaging inputBytes metadata.pipeline
  retryWithBackoff {} (surroundings uniform) (str "storage_upload")
    (upload replies metadata.outputKey data)
  markDone replies jobId
  logEvent (str "job_finished") (some .done)

def runOnce : EStateM Exn World Unit := do
  match ← getNextJob queueName replies with
  | none => pure ()
  | some jobId => do
      logEvent (str "job_picked") none
      tryCatch (processJob runtime imaging uniform replies jobId) fun _ => do
        logEvent (str "job_failed") (some .failed)
        markFailed replies jobId

end Stages

end ImagePipeline.Worker.Pass
