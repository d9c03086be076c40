/-
`Worker.run_once`, cut at its calls to the services, and the loop around it.
Any exception after a job was picked leads to `mark_failed`; an exception out
of `get_next_job` or of that last `mark_failed` ends the process.
-/

import ImagePipeline.Common.Retry
import ImagePipeline.Common.Stores
import ImagePipeline.Worker.ImageProcessor

namespace ImagePipeline.Worker.RunOnce

open Common

inductive Phase where
  | idle
  | stopped
  | getJob (jobId : JobId)
  | markProcessing (jobId : JobId) (metadata : JobMetadata)
  | download (jobId : JobId) (metadata : JobMetadata) (attempt : Nat)
  | uploadResult (jobId : JobId) (metadata : JobMetadata) (data : Bytes) (attempt : Nat)
  | markDone (jobId : JobId)
  | markFailed (jobId : JobId)

namespace Phase

/-- The job a worker process holds. It is kept nowhere else. -/
def holds : Phase → Option JobId
  | .idle | .stopped => none
  | .getJob jobId | .markProcessing jobId _ | .download jobId _ _ | .uploadResult jobId _ _ _
  | .markDone jobId | .markFailed jobId => some jobId

/-- The next call is a status update. -/
def marking : Phase → Bool
  | .markProcessing _ _ | .markDone _ | .markFailed _ => true
  | _ => false

def afterGetNextJob : Except Exn (Option JobId) → Phase
  | .error _ => .stopped
  | .ok none => .idle
  | .ok (some jobId) => .getJob jobId

def afterGetJob (jobId : JobId) : Except Exn JobMetadata → Phase
  | .error _ => .markFailed jobId
  | .ok metadata => .markProcessing jobId metadata

def afterMarkProcessing (jobId : JobId) (metadata : JobMetadata) : Except Exn Unit → Phase
  | .error _ => .markFailed jobId
  | .ok () => .download jobId metadata 1

/-- The download loop of `retry_with_backoff`, then everything local up to the
first upload attempt. -/
def afterDownload {Image : Type} (runtime : Runtime) (imaging : Imaging Image) (jobId : JobId)
    (metadata : JobMetadata) (attempt : Nat) : Except Exn Bytes → Phase
  | .error _ =>
      match nextAttempt maxAttempts attempt with
      | some next => .download jobId metadata next
      | none => .markFailed jobId
  | .ok inputBytes =>
      match renderResult runtime imaging inputBytes metadata.pipeline with
      | .error _ => .markFailed jobId
      | .ok data => .uploadResult jobId metadata data 1

def afterUpload (jobId : JobId) (metadata : JobMetadata) (data : Bytes) (attempt : Nat) :
    Except Exn Unit → Phase
  | .error _ =>
      match nextAttempt maxAttempts attempt with
      | some next => .uploadResult jobId metadata data next
      | none => .markFailed jobId
  | .ok () => .markDone jobId

def afterMarkDone (jobId : JobId) : Except Exn Unit → Phase
  | .error _ => .markFailed jobId
  | .ok () => .idle

def afterMarkFailed : Except Exn Unit → Phase
  | .error _ => .stopped
  | .ok () => .idle

end Phase

variable {Image : Type}

/-- One call to a service and the code after it. -/
def serve (runtime : Runtime) (imaging : Imaging Image) (queueName : QueueName)
    (stores : Stores) (phase : Phase) (reply : Reply) : Option (Stores × Phase) :=
  match phase with
  | .idle =>
      let (queue, answer) := getNextJob (stores.queues queueName) reply
      some (stores.setQueue queueName queue, .afterGetNextJob answer)
  | .stopped => none
  | .getJob jobId =>
      some (stores, .afterGetJob jobId (reply.read (stores.jobs.getJob jobId)))
  | .markProcessing jobId metadata =>
      let (jobs, answer) := reply.write stores.jobs (stores.jobs.updateStatus jobId .processing)
      some ({ stores with jobs }, .afterMarkProcessing jobId metadata answer)
  | .download jobId metadata attempt =>
      some (stores, .afterDownload runtime imaging jobId metadata attempt
        (download stores.objects metadata.inputKey reply))
  | .uploadResult jobId metadata data attempt =>
      let (objects, answer) := upload stores.objects metadata.outputKey data reply
      some ({ stores with objects }, .afterUpload jobId metadata data attempt answer)
  | .markDone jobId =>
      let (jobs, answer) := reply.write stores.jobs (stores.jobs.updateStatus jobId .done)
      some ({ stores with jobs }, .afterMarkDone jobId answer)
  | .markFailed jobId =>
      let (jobs, answer) := reply.write stores.jobs (stores.jobs.updateStatus jobId .failed)
      some ({ stores with jobs }, .afterMarkFailed answer)

end ImagePipeline.Worker.RunOnce
