/-
The log events of `run_once` about a job: it is picked, and finished or failed.
What the retries log is not among them.
-/

import ImagePipeline.Common.JobRepository
import ImagePipeline.Worker.RunOnceCases

namespace ImagePipeline.Worker

open Common
open RunOnce (Phase Served)

inductive JobEvent where
  | picked (jobId : JobId)
  | finished (jobId : JobId)
  | failed (jobId : JobId)
  deriving DecidableEq

/-- What a pass measures, and what it knows of the error when it logs a failure.
Times are rounded already. -/
structure Measured where
  queueName : Str
  pipeline : List PipelineStep
  queueWaitTimeMs : Option PyFloat
  downloadTimeMs : PyFloat
  processingTimeMs : PyFloat
  uploadTimeMs : PyFloat
  totalWorkerTimeMs : PyFloat
  error : Str

namespace JobEvent

def jobId : JobEvent → JobId
  | .picked jobId | .finished jobId | .failed jobId => jobId

def name : JobEvent → Str
  | .picked _ => str "job_picked"
  | .finished _ => str "job_finished"
  | .failed _ => str "job_failed"

def status : JobEvent → Option Status
  | .picked _ => none
  | .finished _ => some .done
  | .failed _ => some .failed

/-- The keyword arguments of `log_event`. -/
def fields (measured : Measured) : JobEvent → Dict
  | .picked jobId =>
      [(str "job_id", .str jobId.text), (str "queue_name", .str measured.queueName)]
  | .finished jobId =>
      [(str "job_id", .str jobId.text), (str "queue_name", .str measured.queueName),
        (str "status", .str Status.done.text),
        (str "pipeline", pipelineToJson measured.pipeline),
        (str "queue_wait_time_ms", (measured.queueWaitTimeMs.map Json.float).getD .null),
        (str "download_time_ms", .float measured.downloadTimeMs),
        (str "processing_time_ms", .float measured.processingTimeMs),
        (str "upload_time_ms", .float measured.uploadTimeMs),
        (str "total_worker_time_ms", .float measured.totalWorkerTimeMs)]
  | .failed jobId =>
      [(str "job_id", .str jobId.text), (str "queue_name", .str measured.queueName),
        (str "status", .str Status.failed.text), (str "error", .str measured.error),
        (str "total_worker_time_ms", .float measured.totalWorkerTimeMs)]

end JobEvent

/-- The event that is logged between two calls. A worker that is about to mark its
job as failed has just logged that it failed. -/
def RunOnce.Phase.logs (before after : Phase) : Option JobEvent :=
  match before, after with
  | .idle, .getJob jobId => some (.picked jobId)
  | .markDone jobId, .idle => some (.finished jobId)
  | .markFailed _, _ => none
  | _, .markFailed jobId => some (.failed jobId)
  | _, _ => none

namespace RunOnce

/-- The failure of the held job has been logged. -/
def Phase.failing : Phase → Bool
  | .markFailed _ => true
  | _ => false

/-- What a call has the worker log, and what becomes of the job it holds. -/
inductive Logged {Image : Type} (runtime : Runtime) (imaging : Imaging Image)
    (queueName : QueueName) (stores : Stores) :
    Phase → Reply → Stores → Phase → Option JobEvent → Prop where
  | nothing {phase next : Phase} {reply : Reply} {after : Stores}
      (kept : ∀ jobId, next.holds = some jobId →
        phase.holds = some jobId ∧ next.failing = phase.failing) :
      Logged runtime imaging queueName stores phase reply after next none
  | picked {jobId : JobId} {rest : JobQueue}
      (popped : (stores.queues queueName).pop? = some (jobId, rest)) :
      Logged runtime imaging queueName stores .idle .answered (stores.setQueue queueName rest)
        (.getJob jobId) (some (.picked jobId))
  | finished {jobId : JobId} :
      Logged runtime imaging queueName stores (.markDone jobId) .answered
        { stores with jobs := stores.jobs.updateStatus jobId .done } .idle
        (some (.finished jobId))
  | failed {phase : Phase} {jobId : JobId} {reply : Reply} {after : Stores}
      (held : phase.holds = some jobId) (earlier : phase.failing = false) :
      Logged runtime imaging queueName stores phase reply after (.markFailed jobId)
        (some (.failed jobId))

variable {Image : Type} {runtime : Runtime} {imaging : Imaging Image} {queueName : QueueName}
  {stores after : Stores} {reply : Reply} {phase next : Phase}

theorem Served.logged (served : Served runtime imaging queueName stores phase reply after next) :
    Logged runtime imaging queueName stores phase reply after next (phase.logs next) := by
  cases served with
  | polled empty =>
      rcases empty with rfl | rfl
      · exact .nothing nofun
      · exact .nothing nofun
  | dropped popped empty =>
      rcases empty with rfl | rfl
      · exact .nothing nofun
      · exact .nothing nofun
  | picked popped => exact .picked popped
  | loaded => exact .nothing fun _ held => ⟨held, rfl⟩
  | unloaded => exact .failed rfl rfl
  | unstarted => exact .failed rfl rfl
  | started took =>
      cases reply with
      | answered => exact .nothing fun _ held => ⟨held, rfl⟩
      | raised => exact .failed rfl rfl
  | rendered => exact .nothing fun _ held => ⟨held, rfl⟩
  | downloadAgain => exact .nothing fun _ held => ⟨held, rfl⟩
  | uploadAgain => exact .nothing fun _ held => ⟨held, rfl⟩
  | downloadFailed => exact .failed rfl rfl
  | uploadFailed => exact .failed rfl rfl
  | uploaded took =>
      rename_i jobId metadata data attempt
      rcases reply with _ | ⟨fault, applied⟩
      · exact .nothing fun _ held => ⟨held, rfl⟩
      · unfold Phase.afterUpload Reply.result
        dsimp only
        cases nextAttempt maxAttempts attempt with
        | some later => exact .nothing fun _ held => ⟨held, rfl⟩
        | none => exact .failed rfl rfl
  | finished took =>
      cases reply with
      | answered => exact .finished
      | raised => exact .failed rfl rfl
  | unfinished => exact .failed rfl rfl
  | failed took =>
      cases reply with
      | answered => exact .nothing nofun
      | raised => exact .nothing nofun
  | unfailed => exact .nothing nofun

end RunOnce

end ImagePipeline.Worker
