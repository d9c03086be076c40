/-
GET /jobs/{job_id} and GET /jobs/{job_id}/result. The result reads the row and then
the object, so the object store it downloads from may be that of a later moment.
-/

import ImagePipeline.Common.Stores

namespace ImagePipeline.Api

open Common

def jobNotFound : Exn := .httpException 404 (str "Job not found")

def notDoneYet (status : Status) : Exn :=
  .httpException 409 (str "Job is not done yet: " ++ status.text)

/-- `job_repository.get_job` with the endpoints' `except ValueError`. -/
def findJob (jobs : JobsTable) (jobId : JobId) (reply : Reply) : Except Exn JobMetadata :=
  match reply.read (jobs.getJob jobId) with
  | .error .valueError => .error jobNotFound
  | answer => answer

/-- `get_job_result`, with how its two calls end. -/
def getJobResult (jobs : JobsTable) (objects : Objects) (jobId : JobId)
    (found downloaded : Reply) : Except Exn Bytes :=
  match findJob jobs jobId found with
  | .error raised => .error raised
  | .ok metadata =>
      if metadata.status = .done then download objects metadata.outputKey downloaded
      else .error (notDoneYet metadata.status)

/-- Bytes are only served from the output key of a row that is DONE. -/
theorem getJobResult_ok {jobs : JobsTable} {objects : Objects} {jobId : JobId}
    {found downloaded : Reply} {data : Bytes}
    (served : getJobResult jobs objects jobId found downloaded = .ok data) :
    ∃ row ∈ jobs.rows, row.jobId = jobId ∧ row.status = .done ∧
      objects row.outputKey = some data := by
  unfold getJobResult findJob at served
  cases read : found.read (jobs.getJob jobId) with
  | error raised =>
      rw [read] at served
      split at served
      · cases served
      · rename_i failed
        split at failed <;> cases failed
  | ok metadata =>
      rw [read] at served
      obtain ⟨_, succeeded⟩ := Reply.read_ok read
      obtain ⟨row, member, same, _, _, outputKey, status, _⟩ := JobsTable.getJob_ok succeeded
      simp only at served
      split at served
      · rename_i done
        obtain ⟨_, present⟩ := Reply.read_ok served
        refine ⟨row, member, same, status.symm.trans done, ?_⟩
        rw [← outputKey]
        split at present
        · rename_i stored
          cases present
          exact stored
        · cases present
      · cases served

theorem getJobResult_of_done {jobs : JobsTable} {objects : Objects} {row : JobRow}
    {pipeline : List PipelineStep} {data : Bytes} (member : row ∈ jobs.rows)
    (done : row.status = .done) (decoded : pipelineFromJson row.pipeline = .ok pipeline)
    (stored : objects row.outputKey = some data) :
    getJobResult jobs objects row.jobId .answered .answered = .ok data := by
  obtain ⟨metadata, found, status, outputKey⟩ := JobsTable.getJob_of_mem member decoded
  have finished : metadata.status = .done := status.trans done
  simp only [getJobResult, findJob, Reply.read, found, finished, if_true, download, outputKey,
    stored]

structure JobResponse where
  jobId : JobId
  pipeline : Json
  inputKey : Str
  outputKey : Str
  status : Status

/-- `get_job`, with how its one call ends. `pipeline_to_response` builds the
same list as `_pipeline_to_json`. -/
def getJob (jobs : JobsTable) (jobId : JobId) (found : Reply) : Except Exn JobResponse :=
  (findJob jobs jobId found).map (fun metadata =>
    { jobId := metadata.jobId
      pipeline := pipelineToJson metadata.pipeline
      inputKey := metadata.inputKey
      outputKey := metadata.outputKey
      status := metadata.status })

theorem getJob_answered {jobs : JobsTable} {jobId : JobId} {metadata : JobMetadata}
    (succeeded : jobs.getJob jobId = .ok metadata) :
    getJob jobs jobId .answered = .ok
      ⟨metadata.jobId, pipelineToJson metadata.pipeline, metadata.inputKey, metadata.outputKey,
        metadata.status⟩ := by
  simp only [getJob, findJob, Reply.read, succeeded, Except.map]

end ImagePipeline.Api
