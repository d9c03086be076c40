/-
Everything one call of `run_once` to a service can do, once.
-/

import ImagePipeline.Worker.RunOnce

namespace ImagePipeline.Worker.RunOnce

open Common

variable {Image : Type}

inductive Served (runtime : Runtime) (imaging : Imaging Image) (queueName : QueueName)
    (stores : Stores) : Phase → Reply → Stores → Phase → Prop where
  | polled {reply : Reply} {next : Phase} (empty : next = .idle ∨ next = .stopped) :
      Served runtime imaging queueName stores .idle reply stores next
  /-- The server removed an id, but the reply did not reach the worker. -/
  | dropped {fault : Fault} {jobId : JobId} {rest : JobQueue} {next : Phase}
      (popped : (stores.queues queueName).pop? = some (jobId, rest))
      (empty : next = .idle ∨ next = .stopped) :
      Served runtime imaging queueName stores .idle (.raised fault true)
        (stores.setQueue queueName rest) next
  | picked {jobId : JobId} {rest : JobQueue}
      (popped : (stores.queues queueName).pop? = some (jobId, rest)) :
      Served runtime imaging queueName stores .idle .answered
        (stores.setQueue queueName rest) (.getJob jobId)
  | loaded {jobId : JobId} {metadata : JobMetadata} {row : JobRow}
      (member : row ∈ stores.jobs.rows) (same : row.jobId = jobId)
      (inputKey : metadata.inputKey = row.inputKey)
      (outputKey : metadata.outputKey = row.outputKey)
      (decoded : pipelineFromJson row.pipeline = .ok metadata.pipeline) :
      Served runtime imaging queueName stores (.getJob jobId) .answered stores
        (.markProcessing jobId metadata)
  | unloaded {jobId : JobId} {reply : Reply}
      (missing : reply = .answered → ∀ row ∈ stores.jobs.rows, row.jobId = jobId →
        ∀ pipeline, pipelineFromJson row.pipeline ≠ .ok pipeline) :
      Served runtime imaging queueName stores (.getJob jobId) reply stores (.markFailed jobId)
  | started {jobId : JobId} {metadata : JobMetadata} {reply : Reply}
      (took : reply.takesEffect = true) :
      Served runtime imaging queueName stores (.markProcessing jobId metadata) reply
        { stores with jobs := stores.jobs.updateStatus jobId .processing }
        (.afterMarkProcessing jobId metadata reply.result)
  | unstarted {jobId : JobId} {metadata : JobMetadata} {fault : Fault} :
      Served runtime imaging queueName stores (.markProcessing jobId metadata)
        (.raised fault false) stores (.markFailed jobId)
  | rendered {jobId : JobId} {metadata : JobMetadata} {attempt : Nat} {inputBytes data : Bytes}
      (found : stores.objects metadata.inputKey = some inputBytes)
      (rendering : renderResult runtime imaging inputBytes metadata.pipeline = .ok data) :
      Served runtime imaging queueName stores (.download jobId metadata attempt) .answered stores
        (.uploadResult jobId metadata data 1)
  | downloadAgain {jobId : JobId} {metadata : JobMetadata} {attempt next : Nat} {reply : Reply} :
      Served runtime imaging queueName stores (.download jobId metadata attempt) reply stores
        (.download jobId metadata next)
  | uploadAgain {jobId : JobId} {metadata : JobMetadata} {data : Bytes} {attempt next : Nat}
      {fault : Fault} :
      Served runtime imaging queueName stores (.uploadResult jobId metadata data attempt)
        (.raised fault false) stores (.uploadResult jobId metadata data next)
  | downloadFailed {jobId : JobId} {metadata : JobMetadata} {attempt : Nat} {reply : Reply} :
      Served runtime imaging queueName stores (.download jobId metadata attempt) reply stores
        (.markFailed jobId)
  | uploadFailed {jobId : JobId} {metadata : JobMetadata} {data : Bytes} {attempt : Nat}
      {fault : Fault} :
      Served runtime imaging queueName stores (.uploadResult jobId metadata data attempt)
        (.raised fault false) stores (.markFailed jobId)
  | uploaded {jobId : JobId} {metadata : JobMetadata} {data : Bytes} {attempt : Nat}
      {reply : Reply} (took : reply.takesEffect = true) :
      Served runtime imaging queueName stores (.uploadResult jobId metadata data attempt) reply
        { stores with objects := Function.update stores.objects metadata.outputKey (some data) }
        (.afterUpload jobId metadata data attempt reply.result)
  | finished {jobId : JobId} {reply : Reply} (took : reply.takesEffect = true) :
      Served runtime imaging queueName stores (.markDone jobId) reply
        { stores with jobs := stores.jobs.updateStatus jobId .done }
        (.afterMarkDone jobId reply.result)
  | unfinished {jobId : JobId} {fault : Fault} :
      Served runtime imaging queueName stores (.markDone jobId) (.raised fault false) stores
        (.markFailed jobId)
  | failed {jobId : JobId} {reply : Reply} (took : reply.takesEffect = true) :
      Served runtime imaging queueName stores (.markFailed jobId) reply
        { stores with jobs := stores.jobs.updateStatus jobId .failed }
        (.afterMarkFailed reply.result)
  | unfailed {jobId : JobId} {fault : Fault} :
      Served runtime imaging queueName stores (.markFailed jobId) (.raised fault false) stores
        .stopped

variable {runtime : Runtime} {imaging : Imaging Image} {queueName : QueueName}
  {stores after : Stores} {reply : Reply} {phase next : Phase}

theorem afterUpload_holds {jobId held : JobId} {metadata : JobMetadata} {data : Bytes}
    {attempt : Nat} {answer : Except Exn Unit}
    (holds : (Phase.afterUpload jobId metadata data attempt answer).holds = some held) :
    jobId = held := by
  unfold Phase.afterUpload at holds
  split at holds
  · split at holds <;> exact Option.some.inj holds
  · exact Option.some.inj holds

private theorem served_idle :
    Served runtime imaging queueName stores .idle reply
      (stores.setQueue queueName (getNextJob (stores.queues queueName) reply).1)
      (.afterGetNextJob (getNextJob (stores.queues queueName) reply).2) := by
  cases reply with
  | answered =>
      cases popped : (stores.queues queueName).pop? with
      | none =>
          simp only [getNextJob, popped, Stores.setQueue_self]
          exact .polled (.inl rfl)
      | some pair =>
          simp only [getNextJob, popped]
          exact .picked popped
  | raised fault applied =>
      have empty : Phase.afterGetNextJob
            (getNextJob (stores.queues queueName) (.raised fault applied)).2 = .idle ∨
          Phase.afterGetNextJob
            (getNextJob (stores.queues queueName) (.raised fault applied)).2 = .stopped := by
        cases fault with
        | redisTimeout => exact .inl rfl
        | redisError => exact .inr rfl
        | other => exact .inr rfl
      revert empty
      generalize Phase.afterGetNextJob
        (getNextJob (stores.queues queueName) (.raised fault applied)).2 = next
      intro empty
      cases applied with
      | false =>
          simp only [getNextJob, if_false, Bool.false_eq_true, Stores.setQueue_self]
          exact .polled empty
      | true =>
          cases popped : (stores.queues queueName).pop? with
          | none =>
              simp only [getNextJob, popped, if_true, Stores.setQueue_self]
              exact .polled empty
          | some pair =>
              simp only [getNextJob, popped, if_true]
              exact .dropped popped empty

private theorem served_getJob {jobId : JobId} :
    Served runtime imaging queueName stores (.getJob jobId) reply stores
      (.afterGetJob jobId (reply.read (stores.jobs.getJob jobId))) := by
  cases read : reply.read (stores.jobs.getJob jobId) with
  | ok metadata =>
      obtain ⟨rfl, succeeded⟩ := Reply.read_ok read
      obtain ⟨row, member, same, _, inputKey, outputKey, _, decoded⟩ :=
        JobsTable.getJob_ok succeeded
      exact .loaded member same inputKey outputKey decoded
  | error raised =>
      apply Served.unloaded
      rintro rfl row member same pipeline decoded
      have located := JobsTable.find?_eq_some.mpr ⟨member, same⟩
      change stores.jobs.getJob jobId = .error raised at read
      simp only [JobsTable.getJob, located, decoded, Except.map, reduceCtorEq] at read

private theorem served_download {jobId : JobId} {metadata : JobMetadata} {attempt : Nat} :
    Served runtime imaging queueName stores (.download jobId metadata attempt) reply stores
      (.afterDownload runtime imaging jobId metadata attempt
        (download stores.objects metadata.inputKey reply)) := by
  cases downloaded : download stores.objects metadata.inputKey reply with
  | error raised =>
      unfold Phase.afterDownload
      split
      · rename_i failed
        split
        · exact .downloadAgain
        · exact .downloadFailed
      · rename_i failed
        cases failed
  | ok inputBytes =>
      obtain ⟨rfl, succeeded⟩ := Reply.read_ok downloaded
      cases found : stores.objects metadata.inputKey with
      | none => rw [found] at succeeded; cases succeeded
      | some stored =>
          rw [found] at succeeded
          cases succeeded
          cases rendering : renderResult runtime imaging inputBytes metadata.pipeline with
          | error raised =>
              simp only [Phase.afterDownload, rendering]
              exact .downloadFailed
          | ok data =>
              simp only [Phase.afterDownload, rendering]
              exact .rendered found rendering

theorem serve_cases
    (served : serve runtime imaging queueName stores phase reply = some (after, next)) :
    Served runtime imaging queueName stores phase reply after next := by
  cases phase with
  | idle => cases served; exact served_idle
  | stopped => cases served
  | getJob jobId => cases served; exact served_getJob
  | markProcessing jobId metadata =>
      cases served
      rcases reply.takesEffect_or with took | ⟨fault, rfl⟩
      · rw [if_pos took]
        exact .started took
      · exact .unstarted
  | download jobId metadata attempt => cases served; exact served_download
  | uploadResult jobId metadata data attempt =>
      cases served
      rcases reply.takesEffect_or with took | ⟨fault, rfl⟩
      · rw [if_pos took]
        exact .uploaded took
      · rw [Reply.result, Phase.afterUpload]
        cases nextAttempt maxAttempts attempt with
        | some later => exact .uploadAgain
        | none => exact .uploadFailed
  | markDone jobId =>
      cases served
      rcases reply.takesEffect_or with took | ⟨fault, rfl⟩
      · rw [if_pos took]
        exact .finished took
      · exact .unfinished
  | markFailed jobId =>
      cases served
      rcases reply.takesEffect_or with took | ⟨fault, rfl⟩
      · rw [if_pos took]
        exact .failed took
      · exact .unfailed

/-- The same steps by what they do to the jobs table and the queues: nothing
that a submission can notice, or a pop. -/
inductive Effect (queueName : QueueName) (stores : Stores) : Phase → Stores → Phase → Prop where
  | quiet {phase next : Phase} {after : Stores}
      (submissions : after.jobs.submissions = stores.jobs.submissions)
      (queues : after.queues = stores.queues)
      (kept : ∀ jobId, next.holds = some jobId → phase.holds = some jobId) :
      Effect queueName stores phase after next
  | popped {jobId : JobId} {rest : JobQueue} {next : Phase}
      (popped : (stores.queues queueName).pop? = some (jobId, rest))
      (kept : ∀ held, next.holds = some held → held = jobId) :
      Effect queueName stores .idle (stores.setQueue queueName rest) next

private theorem idle_or_stopped_holds {phase : Phase} (empty : phase = .idle ∨ phase = .stopped)
    {jobId : JobId} (held : phase.holds = some jobId) : False := by
  rcases empty with rfl | rfl <;> cases held

theorem Served.effect
    (served : Served runtime imaging queueName stores phase reply after next) :
    Effect queueName stores phase after next := by
  cases served with
  | polled empty => exact .quiet rfl rfl (fun _ held => (idle_or_stopped_holds empty held).elim)
  | dropped popped empty =>
      exact .popped popped (fun _ held => (idle_or_stopped_holds empty held).elim)
  | picked popped => exact .popped popped (fun _ held => (Option.some.inj held).symm)
  | loaded => exact .quiet rfl rfl (fun _ held => held)
  | unloaded => exact .quiet rfl rfl (fun _ held => held)
  | unstarted => exact .quiet rfl rfl (fun _ held => held)
  | rendered => exact .quiet rfl rfl (fun _ held => held)
  | downloadAgain => exact .quiet rfl rfl (fun _ held => held)
  | uploadAgain => exact .quiet rfl rfl (fun _ held => held)
  | downloadFailed => exact .quiet rfl rfl (fun _ held => held)
  | uploadFailed => exact .quiet rfl rfl (fun _ held => held)
  | unfinished => exact .quiet rfl rfl (fun _ held => held)
  | unfailed => exact .quiet rfl rfl (fun _ held => nomatch held)
  | started =>
      refine .quiet (JobsTable.updateStatus_submissions ..) rfl (fun _ held => ?_)
      cases reply <;> exact held
  | uploaded =>
      exact .quiet rfl rfl (fun _ held => congrArg some (afterUpload_holds held))
  | finished =>
      refine .quiet (JobsTable.updateStatus_submissions ..) rfl (fun _ held => ?_)
      cases reply with
      | answered => cases held
      | raised fault applied => exact held
  | failed =>
      refine .quiet (JobsTable.updateStatus_submissions ..) rfl (fun _ held => ?_)
      cases reply <;> cases held

end ImagePipeline.Worker.RunOnce
