/-
Who writes a job's status: its own request, once when it inserts the row and
once when its push raised, and the worker that holds the job.
-/

import ImagePipeline.Cluster.Ownership

namespace ImagePipeline.Cluster

open Common
open Api.CreateJob (Routed Phase newRow)

section Requests

variable {runtime : Runtime} {request : Api.CreateJob.Request} {maxQueueLength : Nat}
  {jobId : JobId} {stores after : Stores} {now : Timestamp} {reply : Reply}
  {phase next : Phase runtime request}

theorem request_status
    (served : Api.CreateJob.Served maxQueueLength jobId stores now phase reply after next)
    (job : JobId) :
    after.jobs.statusOf job = stores.jobs.statusOf job ∨
    (job = jobId ∧ (∃ routed, phase = .insertRow routed ∧ next = .afterInsert routed reply.result) ∧
      stores.jobs.statusOf job = none ∧ after.jobs.statusOf job = some .pending) ∨
    (job = jobId ∧ (∃ routed, phase = .markFailed routed) ∧
      next = .afterMarkFailed reply.result ∧
      after.jobs.statusOf job = (stores.jobs.statusOf job).map (fun _ => .failed)) := by
  cases served with
  | inserted took accepted =>
      rename_i routed jobs
      have status := JobsTable.statusOf_insert accepted job
      change jobs.statusOf job = if jobId = job then some .pending else _ at status
      by_cases own : job = jobId
      · subst own
        rw [if_pos rfl] at status
        refine .inr (.inl ⟨rfl, ⟨routed, rfl, rfl⟩, ?_, status⟩)
        cases known : stores.jobs.statusOf job with
        | none => rfl
        | some old =>
            obtain ⟨row, member, sameId, _⟩ := JobsTable.statusOf_isSome known
            exact absurd (.inl sameId) ((JobsTable.insert_eq_some accepted).2 row member)
      · rw [if_neg (Ne.symm own)] at status
        exact .inl status
  | marked took =>
      rename_i routed
      have status := JobsTable.statusOf_updateStatus stores.jobs jobId job .failed
      by_cases own : job = jobId
      · subst own
        rw [if_pos rfl] at status
        exact .inr (.inr ⟨rfl, ⟨routed, rfl⟩, rfl, status⟩)
      · rw [if_neg (Ne.symm own)] at status
        exact .inl status
  | hit => exact .inl rfl
  | hitAgain => exact .inl rfl
  | miss => exact .inl rfl
  | failed => exact .inl rfl
  | rejected => exact .inl rfl
  | admitted => exact .inl rfl
  | stored => exact .inl rfl
  | refused => exact .inl rfl
  | pushed => exact .inl rfl
  | unpushed => exact .inl rfl
  | unmarked => exact .inl rfl

end Requests

section Workers

variable {Image : Type} {runtime : Runtime} {imaging : Worker.Imaging Image}
  {queueName : QueueName} {stores after : Stores} {reply : Reply}
  {phase next : Worker.RunOnce.Phase}

/-- A worker's write of a status, and where a write that returns leads. -/
inductive StatusWrite (phase : Worker.RunOnce.Phase) (reply : Reply)
    (next : Worker.RunOnce.Phase) (job : JobId) : Status → Prop where
  | processing (goesOn : reply = .answered → next.holds = some job) :
      StatusWrite phase reply next job .processing
  | last (status : Status) (terminal : status.terminal = true)
      (done : status = .done → phase = .markDone job)
      (ends : reply = .answered → next = .idle) : StatusWrite phase reply next job status

theorem worker_status
    (served : Worker.RunOnce.Served runtime imaging queueName stores phase reply after next)
    (job : JobId) :
    after.jobs.statusOf job = stores.jobs.statusOf job ∨
    (phase.holds = some job ∧ phase.marking = true ∧ reply.takesEffect = true ∧ ∃ status,
      StatusWrite phase reply next job status ∧
        after.jobs.statusOf job = (stores.jobs.statusOf job).map (fun _ => status)) := by
  have wrote {updated : JobId} {status : Status} (held : phase.holds = some updated)
      (marking : phase.marking = true) (write : StatusWrite phase reply next updated status)
      (took : reply.takesEffect = true)
      (same : after.jobs = stores.jobs.updateStatus updated status) :
      after.jobs.statusOf job = stores.jobs.statusOf job ∨
      (phase.holds = some job ∧ phase.marking = true ∧ reply.takesEffect = true ∧ ∃ status,
        StatusWrite phase reply next job status ∧
          after.jobs.statusOf job = (stores.jobs.statusOf job).map (fun _ => status)) := by
    have written := JobsTable.statusOf_updateStatus stores.jobs updated job status
    rw [same]
    by_cases own : updated = job
    · subst own
      rw [if_pos rfl] at written
      exact .inr ⟨held, marking, took, status, write, written⟩
    · rw [if_neg own] at written
      exact .inl written
  cases served with
  | started took =>
      refine wrote rfl rfl (.processing ?_) took rfl
      rintro rfl
      rfl
  | finished took =>
      refine wrote rfl rfl (.last .done rfl (fun _ => rfl) ?_) took rfl
      rintro rfl
      rfl
  | failed took =>
      refine wrote rfl rfl (.last .failed rfl nofun ?_) took rfl
      rintro rfl
      rfl
  | polled => exact .inl rfl
  | dropped => exact .inl rfl
  | picked => exact .inl rfl
  | loaded => exact .inl rfl
  | unloaded => exact .inl rfl
  | unstarted => exact .inl rfl
  | rendered => exact .inl rfl
  | downloadAgain => exact .inl rfl
  | uploadAgain => exact .inl rfl
  | downloadFailed => exact .inl rfl
  | uploadFailed => exact .inl rfl
  | uploaded => exact .inl rfl
  | unfinished => exact .inl rfl
  | unfailed => exact .inl rfl

theorem worker_release
    (served : Worker.RunOnce.Served runtime imaging queueName stores phase .answered after next)
    {job : JobId} (held : phase.holds = some job) :
    next.holds = some job ∨ ∃ status : Status, status.terminal = true ∧
      after.jobs.statusOf job = (stores.jobs.statusOf job).map (fun _ => status) := by
  have updated (status : Status) :
      (stores.jobs.updateStatus job status).statusOf job =
        (stores.jobs.statusOf job).map (fun _ => status) := by
    rw [JobsTable.statusOf_updateStatus, if_pos rfl]
  cases served with
  | finished =>
      obtain rfl := Option.some.inj held
      exact .inr ⟨.done, rfl, updated .done⟩
  | failed =>
      obtain rfl := Option.some.inj held
      exact .inr ⟨.failed, rfl, updated .failed⟩
  | polled => cases held
  | picked => cases held
  | loaded => exact .inl held
  | unloaded => exact .inl held
  | started => exact .inl held
  | rendered => exact .inl held
  | downloadAgain => exact .inl held
  | downloadFailed => exact .inl held
  | uploaded => exact .inl held

end Workers

end ImagePipeline.Cluster
