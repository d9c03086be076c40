/-
What clients are told about a job at different moments agrees. Rows are never
deleted and only their status is rewritten, never back to PENDING, and whatever
bytes are served for a job, they are the same bytes.
-/

import ImagePipeline.Api.GetJob
import ImagePipeline.Properties.ResultIntegrity

namespace ImagePipeline.Properties.Records

open Common
open Cluster
open Api (getJob getJobResult JobResponse)
open Library (Machine exists_ok_of_isOk)
open ResultIntegrity (Rendering intact_of_reachable)

section Calls

variable {runtime : Runtime} {jobId : JobId} {stores after : Stores} {reply : Reply}

theorem request_not_pending {request : Api.CreateJob.Request} {maxQueueLength : Nat} {own : JobId}
    {now : Timestamp} {phase next : Api.CreateJob.Phase runtime request} {status : Status}
    (served : Api.CreateJob.Served maxQueueLength own stores now phase reply after next)
    (known : stores.jobs.statusOf jobId = some status) (begun : status ≠ .pending) :
    ∃ later, after.jobs.statusOf jobId = some later ∧ later ≠ .pending := by
  rcases request_status served jobId with same | ⟨_, _, absent, _⟩ | ⟨_, _, _, failed⟩
  · exact ⟨status, same.trans known, begun⟩
  · cases known.symm.trans absent
  · rw [known] at failed
    exact ⟨.failed, failed, nofun⟩

theorem worker_not_pending {Image : Type} {imaging : Worker.Imaging Image} {queueName : QueueName}
    {phase next : Worker.RunOnce.Phase} {status : Status}
    (served : Worker.RunOnce.Served runtime imaging queueName stores phase reply after next)
    (known : stores.jobs.statusOf jobId = some status) (begun : status ≠ .pending) :
    ∃ later, after.jobs.statusOf jobId = some later ∧ later ≠ .pending := by
  rcases worker_status served jobId with same | ⟨_, _, _, written, write, changed⟩
  · exact ⟨status, same.trans known, begun⟩
  · rw [known] at changed
    refine ⟨written, changed, ?_⟩
    cases write with
    | processing => nofun
    | last _ terminal =>
        rintro rfl
        cases terminal

end Calls

section Lookups

variable {jobs : JobsTable} {row : JobRow} {pipeline : List PipelineStep}

/-- What GET /jobs/{job_id} answers for a row. -/
def response (row : JobRow) (pipeline : List PipelineStep) : JobResponse :=
  { jobId := row.jobId
    pipeline := pipelineToJson pipeline
    inputKey := row.inputKey
    outputKey := row.outputKey
    status := row.status }

theorem getJob_of_row (member : row ∈ jobs.rows)
    (decoded : pipelineFromJson row.pipeline = .ok pipeline) :
    getJob jobs row.jobId .answered = .ok (response row pipeline) := by
  have located := JobsTable.find?_eq_some.mpr ⟨member, rfl⟩
  have found : jobs.getJob row.jobId = .ok
      ⟨row.jobId, pipeline, row.inputKey, row.outputKey, row.status, .datetime row.createdAt⟩ := by
    simp only [JobsTable.getJob, located, decoded, Except.map]
  exact Api.getJob_answered found

theorem row_of_getJob {jobId : JobId} {reply : Reply} {body : JobResponse}
    (found : getJob jobs jobId reply = .ok body) :
    ∃ row ∈ jobs.rows, row.jobId = jobId ∧ ∃ pipeline,
      pipelineFromJson row.pipeline = .ok pipeline ∧ body = response row pipeline := by
  unfold getJob Api.findJob at found
  cases read : reply.read (jobs.getJob jobId) with
  | error raised =>
      rw [read] at found
      cases raised <;> cases found
  | ok metadata =>
      rw [read] at found
      obtain ⟨row, member, same, ownId, input, output, status, decoded⟩ :=
        JobsTable.getJob_ok (Reply.read_ok read).2
      refine ⟨row, member, same, metadata.pipeline, decoded, ?_⟩
      rw [response, ← ownId, ← input, ← output, ← status]
      exact (Except.ok.inj found).symm

end Lookups

section Steps

variable {R P W Image : Type} [DecidableEq R] [DecidableEq P] [DecidableEq W]
  {site : Deployment R P W Image} {before after state later : State site}

structure Follows (row : JobRow) (state : State site) : Prop where
  recorded : row.submission ∈ state.stores.jobs.submissions
  begun : row.status ≠ .pending →
    ∃ status, state.stores.jobs.statusOf row.jobId = some status ∧ status ≠ .pending

theorem Follows.step {row : JobRow} {event : Event R W} (follows : Follows row before)
    (stepped : before.Stepped event after) : Follows row after where
  recorded := stepped.effect.submissions follows.recorded
  begun := by
    intro notPending
    obtain ⟨status, known, begun⟩ := follows.begun notPending
    cases stepped with
    | started => exact ⟨status, known, begun⟩
    | stopped => exact ⟨status, known, begun⟩
    | restarted => exact ⟨status, known, begun⟩
    | requested served => exact request_not_pending served known begun
    | worked served => exact worker_not_pending served known begun

theorem follows_of_reaches {permits : State site → Event R W → Bool} {row : JobRow}
    (reaches : (machine site).Reaches permits state later)
    (member : row ∈ state.stores.jobs.rows) : Follows row later := by
  refine reaches.preserves (Follows row)
    (fun follows _ taken => follows.step (State.step_cases taken))
    ⟨JobsTable.submission_mem member, fun notPending => ?_⟩
  exact ⟨row.status, JobsTable.statusOf_of_mem member, notPending⟩

/-- The bytes that are served for a job are a rendering of its request, also when
row and object are read at different moments. -/
theorem rendering_of_served {stored : State site} {jobId : JobId} {found downloaded : Reply}
    {data : Bytes} (reached : (machine site).Reachable anything state)
    (reachedStored : (machine site).Reachable anything stored)
    (served : getJobResult state.stores.jobs stored.stores.objects jobId found downloaded =
      .ok data) : ∃ request, site.jobId request = jobId ∧ Rendering site request data := by
  obtain ⟨row, member, rfl, _, present⟩ := Api.getJobResult_ok served
  obtain ⟨request, routed, now, same, _⟩ :=
    (State.reachable_ownership reached).rowsOwned _ (JobsTable.submission_mem member)
  have own : row.jobId = site.jobId request := congrArg JobRow.jobId same
  have output : row.outputKey = resultKey (site.jobId request) := congrArg JobRow.outputKey same
  rw [output] at present
  exact ⟨request, own.symm, (intact_of_reachable reachedStored).rendered request data present⟩

/-- A job that was found once is found ever after, with the same pipeline and keys
and never PENDING again once it was not; and all bytes served for it are the same. -/
theorem answers_about_a_job_agree (reached : (machine site).Reachable anything state)
    (reaches : (machine site).Reaches anything state later) {jobId : JobId} {reply : Reply}
    {earlier : JobResponse} (found : getJob state.stores.jobs jobId reply = .ok earlier) :
    (∃ status, getJob later.stores.jobs jobId .answered = .ok { earlier with status } ∧
      (earlier.status ≠ .pending → status ≠ .pending)) ∧
    ∀ {first second : State site}, (machine site).Reachable anything first →
      (machine site).Reachable anything second →
      ∀ {found downloaded foundLater downloadedLater : Reply} {data dataLater : Bytes},
        getJobResult state.stores.jobs first.stores.objects jobId found downloaded = .ok data →
        getJobResult later.stores.jobs second.stores.objects jobId foundLater downloadedLater =
          .ok dataLater → data = dataLater := by
  have reachedLater := reached.reaches reaches
  constructor
  · obtain ⟨row, member, rfl, pipeline, decoded, rfl⟩ := row_of_getJob found
    have follows := follows_of_reaches reaches member
    obtain ⟨rowLater, memberLater, same⟩ := JobsTable.mem_submissions.mp follows.recorded
    have ownId : rowLater.jobId = row.jobId := (congrArg JobRow.jobId same :)
    have input : rowLater.inputKey = row.inputKey := (congrArg JobRow.inputKey same :)
    have output : rowLater.outputKey = row.outputKey := (congrArg JobRow.outputKey same :)
    have stored : rowLater.pipeline = row.pipeline := (congrArg JobRow.pipeline same :)
    have answer := getJob_of_row memberLater (stored.symm ▸ decoded)
    refine ⟨rowLater.status, ?_, fun begun => ?_⟩
    · rw [← ownId, answer, response, response, ownId, input, output]
    · obtain ⟨status, known, notPending⟩ := follows.begun begun
      have now := JobsTable.statusOf_of_mem memberLater
      rw [ownId, known] at now
      exact Option.some.inj now ▸ notPending
  · intro first second reachedFirst reachedSecond _ _ _ _ data dataLater served servedLater
    obtain ⟨request, own, rendering⟩ := rendering_of_served reached reachedFirst served
    obtain ⟨other, ownOther, renderingLater⟩ :=
      rendering_of_served reachedLater reachedSecond servedLater
    obtain rfl : request = other := site.fresh (own.trans ownOther.symm)
    exact rendering.unique renderingLater

end Steps

def submission : List (Event Bool Unit) :=
  .start false :: List.replicate 5 (.request false 0 .answered)

/-- The pixel right after its submission, and after one pass of the worker. -/
def submitted : State smallSite := (machine smallSite).finalState anything submission

def finished : State smallSite :=
  (machine smallSite).finalState anything
    (submission ++ List.replicate 6 (.worker () .answered))

/-- And after the retry of the request. -/
def submittedAgain : State smallSite :=
  (machine smallSite).finalState anything
    (submission ++ List.replicate 6 (.worker () .answered) ++
      [.start true, .request true 0 .answered])

theorem answers_about_a_job_agree_pixel :
    (∃ earlier, getJob submitted.stores.jobs firstJob .answered = .ok earlier ∧
      ∃ status, getJob finished.stores.jobs firstJob .answered = .ok { earlier with status }) ∧
    ∃ data, getJobResult finished.stores.jobs finished.stores.objects firstJob .answered .answered =
        .ok data ∧
      getJobResult submittedAgain.stores.jobs submittedAgain.stores.objects firstJob .answered
        .answered = .ok data := by
  have reached : (machine smallSite).Reachable anything submitted := .finalState _
  have reachedFinished : (machine smallSite).Reachable anything finished := .finalState _
  have reachedAgain : (machine smallSite).Reachable anything submittedAgain := .finalState _
  have reaches : (machine smallSite).Reaches anything submitted finished :=
    .finalState (by decide +kernel)
  have reachesAgain : (machine smallSite).Reaches anything finished submittedAgain :=
    .finalState (by decide +kernel)
  obtain ⟨earlier, found⟩ := exists_ok_of_isOk
    (show (getJob submitted.stores.jobs firstJob .answered).isOk = true by decide +kernel)
  obtain ⟨now, foundNow⟩ := exists_ok_of_isOk
    (show (getJob finished.stores.jobs firstJob .answered).isOk = true by decide +kernel)
  obtain ⟨data, served⟩ := exists_ok_of_isOk
    (show (getJobResult finished.stores.jobs finished.stores.objects firstJob .answered
      .answered).isOk = true by decide +kernel)
  obtain ⟨dataAgain, servedAgain⟩ := exists_ok_of_isOk
    (show (getJobResult submittedAgain.stores.jobs submittedAgain.stores.objects firstJob
      .answered .answered).isOk = true by decide +kernel)
  obtain ⟨status, same, _⟩ := (answers_about_a_job_agree reached reaches found).1
  obtain rfl := (answers_about_a_job_agree reachedFinished reachesAgain foundNow).2
    reachedFinished reachedAgain served servedAgain
  exact ⟨⟨earlier, found, status, same⟩, data, served, servedAgain⟩

end ImagePipeline.Properties.Records
