/-
Result integrity. The object at the output key of a DONE row is the rendering
of the bytes and the pipeline of the request that inserted the row, although
three stores, unconditional status writes and client-chosen filenames are
between the two.
-/

import ImagePipeline.Api.GetJob
import ImagePipeline.Cluster.Statuses

namespace ImagePipeline.Properties.ResultIntegrity

open Common
open Cluster
open Api (getJobResult)
open Api.CreateJob (Routed newRow)
open Library (Machine)
open Worker (renderResult)

section Definitions

variable {R P W Image : Type} {site : Deployment R P W Image}

def inputKey (site : Deployment R P W Image) (request : R) : Str :=
  originalKey (site.jobId request) (site.request request).filename

theorem inputKey_ne_resultKey (request : R) (jobId : JobId) :
    inputKey site request ≠ resultKey jobId := originalKey_ne_resultKey _ _ _

/-- The data is what a worker makes of the request's upload and pipeline. -/
def Rendering (site : Deployment R P W Image) (request : R) (data : Bytes) : Prop :=
  ∃ routed : Routed site.runtime (site.request request),
    renderResult site.runtime site.imaging (site.request request).imageBytes routed.pipeline =
      .ok data

/-- What a worker knows about its job is what the request put into the row. -/
structure Describes (state : State site) (request : R) (jobId : JobId)
    (metadata : JobMetadata) : Prop where
  ownJob : jobId = site.jobId request
  inserted : state.Inserted request
  originalAt : metadata.inputKey = inputKey site request
  resultAt : metadata.outputKey = resultKey jobId
  steps : ∃ routed : Routed site.runtime (site.request request),
    metadata.pipeline = routed.pipeline

/-- What a worker has established at each point of `run_once`. -/
def Working (state : State site) : Worker.RunOnce.Phase → Prop
  | .idle | .stopped | .getJob _ | .markFailed _ => True
  | .markProcessing jobId metadata | .download jobId metadata _ =>
      ∃ request, Describes state request jobId metadata
  | .uploadResult jobId metadata data _ =>
      ∃ request, Describes state request jobId metadata ∧ Rendering site request data
  | .markDone jobId => state.stores.objects (resultKey jobId) ≠ none

structure Intact (state : State site) : Prop where
  /-- From its upload on, a request's original is in the store. -/
  original : ∀ request,
    ((∃ routed, state.requests request = .insertRow routed) ∨ state.Inserted request) →
      state.stores.objects (inputKey site request) = some (site.request request).imageBytes
  rendered : ∀ request data, state.stores.objects (resultKey (site.jobId request)) = some data →
    Rendering site request data
  working : ∀ worker, Working state (state.workers worker)
  done : ∀ jobId, state.stores.jobs.statusOf jobId = some .done →
    state.stores.objects (resultKey jobId) ≠ none

theorem Intact.initial : Intact (State.initial site) where
  original request known := by
    rcases known with ⟨routed, inserting⟩ | ⟨routed, now, member⟩
    · cases inserting
    · cases member
  rendered _ _ stored := nomatch stored
  working _ := trivial
  done _ finished := nomatch finished

/-- The writes to the object store that occur. -/
inductive Write (site : Deployment R P W Image) (objects : Objects) : Objects → Prop where
  | nothing : Write site objects objects
  | original (request : R) :
      Write site objects (Function.update objects (inputKey site request)
        (some (site.request request).imageBytes))
  | result {request : R} {data : Bytes} (rendering : Rendering site request data) :
      Write site objects (Function.update objects (resultKey (site.jobId request)) (some data))

end Definitions

section Objects

variable {R P W Image : Type} {site : Deployment R P W Image} {objects after : Objects}

private theorem update_ne_none (objects : Objects) (written key : Str) (data : Bytes)
    (present : objects key ≠ none) : Function.update objects written (some data) key ≠ none := by
  by_cases same : key = written
  · rw [same, Function.update_self]
    exact Option.some_ne_none data
  · rw [Function.update_of_ne same]
    exact present

theorem Write.kept (write : Write site objects after) {key : Str} (present : objects key ≠ none) :
    after key ≠ none := by
  cases write with
  | nothing => exact present
  | original => exact update_ne_none _ _ _ _ present
  | result => exact update_ne_none _ _ _ _ present

theorem Write.keepsOriginal (write : Write site objects after) {request : R}
    (stored : objects (inputKey site request) = some (site.request request).imageBytes) :
    after (inputKey site request) = some (site.request request).imageBytes := by
  cases write with
  | nothing => exact stored
  | original other =>
      by_cases same : inputKey site request = inputKey site other
      · rw [site.fresh (originalKey_jobId same), Function.update_self]
      · rw [Function.update_of_ne same]
        exact stored
  | result =>
      rw [Function.update_of_ne (inputKey_ne_resultKey _ _)]
      exact stored

theorem Write.keepsRendered (write : Write site objects after)
    (rendered : ∀ request data, objects (resultKey (site.jobId request)) = some data →
      Rendering site request data) {request : R} {data : Bytes}
    (stored : after (resultKey (site.jobId request)) = some data) :
    Rendering site request data := by
  cases write with
  | nothing => exact rendered request data stored
  | original other =>
      rw [Function.update_of_ne (inputKey_ne_resultKey _ _).symm] at stored
      exact rendered request data stored
  | result rendering =>
      rename_i owner written
      by_cases same : resultKey (site.jobId request) = resultKey (site.jobId owner)
      · rw [same, Function.update_self] at stored
        cases stored
        rw [site.fresh (resultKey_injective same)]
        exact rendering
      · rw [Function.update_of_ne same] at stored
        exact rendered request data stored

theorem Rendering.unique {request : R} {left right : Bytes} (first : Rendering site request left)
    (second : Rendering site request right) : left = right := by
  obtain ⟨routed, rendersLeft⟩ := first
  obtain ⟨other, rendersRight⟩ := second
  rw [routed.eq other] at rendersLeft
  exact Except.ok.inj (rendersLeft.symm.trans rendersRight)

end Objects

section Requests

variable {runtime : Runtime} {request : Api.CreateJob.Request} {maxQueueLength : Nat}
  {jobId : JobId} {stores after : Stores} {now : Timestamp} {reply : Reply}
  {phase next : Api.CreateJob.Phase runtime request}

theorem request_objects
    (served : Api.CreateJob.Served maxQueueLength jobId stores now phase reply after next) :
    (after.objects = stores.objects ∧ ∀ routed, next ≠ .insertRow routed) ∨
    after.objects = Function.update stores.objects (originalKey jobId request.filename)
      (some request.imageBytes) := by
  have neither {answer : Except Exn Unit} {routed other : Routed runtime request} :
      Api.CreateJob.Phase.afterPush jobId routed answer ≠ .insertRow other := by
    intro same
    have inserted := Api.CreateJob.Phase.afterPush_beforeInsert jobId routed answer
    rw [same] at inserted
    cases inserted
  cases served with
  | stored => exact .inr rfl
  | hit => exact .inl ⟨rfl, nofun⟩
  | hitAgain => exact .inl ⟨rfl, nofun⟩
  | failed => exact .inl ⟨rfl, nofun⟩
  | rejected => exact .inl ⟨rfl, nofun⟩
  | admitted => exact .inl ⟨rfl, nofun⟩
  | refused => exact .inl ⟨rfl, nofun⟩
  | pushed => exact .inl ⟨rfl, fun _ => neither⟩
  | unpushed => exact .inl ⟨rfl, fun _ => neither⟩
  | unmarked => exact .inl ⟨rfl, nofun⟩
  | marked =>
      refine .inl ⟨rfl, fun _ => ?_⟩
      cases reply <;> nofun
  | miss absent =>
      rename_i submission key usable
      refine .inl ⟨rfl, fun routed => ?_⟩
      rcases Api.CreateJob.Phase.route_cases submission with ⟨_, _, next⟩ | ⟨_, _, next⟩ <;>
        rw [next] <;> nofun
  | inserted =>
      rename_i routed jobs accepted took
      refine .inl ⟨rfl, fun other same => ?_⟩
      have inserted := Api.CreateJob.Phase.afterInsert_beforeInsert routed reply.result
      rw [same] at inserted
      cases inserted

end Requests

section Workers

variable {R P W Image : Type} {site : Deployment R P W Image} {before after : State site}

theorem Describes.mono {request : R} {jobId : JobId} {metadata : JobMetadata}
    (describes : Describes before request jobId metadata)
    (kept : before.Inserted request → after.Inserted request) :
    Describes after request jobId metadata :=
  ⟨describes.ownJob, kept describes.inserted, describes.originalAt, describes.resultAt,
    describes.steps⟩

theorem Working.mono {phase : Worker.RunOnce.Phase} (working : Working before phase)
    (inserted : ∀ request, before.Inserted request → after.Inserted request)
    (kept : ∀ key, before.stores.objects key ≠ none → after.stores.objects key ≠ none) :
    Working after phase := by
  cases phase with
  | idle => trivial
  | stopped => trivial
  | getJob => trivial
  | markFailed => trivial
  | markProcessing jobId metadata =>
      obtain ⟨request, describes⟩ := working
      exact ⟨request, describes.mono (inserted request)⟩
  | download jobId metadata attempt =>
      obtain ⟨request, describes⟩ := working
      exact ⟨request, describes.mono (inserted request)⟩
  | uploadResult jobId metadata data attempt =>
      obtain ⟨request, describes, rendering⟩ := working
      exact ⟨request, describes.mono (inserted request), rendering⟩
  | markDone jobId => exact kept _ working

theorem describes_of_row (owned : before.Ownership) {row : JobRow} {metadata : JobMetadata}
    (member : row ∈ before.stores.jobs.rows) (input : metadata.inputKey = row.inputKey)
    (output : metadata.outputKey = row.outputKey)
    (decoded : pipelineFromJson row.pipeline = .ok metadata.pipeline) :
    ∃ request, Describes before request row.jobId metadata := by
  have entry := JobsTable.submission_mem member
  obtain ⟨request, routed, now, same, _⟩ := owned.rowsOwned _ entry
  have ownId : row.jobId = site.jobId request := congrArg JobRow.jobId same
  have ownInput : row.inputKey = inputKey site request := congrArg JobRow.inputKey same
  have ownOutput : row.outputKey = resultKey (site.jobId request) :=
    congrArg JobRow.outputKey same
  have ownPipeline : row.pipeline = pipelineToJson routed.pipeline :=
    congrArg JobRow.pipeline same
  rw [ownPipeline, pipelineFromJson_pipelineToJson] at decoded
  exact ⟨request, ownId, ⟨routed, now, same ▸ entry⟩, input.trans ownInput,
    by rw [output, ownOutput, ownId], routed, (Except.ok.inj decoded).symm⟩

section Served

variable {queueName : QueueName} {stores : Stores} {reply : Reply}
  {phase next : Worker.RunOnce.Phase}

theorem worker_objects (working : Working before phase)
    (served : Worker.RunOnce.Served site.runtime site.imaging queueName before.stores phase reply
      stores next) : Write site before.stores.objects stores.objects := by
  cases served with
  | uploaded took =>
      obtain ⟨request, describes, rendering⟩ := working
      rw [describes.resultAt, describes.ownJob]
      exact .result rendering
  | polled => exact .nothing
  | dropped => exact .nothing
  | picked => exact .nothing
  | loaded => exact .nothing
  | unloaded => exact .nothing
  | started => exact .nothing
  | unstarted => exact .nothing
  | rendered => exact .nothing
  | downloadAgain => exact .nothing
  | uploadAgain => exact .nothing
  | downloadFailed => exact .nothing
  | uploadFailed => exact .nothing
  | finished => exact .nothing
  | unfinished => exact .nothing
  | failed => exact .nothing
  | unfailed => exact .nothing

/-- What a worker establishes with one call, in any state that has the stores
it leaves behind. -/
theorem worker_working (owned : before.Ownership) (intact : Intact before)
    (working : Working before phase)
    (served : Worker.RunOnce.Served site.runtime site.imaging queueName before.stores phase reply
      stores next)
    (same : after.stores = stores)
    (inserted : ∀ request, before.Inserted request → after.Inserted request) :
    Working after next := by
  have idle {next : Worker.RunOnce.Phase} (empty : next = .idle ∨ next = .stopped) :
      Working after next := by
    rcases empty with rfl | rfl <;> trivial
  cases served with
  | polled empty => exact idle empty
  | dropped popped empty => exact idle empty
  | picked => trivial
  | unloaded => trivial
  | unstarted => trivial
  | downloadFailed => trivial
  | uploadFailed => trivial
  | unfinished => trivial
  | unfailed => trivial
  | finished => cases reply <;> trivial
  | failed => cases reply <;> trivial
  | loaded member sameId input output decoded =>
      subst sameId
      obtain ⟨request, describes⟩ := describes_of_row owned member input output decoded
      exact ⟨request, describes.mono (inserted request)⟩
  | started =>
      obtain ⟨request, describes⟩ := working
      cases reply with
      | answered => exact ⟨request, describes.mono (inserted request)⟩
      | raised fault applied => trivial
  | downloadAgain =>
      obtain ⟨request, describes⟩ := working
      exact ⟨request, describes.mono (inserted request)⟩
  | uploadAgain =>
      obtain ⟨request, describes, rendering⟩ := working
      exact ⟨request, describes.mono (inserted request), rendering⟩
  | rendered found rendering =>
      obtain ⟨request, describes⟩ := working
      obtain ⟨routed, steps⟩ := describes.steps
      have original := intact.original request (.inr describes.inserted)
      rw [← describes.originalAt, found] at original
      cases original
      rw [steps] at rendering
      exact ⟨request, describes.mono (inserted request), routed, rendering⟩
  | uploaded took =>
      rename_i jobId metadata data attempt
      obtain ⟨request, describes, rendering⟩ := working
      cases reply with
      | answered =>
          change after.stores.objects (resultKey jobId) ≠ none
          rw [same, ← describes.resultAt]
          simp only [Function.update_self]
          exact Option.some_ne_none data
      | raised fault applied =>
          simp only [Reply.result, Worker.RunOnce.Phase.afterUpload]
          split
          · exact ⟨request, describes.mono (inserted request), rendering⟩
          · trivial

end Served

end Workers

section Steps

variable {R P W Image : Type} [DecidableEq R] [DecidableEq P] [DecidableEq W]
  {site : Deployment R P W Image} {before after : State site}

theorem start_ne_insertRow {runtime : Runtime} {request : Api.CreateJob.Request}
    (routed : Routed runtime request) :
    Api.CreateJob.Phase.start runtime request ≠ .insertRow routed := by
  unfold Api.CreateJob.Phase.start
  split
  · nofun
  · split
    · nofun
    · rename_i pipeline parsed _
      rcases Api.CreateJob.Phase.route_cases ⟨pipeline, parsed⟩ with ⟨_, _, next⟩ | ⟨_, _, next⟩ <;>
        rw [next] <;> nofun

theorem step_write {event : Event R W} (intact : Intact before)
    (stepped : before.Stepped event after) :
    Write site before.stores.objects after.stores.objects := by
  cases stepped with
  | started => exact .nothing
  | stopped => exact .nothing
  | restarted => exact .nothing
  | worked served => exact worker_objects (intact.working _) served
  | requested served =>
      rcases request_objects served with ⟨same, _⟩ | written
      · rw [State.afterRequest_stores, same]
        exact .nothing
      · rw [State.afterRequest_stores, written]
        exact .original _

theorem step_original {event : Event R W} (intact : Intact before)
    (stepped : before.Stepped event after) {request : R}
    (known : (∃ routed, after.requests request = .insertRow routed) ∨ after.Inserted request) :
    after.stores.objects (inputKey site request) = some (site.request request).imageBytes := by
  have write := step_write intact stepped
  rcases known with ⟨routed, inserting⟩ | inserted
  · rcases stepped.requests_eq request with same | ⟨_, _, started⟩ | ⟨now, reply, _, served⟩
    · exact write.keepsOriginal (intact.original request (.inl ⟨routed, same ▸ inserting⟩))
    · exact absurd (started.symm.trans inserting) (start_ne_insertRow routed)
    · rcases request_objects served with ⟨_, notInserting⟩ | written
      · exact absurd inserting (notInserting routed)
      · rw [written]
        exact Function.update_self ..
  · rcases stepped.effect.inserted_earlier inserted with earlier | inserting
    · exact write.keepsOriginal (intact.original request (.inr earlier))
    · exact write.keepsOriginal (intact.original request (.inl inserting))

theorem step_working {event : Event R W} (owned : before.Ownership) (intact : Intact before)
    (stepped : before.Stepped event after) (worker : W) :
    Working after (after.workers worker) := by
  have inserted (request : R) (known : before.Inserted request) : after.Inserted request :=
    known.of_submissions (fun _ => stepped.effect.submissions)
  have kept (key : Str) (present : before.stores.objects key ≠ none) :
      after.stores.objects key ≠ none := (step_write intact stepped).kept present
  have goesOn (same : after.workers worker = before.workers worker) :
      Working after (after.workers worker) := by
    rw [same]
    exact (intact.working worker).mono inserted kept
  cases stepped with
  | started => exact goesOn rfl
  | requested => exact goesOn rfl
  | worked served =>
      rename_i mover reply stores next
      by_cases same : worker = mover
      · subst worker
        have working : Working (before.afterWorker mover stores next) next :=
          worker_working owned intact (intact.working mover) served rfl inserted
        rw [before.afterWorker_same mover stores next]
        exact working
      · exact goesOn (before.afterWorker_other mover stores next same)
  | stopped alive =>
      rename_i mover
      by_cases same : worker = mover
      · subst worker
        rw [State.afterStop_same]
        trivial
      · exact goesOn (before.afterStop_other mover same)
  | restarted dead =>
      rename_i mover
      by_cases same : worker = mover
      · subst worker
        rw [State.afterRestart_same]
        trivial
      · exact goesOn (before.afterRestart_other mover same)

theorem step_done {event : Event R W} (intact : Intact before)
    (stepped : before.Stepped event after) {jobId : JobId}
    (done : after.stores.jobs.statusOf jobId = some .done) :
    after.stores.objects (resultKey jobId) ≠ none := by
  apply (step_write intact stepped).kept
  cases stepped with
  | started => exact intact.done jobId done
  | stopped => exact intact.done jobId done
  | restarted => exact intact.done jobId done
  | requested served =>
      rename_i request now reply stores next
      change stores.jobs.statusOf jobId = some .done at done
      rcases request_status served jobId with same | ⟨_, _, _, pending⟩ | ⟨_, _, _, failed⟩
      · exact intact.done jobId (same.symm.trans done)
      · cases done.symm.trans pending
      · rw [failed] at done
        obtain ⟨_, _, wrong⟩ := Option.map_eq_some_iff.mp done
        cases wrong
  | worked served =>
      rename_i worker reply stores next
      change stores.jobs.statusOf jobId = some .done at done
      rcases worker_status served jobId with same | ⟨_, _, _, written, write, changed⟩
      · exact intact.done jobId (same.symm.trans done)
      · rw [changed] at done
        obtain ⟨_, _, rfl⟩ := Option.map_eq_some_iff.mp done
        cases write with
        | last _ _ marking _ =>
            have working := intact.working worker
            rw [marking rfl] at working
            exact working

theorem Intact.step {event : Event R W} (owned : before.Ownership) (intact : Intact before)
    (stepped : before.Stepped event after) : Intact after where
  original _ known := step_original intact stepped known
  rendered _ _ stored := (step_write intact stepped).keepsRendered intact.rendered stored
  working := step_working owned intact stepped
  done _ finished := step_done intact stepped finished

theorem intact_of_reachable {permits : State site → Event R W → Bool} {state : State site}
    (reached : (machine site).Reachable permits state) : Intact state :=
  reached.invariant Intact .initial
    (fun reachedBefore intact _ stepped =>
      intact.step (State.reachable_ownership reachedBefore) (State.step_cases stepped))

end Steps

section Results

variable {R P W Image : Type} {site : Deployment R P W Image} {state : State site}

/-- A DONE row, the request that inserted it and the object at its output key. -/
theorem result_of_row (owned : state.Ownership) (intact : Intact state) {row : JobRow}
    (member : row ∈ state.stores.jobs.rows) (done : row.status = .done) :
    ∃ request, ∃ routed : Routed site.runtime (site.request request), ∃ now data,
      row.submission = newRow (site.jobId request) routed now ∧
        state.stores.objects row.outputKey = some data ∧
        renderResult site.runtime site.imaging (site.request request).imageBytes
          routed.pipeline = .ok data := by
  obtain ⟨request, routed, now, same, _⟩ :=
    owned.rowsOwned _ (JobsTable.submission_mem member)
  have ownId : row.jobId = site.jobId request := congrArg JobRow.jobId same
  have ownOutput : row.outputKey = resultKey (site.jobId request) :=
    congrArg JobRow.outputKey same
  have known : state.stores.jobs.statusOf row.jobId = some .done :=
    done ▸ JobsTable.statusOf_of_mem member
  obtain ⟨data, stored⟩ := Option.ne_none_iff_exists'.mp (intact.done row.jobId known)
  rw [ownId] at stored
  obtain ⟨other, rendering⟩ := intact.rendered request data stored
  rw [other.eq routed] at rendering
  exact ⟨request, routed, now, data, same, by rw [ownOutput]; exact stored, rendering⟩

variable [DecidableEq R] [DecidableEq P] [DecidableEq W]

/-- Every DONE row has the right object, and `get_job_result` serves that
object and no other, also when it downloads later than it read the row. -/
theorem done_rows_have_their_result (reached : (machine site).Reachable anything state)
    {row : JobRow} (member : row ∈ state.stores.jobs.rows) (done : row.status = .done) :
    ∃ request, ∃ routed : Routed site.runtime (site.request request), ∃ now data,
      row.submission = newRow (site.jobId request) routed now ∧
        state.stores.objects row.outputKey = some data ∧
        renderResult site.runtime site.imaging (site.request request).imageBytes
          routed.pipeline = .ok data ∧
        ∀ later, (machine site).Reaches anything state later →
          getJobResult state.stores.jobs later.stores.objects row.jobId .answered .answered =
              .ok data ∧
            ∀ found downloaded served,
              getJobResult state.stores.jobs later.stores.objects row.jobId found downloaded =
                .ok served → served = data := by
  have intact := intact_of_reachable reached
  obtain ⟨request, routed, now, data, same, stored, rendering⟩ :=
    result_of_row (State.reachable_ownership reached) intact member done
  have ownOutput : row.outputKey = resultKey (site.jobId request) :=
    congrArg JobRow.outputKey same
  refine ⟨request, routed, now, data, same, stored, rendering, fun later reaches => ?_⟩
  have present : later.stores.objects row.outputKey ≠ none := by
    refine Machine.Reaches.preserves (fun current : State site =>
      Intact current ∧ current.Ownership ∧ current.stores.objects row.outputKey ≠ none)
      ?_ reaches ⟨intact, State.reachable_ownership reached, by rw [stored]; nofun⟩ |>.2.2
    intro before event after ⟨intactBefore, ownedBefore, kept⟩ _ stepped
    have cases := State.step_cases stepped
    exact ⟨intactBefore.step ownedBefore cases, ownedBefore.step cases.effect,
      (step_write intactBefore cases).kept kept⟩
  have intactLater := intact_of_reachable (reached.reaches reaches)
  obtain ⟨dataLater, storedLater⟩ := Option.ne_none_iff_exists'.mp present
  obtain rfl : dataLater = data := by
    rw [ownOutput] at storedLater
    exact (intactLater.rendered request dataLater storedLater).unique ⟨routed, rendering⟩
  have decoded : pipelineFromJson row.pipeline = .ok routed.pipeline := by
    rw [show row.pipeline = pipelineToJson routed.pipeline from congrArg JobRow.pipeline same]
    exact pipelineFromJson_pipelineToJson routed.pipeline
  refine ⟨Api.getJobResult_of_done member done decoded storedLater, ?_⟩
  intro found downloaded served answer
  obtain ⟨other, memberOther, sameId, _, storedOther⟩ := Api.getJobResult_ok answer
  obtain rfl := JobsTable.eq_of_jobId memberOther member sameId
  exact Option.some.inj (storedOther.symm.trans storedLater)

/-- The pixel after one run of the worker. -/
theorem done_rows_have_their_result_pixel :
    ∃ (state : State smallSite) (row : JobRow) (request : Bool)
      (routed : Routed smallSite.runtime (smallSite.request request)) (data : Bytes),
      row.jobId = firstJob ∧ row.status = .done ∧
        state.stores.objects row.outputKey = some data ∧
        renderResult smallSite.runtime smallSite.imaging (smallSite.request request).imageBytes
          routed.pipeline = .ok data := by
  let events : List (Event Bool Unit) :=
    .start false :: List.replicate 5 (.request false 0 .answered) ++
      List.replicate 6 (.worker () .answered)
  have finished :
      ((machine smallSite).finalState anything events).stores.jobs.statusOf firstJob =
        some .done := by
    decide +kernel
  obtain ⟨row, member, sameId, done⟩ := JobsTable.statusOf_isSome finished
  obtain ⟨request, routed, _, data, _, stored, rendering, _⟩ :=
    done_rows_have_their_result (.finalState events) member done
  exact ⟨_, row, request, routed, data, sameId, done, stored, rendering⟩

end Results

end ImagePipeline.Properties.ResultIntegrity
