/-
One pass of a worker over the job it has popped, for every way its calls can
end. The row becomes DONE exactly if all stages succeed and FAILED otherwise, and
nothing of another job is touched.
-/

import ImagePipeline.Api.PipelineGrammar
import ImagePipeline.Worker.PassStages

namespace ImagePipeline.Properties.WorkerPass

open Common Worker
open Worker.Pass
open Library.Stateful (Ends resultOf stateOf)

variable {Image : Type} {runtime : Runtime} {imaging : Imaging Image} {queueName : QueueName}
  {uniform : Jitter} {replies : Replies} {stores : Stores} {jobId : JobId}

/-- Every stage succeeds, the download and the upload within three attempts. -/
structure Succeeds (runtime : Runtime) (imaging : Imaging Image) (replies : Replies)
    (stores : Stores) (jobId : JobId) (metadata : JobMetadata) (inputBytes data : Bytes) :
    Prop where
  loaded : replies.getJob.read (stores.jobs.getJob jobId) = .ok metadata
  started : replies.markProcessing = .answered
  downloaded : ∃ attempt, 1 ≤ attempt ∧ attempt ≤ 3 ∧
    Common.download stores.objects metadata.inputKey (replies.download attempt) = .ok inputBytes
  rendered : renderResult runtime imaging inputBytes metadata.pipeline = .ok data
  uploaded : ∃ attempt, 1 ≤ attempt ∧ attempt ≤ 3 ∧ replies.upload attempt = .answered
  finished : replies.markDone = .answered

def AllSucceed (runtime : Runtime) (imaging : Imaging Image) (replies : Replies)
    (stores : Stores) (jobId : JobId) : Prop :=
  ∃ metadata inputBytes data,
    Succeeds runtime imaging replies stores jobId metadata inputBytes data

/-- A raising status update leaves the row as it is. -/
structure MarksFaithful (replies : Replies) : Prop where
  processing : replies.markProcessing.faithful = true
  done : replies.markDone.faithful = true
  failed : replies.markFailed.faithful = true

def otherRows (table : JobsTable) (jobId : JobId) : List JobRow :=
  table.rows.filter (fun row => row.jobId ≠ jobId)

theorem otherRows_updateStatus (table : JobsTable) (jobId : JobId) (status : Status) :
    otherRows (table.updateStatus jobId status) jobId = otherRows table jobId := by
  unfold otherRows JobsTable.updateStatus
  dsimp only
  induction table.rows with
  | nil => rfl
  | cons row rest ih =>
      rw [List.map_cons]
      by_cases own : row.jobId = jobId
      · rw [if_pos own, List.filter_cons_of_neg (by simpa using own),
          List.filter_cons_of_neg (by simpa using own)]
        exact ih
      · rw [if_neg own, List.filter_cons_of_pos (by simpa using own),
          List.filter_cons_of_pos (by simpa using own), ih]

/-- Nothing of another job is touched between two states of the stores: its row,
its objects and the queues. -/
structure Untouched (jobId : JobId) (before after : Stores) : Prop where
  rows : otherRows after.jobs jobId = otherRows before.jobs jobId
  objects : ∀ key, (∀ row ∈ before.jobs.rows, row.jobId = jobId → row.outputKey ≠ key) →
    after.objects key = before.objects key
  queues : after.queues = before.queues

/-- What holds when the body of the `try` returns. -/
structure Completed (runtime : Runtime) (imaging : Imaging Image) (replies : Replies)
    (stores : Stores) (jobId : JobId) (metadata : JobMetadata) (inputBytes data : Bytes)
    (world : World) : Prop where
  succeeds : Succeeds runtime imaging replies stores jobId metadata inputBytes data
  jobs : world.stores.jobs =
    (stores.jobs.updateStatus jobId .processing).updateStatus jobId .done
  stored : world.stores.objects metadata.outputKey = some data
  untouched : Untouched jobId stores world.stores
  ordered : UploadsProcessed world.trace

/-- What holds when it raises. -/
structure Broken (runtime : Runtime) (imaging : Imaging Image) (replies : Replies)
    (stores : Stores) (jobId : JobId) (world : World) : Prop where
  failing : ¬ AllSucceed runtime imaging replies stores jobId
  jobs : world.stores.jobs = stores.jobs ∨
    world.stores.jobs = stores.jobs.updateStatus jobId .processing
  untouched : Untouched jobId stores world.stores
  ordered : UploadsProcessed world.trace

theorem Untouched.of_quiet {world : World} (quiet : Quiet stores world) :
    Untouched jobId stores world.stores := by
  rw [quiet.stores]
  exact ⟨rfl, fun _ _ => rfl, rfl⟩

theorem Untouched.of_processing {world : World}
    (quiet : Quiet { stores with jobs := stores.jobs.updateStatus jobId .processing } world) :
    Untouched jobId stores world.stores := by
  rw [quiet.stores]
  exact ⟨otherRows_updateStatus _ _ _, fun _ _ => rfl, rfl⟩

theorem Broken.of_quiet {world : World} (quiet : Quiet stores world)
    (failing : ¬ AllSucceed runtime imaging replies stores jobId) :
    Broken runtime imaging replies stores jobId world :=
  { failing
    jobs := .inl (by rw [quiet.stores])
    untouched := .of_quiet quiet
    ordered := .of_none quiet.noUpload }

theorem Broken.of_processing {world : World}
    (quiet : Quiet { stores with jobs := stores.jobs.updateStatus jobId .processing } world)
    (failing : ¬ AllSucceed runtime imaging replies stores jobId) :
    Broken runtime imaging replies stores jobId world :=
  { failing
    jobs := .inr (by rw [quiet.stores])
    untouched := .of_processing quiet
    ordered := .of_none quiet.noUpload }

/-- While the result of a job is uploaded, only the object at its own output key
changes. -/
theorem Untouched.of_uploading {metadata : JobMetadata} {world : World}
    (loaded : replies.getJob.read (stores.jobs.getJob jobId) = .ok metadata)
    (uploading : Uploading { stores with jobs := stores.jobs.updateStatus jobId .processing }
      metadata.outputKey world) : Untouched jobId stores world.stores := by
  obtain ⟨row, member, same, _, _, outputKey, _⟩ := JobsTable.getJob_ok (Reply.read_ok loaded).2
  constructor
  · rw [uploading.jobs]
    exact otherRows_updateStatus _ _ _
  · intro key others
    exact uploading.objects key fun own => others row member same (outputKey.symm.trans own.symm)
  · exact uploading.queues

theorem Broken.of_uploading {metadata : JobMetadata} {world : World}
    (loaded : replies.getJob.read (stores.jobs.getJob jobId) = .ok metadata)
    (uploading : Uploading { stores with jobs := stores.jobs.updateStatus jobId .processing }
      metadata.outputKey world)
    (failing : ¬ AllSucceed runtime imaging replies stores jobId) :
    Broken runtime imaging replies stores jobId world :=
  { failing
    jobs := .inr uploading.jobs
    untouched := .of_uploading loaded uploading
    ordered := uploading.ordered }

theorem download_unique {objects : Objects} {key : Str} {reply other : Nat → Reply}
    {left right : Bytes}
    (foundLeft : ∃ attempt, 1 ≤ attempt ∧ attempt ≤ 3 ∧
      Common.download objects key (reply attempt) = .ok left)
    (foundRight : ∃ attempt, 1 ≤ attempt ∧ attempt ≤ 3 ∧
      Common.download objects key (other attempt) = .ok right) : left = right := by
  obtain ⟨_, _, _, atLeft⟩ := foundLeft
  obtain ⟨_, _, _, atRight⟩ := foundRight
  exact Except.ok.inj ((Reply.read_ok atLeft).2.symm.trans (Reply.read_ok atRight).2)

theorem processJob_ends (faithful : MarksFaithful replies) {world : World}
    (quiet : Quiet stores world) :
    Ends (processJob runtime imaging uniform replies jobId) world
      (fun _ after => ∃ metadata inputBytes data,
        Completed runtime imaging replies stores jobId metadata inputBytes data after)
      (fun _ after => Broken runtime imaging replies stores jobId after) := by
  unfold processJob
  apply Ends.bind (getJob_ends quiet)
  · rintro error after ⟨quiet, failed⟩
    refine .of_quiet quiet ?_
    intro ⟨metadata, inputBytes, data, succeeds⟩
    rw [succeeds.loaded] at failed
    cases failed
  intro metadata after ⟨quiet, loaded⟩
  -- from here on the metadata of any success is this one
  have same {other : JobMetadata} {inputBytes data : Bytes}
      (succeeds : Succeeds runtime imaging replies stores jobId other inputBytes data) :
      other = metadata := Except.ok.inj (succeeds.loaded.symm.trans loaded)
  apply Ends.bind (markProcessing_ends faithful.processing quiet)
  · rintro error after ⟨quiet, notAnswered⟩
    refine .of_quiet quiet ?_
    intro ⟨_, _, _, succeeds⟩
    exact notAnswered succeeds.started
  intro _ after ⟨quiet, started⟩
  apply Ends.bind (download_ends quiet)
  · rintro error after ⟨quiet, failing⟩
    refine .of_processing quiet ?_
    intro ⟨other, inputBytes, data, succeeds⟩
    obtain rfl := same succeeds
    obtain ⟨attempt, first, atMost, found⟩ := succeeds.downloaded
    obtain ⟨raised, failed⟩ := failing attempt first atMost
    rw [found] at failed
    cases failed
  intro inputBytes after ⟨quiet, downloaded⟩
  apply Ends.bind (render_ends quiet)
  · rintro error after ⟨quiet, failed⟩
    refine .of_processing quiet ?_
    intro ⟨other, found, data, succeeds⟩
    obtain rfl := same succeeds
    have rendered := succeeds.rendered
    rw [download_unique succeeds.downloaded downloaded, failed] at rendered
    cases rendered
  intro data after ⟨quiet, processed, rendered⟩
  apply Ends.bind (upload_ends (.of_quiet quiet processed))
  · rintro error after ⟨uploading, failing⟩
    refine .of_uploading loaded uploading ?_
    intro ⟨other, _, _, succeeds⟩
    obtain ⟨attempt, first, atMost, answered⟩ := succeeds.uploaded
    exact failing attempt first atMost answered
  intro _ after ⟨uploading, stored, uploaded⟩
  apply Ends.bind (updateStatus_ends faithful.done)
  · rintro error _ ⟨notAnswered, rfl⟩
    refine .of_uploading loaded uploading.snoc ?_
    intro ⟨_, _, _, succeeds⟩
    exact notAnswered succeeds.finished
  · rintro _ _ ⟨answered, rfl⟩
    refine Ends.of_ok rfl ⟨metadata, inputBytes, data, ?_⟩
    have untouched := Untouched.of_uploading loaded uploading
    constructor
    · exact ⟨loaded, started, downloaded, rendered, uploaded, answered⟩
    · change after.stores.jobs.updateStatus jobId .done = _
      rw [uploading.jobs]
    · exact stored
    · exact ⟨(otherRows_updateStatus _ _ _).trans untouched.rows, untouched.objects,
        untouched.queues⟩
    · exact (uploading.ordered.snoc_other rfl).snoc_other rfl

theorem allSucceed_setQueue {queue : JobQueue} :
    AllSucceed runtime imaging replies (stores.setQueue queueName queue) jobId ↔
      AllSucceed runtime imaging replies stores jobId := by
  constructor <;> intro ⟨metadata, inputBytes, data, succeeds⟩ <;>
    exact ⟨metadata, inputBytes, data, succeeds.loaded, succeeds.started, succeeds.downloaded,
      succeeds.rendered, succeeds.uploaded, succeeds.finished⟩

/-- How a pass ends that has popped a job and does not raise. -/
structure Settled (runtime : Runtime) (imaging : Imaging Image) (replies : Replies)
    (stores : Stores) (jobId : JobId) (after : Stores) : Prop where
  succeeded : ∀ metadata inputBytes data,
    Succeeds runtime imaging replies stores jobId metadata inputBytes data →
    after.jobs.statusOf jobId = (stores.jobs.statusOf jobId).map (fun _ => .done) ∧
      after.objects metadata.outputKey = some data
  failed : ¬ AllSucceed runtime imaging replies stores jobId →
    after.jobs.statusOf jobId = (stores.jobs.statusOf jobId).map (fun _ => .failed)

theorem Completed.settled {metadata : JobMetadata} {inputBytes data : Bytes} {world : World}
    (completed : Completed runtime imaging replies stores jobId metadata inputBytes data world) :
    Settled runtime imaging replies stores jobId world.stores := by
  constructor
  · intro other found result succeeds
    obtain rfl : other = metadata :=
      Except.ok.inj (succeeds.loaded.symm.trans completed.succeeds.loaded)
    obtain rfl : found = inputBytes :=
      download_unique succeeds.downloaded completed.succeeds.downloaded
    obtain rfl : result = data :=
      Except.ok.inj (succeeds.rendered.symm.trans completed.succeeds.rendered)
    refine ⟨?_, completed.stored⟩
    rw [completed.jobs, JobsTable.statusOf_updateStatus, JobsTable.statusOf_updateStatus,
      if_pos rfl, if_pos rfl, Option.map_map]
    rfl
  · intro failing
    exact absurd ⟨metadata, inputBytes, data, completed.succeeds⟩ failing

theorem Broken.settled {world : World} (broken : Broken runtime imaging replies stores jobId world) :
    Settled runtime imaging replies stores jobId
      { world.stores with jobs := world.stores.jobs.updateStatus jobId .failed } := by
  constructor
  · intro metadata inputBytes data succeeds
    exact absurd ⟨metadata, inputBytes, data, succeeds⟩ broken.failing
  · intro _
    rw [JobsTable.statusOf_updateStatus, if_pos rfl]
    rcases broken.jobs with same | same
    · rw [same]
    · rw [same, JobsTable.statusOf_updateStatus, if_pos rfl, Option.map_map]
      rfl

/-- The pass that has popped a job, up to its end. -/
theorem afterPop_ends (faithful : MarksFaithful replies) {world : World}
    (quiet : Quiet stores world) :
    Ends (do
        logEvent (str "job_picked") none
        tryCatch (processJob runtime imaging uniform replies jobId) fun _ => do
          logEvent (str "job_failed") (some .failed)
          markFailed replies jobId) world
      (fun _ after => (Untouched jobId stores after.stores ∧ UploadsProcessed after.trace) ∧
        Settled runtime imaging replies stores jobId after.stores)
      (fun _ after => (Untouched jobId stores after.stores ∧ UploadsProcessed after.trace) ∧
        replies.markFailed ≠ .answered ∧
        Event.called .markFailed replies.markFailed ∈ after.trace) := by
  have picked : Quiet stores (world.record (.logged (str "job_picked") none)) := quiet.snoc rfl
  change Ends (tryCatch _ _) (world.record (.logged (str "job_picked") none)) _ _
  apply Ends.tryCatch ((processJob_ends faithful picked).mono ?_ fun _ _ known => known)
  · intro error after broken
    change Ends (markFailed replies jobId)
      (after.record (.logged (str "job_failed") (some .failed))) _ _
    have ordered (event : Event) (other : event.isUpload = false) : UploadsProcessed
        (after.trace ++ [.logged (str "job_failed") (some .failed)] ++ [event]) :=
      (broken.ordered.snoc_other rfl).snoc_other other
    apply (updateStatus_ends faithful.failed).mono
    · rintro _ _ ⟨_, rfl⟩
      have settled := broken.settled
      refine ⟨⟨⟨?_, broken.untouched.objects, broken.untouched.queues⟩, ordered _ rfl⟩,
        settled.succeeded, settled.failed⟩
      exact (otherRows_updateStatus _ _ _).trans broken.untouched.rows
    · rintro _ _ ⟨notAnswered, rfl⟩
      exact ⟨⟨broken.untouched, ordered _ rfl⟩, notAnswered,
        List.mem_append_right _ (List.mem_singleton.mpr rfl)⟩
  · intro _ after ⟨metadata, inputBytes, data, completed⟩
    exact ⟨⟨completed.untouched, completed.ordered⟩, completed.settled⟩

/-- The answer of `get_next_job`, and the stores without the entry it removed. -/
def popAnswer (queueName : QueueName) (replies : Replies) (stores : Stores) :
    Except Exn (Option JobId) :=
  (Common.getNextJob (stores.queues queueName) replies.getNextJob).2

def afterPop (queueName : QueueName) (replies : Replies) (stores : Stores) : Stores :=
  stores.setQueue queueName (Common.getNextJob (stores.queues queueName) replies.getNextJob).1

theorem runOnce_ends (faithful : MarksFaithful replies) (stores : Stores) :
    Ends (runOnce runtime imaging queueName uniform replies) ⟨stores, []⟩
      (fun _ after => ∀ jobId, popAnswer queueName replies stores = .ok (some jobId) →
        (Untouched jobId (afterPop queueName replies stores) after.stores ∧
          UploadsProcessed after.trace) ∧
        Settled runtime imaging replies (afterPop queueName replies stores) jobId after.stores)
      (fun error after => popAnswer queueName replies stores = .error error ∨
        ∃ jobId, popAnswer queueName replies stores = .ok (some jobId) ∧
          (Untouched jobId (afterPop queueName replies stores) after.stores ∧
            UploadsProcessed after.trace) ∧
          replies.markFailed ≠ .answered ∧
          Event.called .markFailed replies.markFailed ∈ after.trace) := by
  have popped : Ends (Pass.getNextJob queueName replies) ⟨stores, []⟩
      (fun job after => popAnswer queueName replies stores = .ok job ∧
        Quiet (afterPop queueName replies stores) after)
      (fun error _ => popAnswer queueName replies stores = .error error) := by
    apply callService_ends
    · intro job answered
      refine ⟨answered, rfl, ?_⟩
      intro event member
      rw [List.mem_singleton.mp member]
      rfl
    · intro error failed
      exact failed
  apply Ends.bind popped
  · exact fun error after failed => .inl failed
  · intro job after ⟨answered, quiet⟩
    cases job with
    | none =>
        refine Ends.of_ok rfl ?_
        intro jobId other
        rw [answered] at other
        cases other
    | some jobId =>
        apply (afterPop_ends faithful quiet).mono
        · intro _ after known other same
          rw [answered] at same
          cases same
          exact known
        · intro error after known
          exact .inr ⟨jobId, answered, known⟩

theorem popAnswer_pop (answered : popAnswer queueName replies stores = .ok (some jobId)) :
    (stores.queues queueName).pop? =
      some (jobId, (afterPop queueName replies stores).queues queueName) := by
  unfold popAnswer at answered
  unfold afterPop
  rw [Stores.setQueue_same]
  cases reply : replies.getNextJob with
  | answered =>
      rw [reply] at answered
      unfold Common.getNextJob at answered ⊢
      cases pop : (stores.queues queueName).pop? with
      | none =>
          rw [pop] at answered
          cases answered
      | some pair =>
          rw [pop] at answered
          cases answered
          rfl
  | raised fault applied =>
      rw [reply] at answered
      cases fault <;> cases answered

section Settled

variable {after : Stores} (settled : Settled runtime imaging replies
  (afterPop queueName replies stores) jobId after)
include settled

theorem Settled.statusOf_failed (present : ∃ row ∈ stores.jobs.rows, row.jobId = jobId)
    (broken : ¬ AllSucceed runtime imaging replies stores jobId) :
    after.jobs.statusOf jobId = some .failed := by
  obtain ⟨row, member, rfl⟩ := present
  rw [settled.failed (allSucceed_setQueue.not.mpr broken)]
  change (stores.jobs.statusOf row.jobId).map _ = _
  rw [JobsTable.statusOf_of_mem member]
  rfl

theorem Settled.row_of_succeeds {metadata : JobMetadata} {inputBytes data : Bytes}
    (succeeds : Succeeds runtime imaging replies stores jobId metadata inputBytes data) :
    ∃ row ∈ stores.jobs.rows, row.jobId = jobId ∧ after.jobs.statusOf jobId = some .done ∧
      after.objects row.outputKey = some data := by
  obtain ⟨row, member, same, _, _, outputKey, _⟩ :=
    JobsTable.getJob_ok (Reply.read_ok succeeds.loaded).2
  obtain ⟨status, stored⟩ := settled.succeeded metadata inputBytes data
    ⟨succeeds.loaded, succeeds.started, succeeds.downloaded, succeeds.rendered,
      succeeds.uploaded, succeeds.finished⟩
  refine ⟨row, member, same, ?_, outputKey ▸ stored⟩
  rw [status]
  change (stores.jobs.statusOf jobId).map _ = _
  rw [← same, JobsTable.statusOf_of_mem member]
  rfl

/-- Without a row there is no status, so DONE always means success. -/
theorem Settled.allSucceed_of_done (done : after.jobs.statusOf jobId = some .done) :
    AllSucceed runtime imaging replies stores jobId := by
  by_contra broken
  by_cases present : ∃ row ∈ stores.jobs.rows, row.jobId = jobId
  · rw [settled.statusOf_failed present broken] at done
    cases done
  · have missing : (afterPop queueName replies stores).jobs.statusOf jobId = none := by
      change (stores.jobs.find? jobId).map _ = none
      rw [JobsTable.find?_eq_none.mpr fun row member same => present ⟨row, member, same⟩]
      rfl
    rw [settled.failed (allSucceed_setQueue.not.mpr broken), missing] at done
    cases done

end Settled

/-- What is specified of a pass over a job that was popped. -/
structure Outcome (runtime : Runtime) (imaging : Imaging Image) (queueName : QueueName)
    (replies : Replies) (stores : Stores) (jobId : JobId)
    (ending : EStateM.Result Exn World Unit) : Prop where
  done : resultOf ending = .ok () → (∃ row ∈ stores.jobs.rows, row.jobId = jobId) →
    ((stateOf ending).stores.jobs.statusOf jobId = some .done ↔
      AllSucceed runtime imaging replies stores jobId)
  failed : resultOf ending = .ok () → (∃ row ∈ stores.jobs.rows, row.jobId = jobId) →
    ¬ AllSucceed runtime imaging replies stores jobId →
    (stateOf ending).stores.jobs.statusOf jobId = some .failed
  uploads : UploadsProcessed (stateOf ending).trace
  stored : resultOf ending = .ok () →
    (stateOf ending).stores.jobs.statusOf jobId = some .done →
    ∃ row ∈ stores.jobs.rows, row.jobId = jobId ∧ ∃ metadata inputBytes data,
      Succeeds runtime imaging replies stores jobId metadata inputBytes data ∧
      (stateOf ending).stores.objects row.outputKey = some data
  rows : otherRows (stateOf ending).stores.jobs jobId = otherRows stores.jobs jobId
  objects : ∀ key, (∀ row ∈ stores.jobs.rows, row.jobId = jobId → row.outputKey ≠ key) →
    (stateOf ending).stores.objects key = stores.objects key
  ownQueue : (stores.queues queueName).pop? =
    some (jobId, (stateOf ending).stores.queues queueName)
  otherQueues : ∀ other, other ≠ queueName →
    (stateOf ending).stores.queues other = stores.queues other

/-- A pass raises only if `get_next_job` or the final `mark_failed` did. A popped
job's row ends DONE exactly if every stage succeeded and FAILED otherwise; no
upload comes before `process_image` has returned; DONE means that the rendering
is at the output key; and nothing of another job changes. -/
theorem runOnce_outcome (faithful : MarksFaithful replies) (stores : Stores) :
    let ending := runOnce runtime imaging queueName uniform replies ⟨stores, []⟩
    (∀ raised, resultOf ending = .error raised →
      popAnswer queueName replies stores = .error raised ∨
      replies.markFailed ≠ .answered ∧
        Event.called .markFailed replies.markFailed ∈ (stateOf ending).trace) ∧
    ∀ jobId, popAnswer queueName replies stores = .ok (some jobId) →
      Outcome runtime imaging queueName replies stores jobId ending := by
  intro ending
  have ends : Ends (runOnce runtime imaging queueName uniform replies) ⟨stores, []⟩ _ _ :=
    runOnce_ends faithful stores
  constructor
  · intro raised result
    rcases ends.of_raised result with failed | ⟨jobId, _, _, notAnswered, called⟩
    · exact .inl failed
    · exact .inr ⟨notAnswered, called⟩
  · intro jobId answered
    have always : Untouched jobId (afterPop queueName replies stores) (stateOf ending).stores ∧
        UploadsProcessed (stateOf ending).trace := by
      cases result : resultOf ending with
      | ok value => exact (ends.of_returned result jobId answered).1
      | error raised =>
          rcases ends.of_raised result with failed | ⟨other, same, known, _⟩
          · rw [answered] at failed
            cases failed
          · rw [answered] at same
            cases same
            exact known
    obtain ⟨untouched, ordered⟩ := always
    have settled (result : resultOf ending = .ok ()) :
        Settled runtime imaging replies (afterPop queueName replies stores) jobId
          (stateOf ending).stores := (ends.of_returned result jobId answered).2
    constructor
    · intro result _
      constructor
      · exact (settled result).allSucceed_of_done
      · intro ⟨metadata, inputBytes, data, succeeds⟩
        obtain ⟨_, _, _, done, _⟩ := (settled result).row_of_succeeds succeeds
        exact done
    · intro result
      exact (settled result).statusOf_failed
    · exact ordered
    · intro result done
      obtain ⟨metadata, inputBytes, data, succeeds⟩ := (settled result).allSucceed_of_done done
      obtain ⟨row, member, same, _, stored⟩ := (settled result).row_of_succeeds succeeds
      exact ⟨row, member, same, metadata, inputBytes, data, succeeds, stored⟩
    · exact untouched.rows
    · exact untouched.objects
    · rw [untouched.queues]
      exact popAnswer_pop answered
    · intro other different
      rw [untouched.queues]
      exact Stores.setQueue_other stores _ different

/-! ### A pass with one failed download -/

def pixelRow : JobRow :=
  { jobId := firstJob
    idempotencyKey := none
    idempotencyRequestHash := none
    pipeline := pipelineToJson [⟨str "blur", []⟩]
    inputKey := originalKey firstJob (some (str "pixel.ppm"))
    outputKey := resultKey firstJob
    status := .pending
    createdAt := 0 }

def pixelStores : Stores :=
  { jobs := ⟨[pixelRow], List.pairwise_singleton _ _⟩
    queues := fun _ => Library.FifoLog.empty.push firstJob
    objects := fun key => if key = pixelRow.inputKey then some blackPixel else none }

/-- Only the first download attempt raises. -/
def oneRetry : Replies :=
  { getNextJob := .answered
    getJob := .answered
    markProcessing := .answered
    download := fun attempt => if attempt = 1 then .raised .other false else .answered
    upload := fun _ => .answered
    markDone := .answered
    markFailed := .answered }

theorem runOnce_outcome_retried :
    let ending := runOnce Api.plainRuntime pixelImaging .jobsDefault wholeDelay oneRetry
      ⟨pixelStores, []⟩
    resultOf ending = .ok () ∧
      (stateOf ending).stores.jobs.statusOf firstJob = some .done ∧
      ∃ row ∈ pixelStores.jobs.rows, row.jobId = firstJob ∧ ∃ data,
        (stateOf ending).stores.objects row.outputKey = some data := by
  intro ending
  have faithful : MarksFaithful oneRetry := ⟨rfl, rfl, rfl⟩
  have answered : popAnswer .jobsDefault oneRetry pixelStores = .ok (some firstJob) := by
    decide +kernel
  have outcome : Outcome Api.plainRuntime pixelImaging .jobsDefault oneRetry pixelStores firstJob
      ending := (runOnce_outcome faithful pixelStores).2 firstJob answered
  have returned : resultOf ending = .ok () := by decide +kernel
  have done : (stateOf ending).stores.jobs.statusOf firstJob = some .done := by decide +kernel
  obtain ⟨row, member, same, _, _, data, _, stored⟩ := outcome.stored returned done
  exact ⟨returned, done, row, member, same, data, stored⟩

end ImagePipeline.Properties.WorkerPass
