/-
What each stage of a pass does to the stores and to the trace, whether it
returns or raises, and exactly when it does which.
-/

import ImagePipeline.Worker.Pass

namespace ImagePipeline.Worker.Pass

open Common
open Library.Stateful (Ends)

/-- No upload is attempted before `process_image` has returned. -/
def UploadsProcessed (trace : List Event) : Prop :=
  ∀ before event after, trace = before ++ event :: after → event.isUpload = true →
    Event.processed ∈ before

theorem UploadsProcessed.of_none {trace : List Event}
    (none : ∀ event ∈ trace, event.isUpload = false) : UploadsProcessed trace := by
  rintro before event after rfl isUpload
  rw [none event (by simp)] at isUpload
  cases isUpload

theorem UploadsProcessed.snoc {trace : List Event} {last : Event}
    (ordered : UploadsProcessed trace)
    (fine : last.isUpload = true → Event.processed ∈ trace) :
    UploadsProcessed (trace ++ [last]) := by
  intro before event after same isUpload
  rcases List.eq_nil_or_concat after with rfl | ⟨middle, final, rfl⟩
  · obtain ⟨rfl, rest⟩ := List.append_inj' same rfl
    cases rest
    exact fine isUpload
  · rw [List.concat_eq_append, ← List.cons_append, ← List.append_assoc] at same
    obtain ⟨earlier, _⟩ := List.append_inj' same rfl
    exact ordered before event middle earlier isUpload

theorem UploadsProcessed.snoc_other {trace : List Event} {last : Event}
    (ordered : UploadsProcessed trace) (other : last.isUpload = false) :
    UploadsProcessed (trace ++ [last]) := by
  apply ordered.snoc
  intro isUpload
  rw [other] at isUpload
  cases isUpload

/-- The stores are these, and nothing was uploaded yet. -/
structure Quiet (stores : Stores) (world : World) : Prop where
  stores : world.stores = stores
  noUpload : ∀ event ∈ world.trace, event.isUpload = false

/-- Except for one object, the stores are these; `process_image` has returned. -/
structure Uploading (stores : Stores) (outputKey : Str) (world : World) : Prop where
  jobs : world.stores.jobs = stores.jobs
  queues : world.stores.queues = stores.queues
  objects : ∀ key, key ≠ outputKey → world.stores.objects key = stores.objects key
  processed : Event.processed ∈ world.trace
  ordered : UploadsProcessed world.trace

variable {stores : Stores} {world : World}

theorem Quiet.snoc {event : Event} (quiet : Quiet stores world) (other : event.isUpload = false) :
    Quiet stores { world with trace := world.trace ++ [event] } := by
  constructor
  · exact quiet.stores
  · intro earlier member
    rcases List.mem_append.mp member with before | last
    · exact quiet.noUpload earlier before
    · rw [List.mem_singleton.mp last]
      exact other

theorem Uploading.snoc {outputKey : Str} {event : Event}
    (uploading : Uploading stores outputKey world) :
    Uploading stores outputKey { world with trace := world.trace ++ [event] } :=
  { uploading with
    processed := List.mem_append_left _ uploading.processed
    ordered := uploading.ordered.snoc fun _ => uploading.processed }

theorem Uploading.of_quiet {outputKey : Str} (quiet : Quiet stores world)
    (processed : Event.processed ∈ world.trace) : Uploading stores outputKey world := by
  constructor
  · rw [quiet.stores]
  · rw [quiet.stores]
  · intro key _
    rw [quiet.stores]
  · exact processed
  · exact .of_none quiet.noUpload

theorem callService_ends {α : Type} {call : ServiceCall} {reply : Reply}
    {effect : Stores → Stores × Except Exn α} {returned : α → World → Prop}
    {raised : Exn → World → Prop}
    (answered : ∀ value, (effect world.stores).2 = .ok value →
      returned value ⟨(effect world.stores).1, world.trace ++ [.called call reply]⟩)
    (failed : ∀ error, (effect world.stores).2 = .error error →
      raised error ⟨(effect world.stores).1, world.trace ++ [.called call reply]⟩) :
    Ends (callService call reply effect) world returned raised := by
  cases result : (effect world.stores).2 with
  | ok value =>
      refine Ends.of_ok ?_ (answered value result)
      simp only [callService, result]
  | error error =>
      refine Ends.of_error ?_ (failed error result)
      simp only [callService, result]

theorem lift_ends {α : Type} {result : Except Exn α} {returned : α → World → Prop}
    {raised : Exn → World → Prop} (fine : ∀ value, result = .ok value → returned value world)
    (failed : ∀ error, result = .error error → raised error world) :
    Ends (lift result) world returned raised := by
  cases result with
  | ok value => exact Ends.of_ok rfl (fine value rfl)
  | error error => exact Ends.of_error rfl (failed error rfl)

section Stages

variable {Image : Type} {runtime : Runtime} {imaging : Imaging Image}
  {uniform : Jitter} {replies : Replies} {jobId : JobId}

theorem getJob_ends (quiet : Quiet stores world) :
    Ends (getJob replies jobId) world
      (fun metadata after => Quiet stores after ∧
        replies.getJob.read (stores.jobs.getJob jobId) = .ok metadata)
      (fun error after => Quiet stores after ∧
        replies.getJob.read (stores.jobs.getJob jobId) = .error error) := by
  apply callService_ends
  · intro metadata loaded
    rw [quiet.stores] at loaded
    exact ⟨quiet.snoc rfl, loaded⟩
  · intro error failed
    rw [quiet.stores] at failed
    exact ⟨quiet.snoc rfl, failed⟩

theorem updateStatus_ends {call : ServiceCall} {reply : Reply} {status : Status}
    (faithful : reply.faithful = true) :
    Ends (updateStatus call reply jobId status) world
      (fun _ after => reply = .answered ∧ after =
        ⟨{ world.stores with jobs := world.stores.jobs.updateStatus jobId status },
          world.trace ++ [.called call reply]⟩)
      (fun _ after => reply ≠ .answered ∧
        after = ⟨world.stores, world.trace ++ [.called call reply]⟩) := by
  apply callService_ends
  · intro value answered
    cases reply with
    | answered => exact ⟨rfl, rfl⟩
    | raised fault applied => cases answered
  · intro error failed
    cases reply with
    | answered => cases failed
    | raised fault applied =>
        cases applied with
        | false => exact ⟨nofun, rfl⟩
        | true => cases faithful

theorem markProcessing_ends (faithful : replies.markProcessing.faithful = true)
    (quiet : Quiet stores world) :
    Ends (markProcessing replies jobId) world
      (fun _ after =>
        Quiet { stores with jobs := stores.jobs.updateStatus jobId .processing } after ∧
        replies.markProcessing = .answered)
      (fun _ after => Quiet stores after ∧ replies.markProcessing ≠ .answered) := by
  apply (updateStatus_ends faithful).mono
  · rintro _ after ⟨answered, rfl⟩
    have later : Quiet stores
        { world with trace := world.trace ++ [.called .markProcessing replies.markProcessing] } :=
      quiet.snoc rfl
    exact ⟨⟨by rw [← quiet.stores], later.noUpload⟩, answered⟩
  · rintro _ after ⟨notAnswered, rfl⟩
    exact ⟨quiet.snoc rfl, notAnswered⟩

theorem download_ends {inputKey : Str} (quiet : Quiet stores world) :
    Ends (retryWithBackoff {} (surroundings uniform) (str "storage_download")
        (download replies inputKey)) world
      (fun inputBytes after => Quiet stores after ∧ ∃ attempt, 1 ≤ attempt ∧
        attempt ≤ maxAttempts ∧
        Common.download stores.objects inputKey (replies.download attempt) = .ok inputBytes)
      (fun _ after => Quiet stores after ∧ ∀ attempt, 1 ≤ attempt → attempt ≤ maxAttempts →
        ∃ raised, Common.download stores.objects inputKey (replies.download attempt) =
          .error raised) := by
  have rule : RetryRule {} (surroundings uniform) (str "storage_download")
      (download replies inputKey)
      (fun attempt => Common.download stores.objects inputKey (replies.download attempt))
      (fun _ => Quiet stores) (fun _ => Quiet stores) (fun _ => Quiet stores) := by
    apply RetryRule.of_ends
    · intro attempt before known
      apply callService_ends
      · intro inputBytes found
        rw [known.stores] at found
        exact ⟨found, known.snoc rfl⟩
      · intro raised failed
        rw [known.stores] at failed
        exact ⟨failed, known.snoc rfl⟩
    · intro _ event after known
      exact known.snoc rfl
    · intro _ event delay after _ known
      exact (known.snoc rfl).snoc rfl
  apply (retryWithBackoff_waiting rule (by decide) (waits_default uniform) quiet).mono
  · intro inputBytes after ⟨attempt, first, atMost, found, known⟩
    exact ⟨known, attempt, first, atMost, found⟩
  · rintro error after ⟨failing, last, known, rfl⟩
    exact ⟨known.snoc rfl, failing⟩

/-- Rendering is local. All it leaves is the note that `process_image` has
returned. -/
theorem render_local {inputBytes : Bytes} {pipeline : List PipelineStep} :
    Ends (render runtime imaging inputBytes pipeline) world
      (fun data after => after = world.record .processed ∧
        renderResult runtime imaging inputBytes pipeline = .ok data)
      (fun error after => (after = world ∨ after = world.record .processed) ∧
        renderResult runtime imaging inputBytes pipeline = .error error) := by
  have local_ends {α : Type} (result : Except Exn α) (before : World) :
      Ends (lift result) before (fun value after => result = .ok value ∧ before = after)
        (fun error after => result = .error error ∧ before = after) :=
    lift_ends (fun _ same => ⟨same, rfl⟩) fun _ same => ⟨same, rfl⟩
  unfold render renderResult
  apply Ends.bind (local_ends _ world)
  · rintro error _ ⟨failed, rfl⟩
    refine ⟨.inl rfl, ?_⟩
    simp only [failed]
  · rintro image _ ⟨opened, rfl⟩
    apply Ends.bind (local_ends _ world)
    · rintro error _ ⟨failed, rfl⟩
      refine ⟨.inl rfl, ?_⟩
      simp only [opened, failed]
    · rintro resultImage _ ⟨processed, rfl⟩
      change Ends (lift (imaging.savePng resultImage)) (world.record .processed) _ _
      apply (local_ends _ (world.record .processed)).mono
      · rintro data _ ⟨saved, rfl⟩
        refine ⟨rfl, ?_⟩
        simp only [opened, processed, saved]
      · rintro error _ ⟨failed, rfl⟩
        refine ⟨.inr rfl, ?_⟩
        simp only [opened, processed, failed]

theorem render_ends {inputBytes : Bytes} {pipeline : List PipelineStep}
    (quiet : Quiet stores world) :
    Ends (render runtime imaging inputBytes pipeline) world
      (fun data after => Quiet stores after ∧ Event.processed ∈ after.trace ∧
        renderResult runtime imaging inputBytes pipeline = .ok data)
      (fun error after => Quiet stores after ∧
        renderResult runtime imaging inputBytes pipeline = .error error) := by
  have later : Quiet stores (world.record .processed) := quiet.snoc rfl
  apply render_local.mono
  · rintro data _ ⟨rfl, rendered⟩
    exact ⟨later, List.mem_append_right _ (List.mem_singleton.mpr rfl), rendered⟩
  · rintro error _ ⟨rfl | rfl, failed⟩
    · exact ⟨quiet, failed⟩
    · exact ⟨later, failed⟩

theorem Uploading.attempt {outputKey : Str} {data : Bytes} (call : ServiceCall) (reply : Reply)
    (uploading : Uploading stores outputKey world) :
    Uploading stores outputKey
      ⟨{ world.stores with objects := (Common.upload world.stores.objects outputKey data reply).1 },
        world.trace ++ [.called call reply]⟩ := by
  refine { uploading.snoc with objects := ?_ }
  intro key other
  rw [← uploading.objects key other]
  unfold Common.upload Reply.write
  dsimp only
  split
  · exact Function.update_of_ne other ..
  · rfl

theorem upload_ends {outputKey : Str} {data : Bytes}
    (uploading : Uploading stores outputKey world) :
    Ends (retryWithBackoff {} (surroundings uniform) (str "storage_upload")
        (upload replies outputKey data)) world
      (fun _ after => Uploading stores outputKey after ∧
        after.stores.objects outputKey = some data ∧
        ∃ attempt, 1 ≤ attempt ∧ attempt ≤ maxAttempts ∧ replies.upload attempt = .answered)
      (fun _ after => Uploading stores outputKey after ∧
        ∀ attempt, 1 ≤ attempt → attempt ≤ maxAttempts → replies.upload attempt ≠ .answered) := by
  have rule : RetryRule {} (surroundings uniform) (str "storage_upload")
      (upload replies outputKey data) (fun attempt => (replies.upload attempt).result)
      (fun _ => Uploading stores outputKey)
      (fun _ after => Uploading stores outputKey after ∧
        after.stores.objects outputKey = some data)
      (fun _ => Uploading stores outputKey) := by
    apply RetryRule.of_ends
    · intro attempt before known
      have kept : Uploading stores outputKey
          ⟨{ before.stores with objects := (Common.upload before.stores.objects outputKey data
              (replies.upload attempt)).1 }, _⟩ :=
        known.attempt (.upload attempt outputKey data) (replies.upload attempt)
      apply callService_ends
      · intro _ answered
        refine ⟨answered, kept, ?_⟩
        cases reply : replies.upload attempt with
        | answered =>
            exact Function.update_self ..
        | raised fault applied =>
            rw [reply] at answered
            cases answered
      · intro raised failed
        exact ⟨failed, kept⟩
    · intro _ event after known
      exact ⟨known.1.snoc, known.2⟩
    · intro _ event delay after _ known
      exact known.snoc.snoc
  apply (retryWithBackoff_waiting rule (by decide) (waits_default uniform) uploading).mono
  · intro _ after ⟨attempt, first, atMost, succeeded, known, stored⟩
    refine ⟨known, stored, attempt, first, atMost, ?_⟩
    cases reply : replies.upload attempt with
    | answered => rfl
    | raised fault applied =>
        rw [reply] at succeeded
        cases succeeded
  · rintro error after ⟨failing, last, known, rfl⟩
    refine ⟨known.snoc, ?_⟩
    intro attempt first atMost answered
    obtain ⟨raised, failed⟩ := failing attempt first atMost
    rw [answered] at failed
    cases failed

end Stages

end ImagePipeline.Worker.Pass
