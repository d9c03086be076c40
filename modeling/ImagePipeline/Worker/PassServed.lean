/-
The pass as the source writes it and the phases it is cut into are one program:
a worker that is served with the replies of a pass, one after the other, ends
with the same stores, idle after a pass that returned and stopped after one that
raised, and it has logged the same events.
-/

import ImagePipeline.Library.Machine
import ImagePipeline.Worker.LogEvents
import ImagePipeline.Worker.PassStages

namespace ImagePipeline.Worker.Pass

open Common
open Library (Machine)
open Library.Stateful (Ends resultOf stateOf)
open RunOnce (Phase serve)

/-- The reply to a call; the other events have none. -/
def Event.reply? : Event → Option Reply
  | .called _ reply => some reply
  | _ => none

/-- An idle worker over the stores, cut at its calls. -/
def phases {Image : Type} (runtime : Runtime) (imaging : Imaging Image) (queueName : QueueName)
    (stores : Stores) : Machine (Stores × Phase) Reply :=
  { initial := (stores, .idle)
    step := fun state reply => serve runtime imaging queueName state.1 state.2 reply }

/-- What is logged between two phases. -/
def observed : Stores × Phase → Reply → Stores × Phase → List JobEvent :=
  fun before _ after => (before.2.logs after.2).toList

def anyReply : (Stores × Phase) × List JobEvent → Reply → Bool := fun _ _ => true

def Event.isLogged : Event → Bool
  | .logged _ _ => true
  | _ => false

/-- An event as it stands in the trace. -/
def printed (event : JobEvent) : Event := .logged event.name event.status

/-- What is to be logged on the way from one phase to the next. -/
def owed (before after : Phase) : List Event := (before.logs after).toList.map printed

/-- The replies so far take an idle worker to this phase, over these stores; it has
logged what is in the trace, and what is still due. -/
def Served {Image : Type} (runtime : Runtime) (imaging : Imaging Image) (queueName : QueueName)
    (start : Stores) (phase : Phase) (due : List Event) (world : World) : Prop :=
  ∃ logged, ((phases runtime imaging queueName start).recording observed).run anyReply
      ((start, .idle), []) (world.trace.filterMap Event.reply?) =
        some ((world.stores, phase), logged) ∧
    logged.map printed = world.trace.filter Event.isLogged ++ due

section Stages

variable {Image : Type} {runtime : Runtime} {imaging : Imaging Image} {queueName : QueueName}
  {uniform : Jitter} {replies : Replies} {jobId : JobId} {start : Stores}
  {phase : Phase} {world : World}

theorem Served.snoc {event : Event} {due : List Event}
    (served : Served runtime imaging queueName start phase due world)
    (other : event.reply? = none) (unlogged : event.isLogged = false) :
    Served runtime imaging queueName start phase due (world.record event) := by
  obtain ⟨logged, ran, same⟩ := served
  refine ⟨logged, ?_, ?_⟩
  · unfold World.record
    dsimp only
    rw [List.filterMap_append, List.filterMap_cons_none other, List.filterMap_nil, List.append_nil]
    exact ran
  · unfold World.record
    dsimp only
    rw [List.filter_append, List.filter_cons_of_neg (by rw [unlogged]; decide), List.filter_nil,
      List.append_nil]
    exact same

theorem Served.log {event : JobEvent} {due : List Event}
    (served : Served runtime imaging queueName start phase (printed event :: due) world) :
    Served runtime imaging queueName start phase due (world.record (printed event)) := by
  obtain ⟨logged, ran, same⟩ := served
  refine ⟨logged, ?_, ?_⟩
  · unfold World.record
    dsimp only
    rw [List.filterMap_append]
    exact (List.append_nil _).symm ▸ ran
  · unfold World.record
    dsimp only
    rw [List.filter_append, List.append_assoc]
    exact same

theorem callService_served {α : Type} {call : ServiceCall} {reply : Reply}
    {effect : Stores → Stores × Except Exn α} {follow : Except Exn α → Phase}
    (served : Served runtime imaging queueName start phase [] world)
    (step : serve runtime imaging queueName world.stores phase reply =
      some ((effect world.stores).1, follow (effect world.stores).2)) :
    Ends (callService call reply effect) world
      (fun value after => (effect world.stores).2 = .ok value ∧
        Served runtime imaging queueName start (follow (.ok value))
          (owed phase (follow (.ok value))) after)
      (fun error after => (effect world.stores).2 = .error error ∧
        Served runtime imaging queueName start (follow (.error error))
          (owed phase (follow (.error error))) after) := by
  obtain ⟨logged, ran, same⟩ := served
  have next (result : Except Exn α) (ended : (effect world.stores).2 = result) :
      Served runtime imaging queueName start (follow result) (owed phase (follow result))
        ⟨(effect world.stores).1, world.trace ++ [.called call reply]⟩ := by
    rw [ended] at step
    refine ⟨logged ++ (phase.logs (follow result)).toList, ?_, ?_⟩
    · rw [List.filterMap_append]
      exact Machine.run_snoc.mpr ⟨((world.stores, phase), logged), ran, rfl,
        Machine.recording_step.mpr ⟨step, rfl⟩⟩
    · rw [List.append_nil] at same
      rw [List.map_append, same, List.filter_append]
      exact (List.append_assoc _ [] _).symm
  apply callService_ends
  · intro value answered
    exact ⟨answered, next (.ok value) answered⟩
  · intro error failed
    exact ⟨failed, next (.error error) failed⟩

theorem updateStatus_served {call : ServiceCall} {reply : Reply} {status : Status}
    (follow : Except Exn Unit → Phase)
    (served : Served runtime imaging queueName start phase [] world)
    (step : serve runtime imaging queueName world.stores phase reply =
      some ({ world.stores with jobs := (reply.write world.stores.jobs
          (world.stores.jobs.updateStatus jobId status)).1 }, follow reply.result)) :
    Ends (updateStatus call reply jobId status) world
      (fun _ after => Served runtime imaging queueName start (follow (.ok ()))
        (owed phase (follow (.ok ()))) after)
      (fun error after => Served runtime imaging queueName start (follow (.error error))
        (owed phase (follow (.error error))) after) := by
  have called : Ends (updateStatus call reply jobId status) world _ _ :=
    callService_served served step
  apply called.mono
  · intro _ after ⟨_, ended⟩
    exact ended
  · rintro error after ⟨_, ended⟩
    exact ended

/-- The phase of an attempt, and what `retry_with_backoff` makes of it. -/
def afterAttempt (again : Nat → Phase) (jobId : JobId) (attempt : Nat) : Phase :=
  match nextAttempt maxAttempts attempt with
  | some next => again next
  | none => .markFailed jobId

/-- Job events are logged by no attempt but the last. -/
structure Attempts (again : Nat → Phase) (jobId : JobId) : Prop where
  quiet : ∀ attempt next, owed (again attempt) (again next) = []
  last : ∀ attempt, owed (again attempt) (.markFailed jobId) = [printed (.failed jobId)]

theorem retryWithBackoff_served {α : Type} {operationName : Str}
    {function : Nat → EStateM Exn World α} (outcome : Nat → Except Exn α) (keeps : World → Prop)
    {again : Nat → Phase} (attempts : Attempts again jobId) {done : α → Phase}
    {due : α → List Event}
    (each : ∀ attempt world, keeps world →
      Served runtime imaging queueName start (again attempt) [] world →
      Ends (function attempt) world
        (fun value after => outcome attempt = .ok value ∧
          Served runtime imaging queueName start (done value) (due value) after)
        (fun error after => outcome attempt = .error error ∧ keeps after ∧
          Served runtime imaging queueName start (afterAttempt again jobId attempt)
            (owed (again attempt) (afterAttempt again jobId attempt)) after))
    (records : ∀ event world, keeps world → keeps (world.record event)) (known : keeps world)
    (served : Served runtime imaging queueName start (again 1) [] world) :
    Ends (retryWithBackoff {} (surroundings uniform) operationName function) world
      (fun value after => Served runtime imaging queueName start (done value) (due value) after)
      (fun _ after => Served runtime imaging queueName start (.markFailed jobId)
        [printed (.failed jobId)] after) := by
  have rule : RetryRule {} (surroundings uniform) operationName function outcome
      (fun attempt before => keeps before ∧
        Served runtime imaging queueName start (again attempt) [] before)
      (fun attempt after => ∀ value, outcome attempt = .ok value →
        Served runtime imaging queueName start (done value) (due value) after)
      (fun attempt after => keeps after ∧
        Served runtime imaging queueName start (afterAttempt again jobId attempt)
          (owed (again attempt) (afterAttempt again jobId attempt)) after) := by
    apply RetryRule.of_ends
    · intro attempt before ⟨kept, before⟩
      apply (each attempt _ kept before).mono
      · intro value after ⟨succeeded, ended⟩
        refine ⟨succeeded, ?_⟩
        intro other same
        rw [succeeded] at same
        cases same
        exact ended
      · intro error after ended
        exact ended
    · intro attempt event after ended value succeeded
      exact (ended value succeeded).snoc rfl rfl
    · intro attempt event delay after notLast ⟨kept, ended⟩
      have next : afterAttempt again jobId attempt = again (attempt + 1) := by
        unfold afterAttempt nextAttempt
        rw [if_neg notLast]
      rw [next, attempts.quiet] at ended
      exact ⟨records _ _ (records _ _ kept), (ended.snoc rfl rfl).snoc rfl rfl⟩
  apply (retryWithBackoff_waiting rule (by decide) (waits_default uniform) ⟨known, served⟩).mono
  · intro value after ⟨attempt, _, _, succeeded, ended⟩
    exact ended value succeeded
  · rintro error after ⟨_, last, ⟨_, ended⟩, rfl⟩
    have failing : afterAttempt again jobId maxAttempts = .markFailed jobId := rfl
    rw [failing, attempts.last] at ended
    exact ended.snoc rfl rfl

/-- Whatever the attempt that succeeded, what is due then is the same. -/
theorem owed_downloaded {metadata : JobMetadata} {attempt : Nat} {inputBytes : Bytes} :
    owed (.download jobId metadata attempt)
        (.afterDownload runtime imaging jobId metadata attempt (.ok inputBytes)) =
      owed (.download jobId metadata 1)
        (.afterDownload runtime imaging jobId metadata 1 (.ok inputBytes)) := by
  unfold Phase.afterDownload
  dsimp only
  cases renderResult runtime imaging inputBytes metadata.pipeline <;> rfl

theorem download_served {metadata : JobMetadata}
    (served : Served runtime imaging queueName start (.download jobId metadata 1) [] world) :
    Ends (retryWithBackoff {} (surroundings uniform) (str "storage_download")
        (download replies metadata.inputKey)) world
      (fun inputBytes after => Served runtime imaging queueName start
        (.afterDownload runtime imaging jobId metadata 1 (.ok inputBytes))
        (owed (.download jobId metadata 1)
          (.afterDownload runtime imaging jobId metadata 1 (.ok inputBytes))) after)
      (fun _ after => Served runtime imaging queueName start (.markFailed jobId)
        [printed (.failed jobId)] after) := by
  have attempts : Attempts (fun attempt => .download jobId metadata attempt) jobId :=
    ⟨fun _ _ => rfl, fun _ => rfl⟩
  apply retryWithBackoff_served
    (fun attempt =>
      Common.download world.stores.objects metadata.inputKey (replies.download attempt))
    (fun after => after.stores = world.stores) attempts
  · intro attempt before same phase
    rw [← same]
    have stays : Ends (download replies metadata.inputKey attempt) before
        (fun _ after => after.stores = before.stores)
        (fun _ after => after.stores = before.stores) :=
      callService_ends (fun _ _ => rfl) fun _ _ => rfl
    have called : Ends (download replies metadata.inputKey attempt) before _ _ :=
      callService_served phase rfl
    apply (called.and stays).mono
    · intro inputBytes after ⟨⟨found, ended⟩, _⟩
      rw [owed_downloaded] at ended
      exact ⟨found, ended⟩
    · rintro error after ⟨⟨failed, ended⟩, kept⟩
      exact ⟨failed, kept, ended⟩
  · intro event after same
    exact same
  · rfl
  · exact served

theorem upload_served {metadata : JobMetadata} {data : Bytes}
    (served : Served runtime imaging queueName start (.uploadResult jobId metadata data 1) []
      world) :
    Ends (retryWithBackoff {} (surroundings uniform) (str "storage_upload")
        (upload replies metadata.outputKey data)) world
      (fun _ after => Served runtime imaging queueName start (.markDone jobId) [] after)
      (fun _ after => Served runtime imaging queueName start (.markFailed jobId)
        [printed (.failed jobId)] after) := by
  have attempts : Attempts (fun attempt => .uploadResult jobId metadata data attempt) jobId :=
    ⟨fun _ _ => rfl, fun _ => rfl⟩
  apply retryWithBackoff_served (fun attempt => (replies.upload attempt).result) (fun _ => True)
    attempts
  · intro attempt before _ phase
    have called : Ends (upload replies metadata.outputKey data attempt) before _ _ :=
      callService_served phase rfl
    apply called.mono
    · intro _ after ⟨answered, ended⟩
      exact ⟨answered, ended⟩
    · rintro error after ⟨failed, ended⟩
      exact ⟨failed, trivial, ended⟩
  · intros
    trivial
  · trivial
  · exact served

/-- Rendering has no phase of its own: it belongs to the successful download. -/
theorem render_served {metadata : JobMetadata} {inputBytes : Bytes}
    (served : Served runtime imaging queueName start
      (.afterDownload runtime imaging jobId metadata 1 (.ok inputBytes))
      (owed (.download jobId metadata 1)
        (.afterDownload runtime imaging jobId metadata 1 (.ok inputBytes))) world) :
    Ends (render runtime imaging inputBytes metadata.pipeline) world
      (fun data after =>
        Served runtime imaging queueName start (.uploadResult jobId metadata data 1) [] after)
      (fun _ after => Served runtime imaging queueName start (.markFailed jobId)
        [printed (.failed jobId)] after) := by
  unfold Phase.afterDownload at served
  dsimp only at served
  apply render_local.mono
  · rintro data _ ⟨rfl, rendered⟩
    rw [rendered] at served
    exact served.snoc rfl rfl
  · rintro error after ⟨stayed, failed⟩
    rw [failed] at served
    rcases stayed with rfl | rfl
    · exact served
    · exact served.snoc rfl rfl

/-- The body of the `try` ends where the worker is idle or about to log that the
job has failed. -/
theorem processJob_served
    (served : Served runtime imaging queueName start (.getJob jobId) [] world) :
    Ends (processJob runtime imaging uniform replies jobId) world
      (fun _ after => Served runtime imaging queueName start .idle [] after)
      (fun _ after => Served runtime imaging queueName start (.markFailed jobId)
        [printed (.failed jobId)] after) := by
  unfold processJob
  have loads : Ends (getJob replies jobId) world _ _ := callService_served served rfl
  apply Ends.bind loads
  · exact fun error after failed => failed.2
  intro metadata after ⟨_, loaded⟩
  apply Ends.bind (updateStatus_served (.afterMarkProcessing jobId metadata) loaded rfl)
  · exact fun error after failed => failed
  intro _ after started
  apply Ends.bind (download_served started)
  · exact fun error after failed => failed
  intro inputBytes after downloaded
  apply Ends.bind (render_served downloaded)
  · exact fun error after failed => failed
  intro data after rendered
  apply Ends.bind (upload_served rendered)
  · exact fun error after failed => failed
  intro _ after uploaded
  apply Ends.bind (updateStatus_served (.afterMarkDone jobId) uploaded rfl)
  · exact fun error after failed => failed
  intro _ after finished
  have due : Served runtime imaging queueName start .idle [printed (.finished jobId)] after :=
    finished
  exact Ends.of_ok rfl due.log

theorem runOnce_ends_served (stores : Stores) :
    Ends (runOnce runtime imaging queueName uniform replies) ⟨stores, []⟩
      (fun _ after => Served runtime imaging queueName stores .idle [] after)
      (fun _ after => Served runtime imaging queueName stores .stopped [] after) := by
  have idle : Served runtime imaging queueName stores .idle [] ⟨stores, []⟩ := ⟨[], rfl, rfl⟩
  have pops : Ends (getNextJob queueName replies) ⟨stores, []⟩ _ _ := callService_served idle rfl
  apply Ends.bind pops
  · exact fun error after failed => failed.2
  intro job after ⟨_, popped⟩
  cases job with
  | none => exact Ends.of_ok rfl popped
  | some jobId =>
      have holding : Served runtime imaging queueName stores (.getJob jobId)
          [printed (.picked jobId)] after := popped
      have picked : Served runtime imaging queueName stores (.getJob jobId) []
          (after.record (.logged (str "job_picked") none)) := holding.log
      change Ends (tryCatch _ _) (after.record (.logged (str "job_picked") none)) _ _
      apply Ends.tryCatch (processJob_served picked)
      intro error failing broken
      have logged : Served runtime imaging queueName stores (.markFailed jobId) []
          (failing.record (.logged (str "job_failed") (some .failed))) := broken.log
      exact updateStatus_served .afterMarkFailed logged rfl

/-- A pass is a run of the phases over the replies it got, and logs the same events. -/
theorem runOnce_served (stores : Stores) :
    let ending := runOnce runtime imaging queueName uniform replies ⟨stores, []⟩
    ∃ logged, ((phases runtime imaging queueName stores).recording observed).run anyReply
        ((stores, .idle), []) ((stateOf ending).trace.filterMap Event.reply?) =
          some (((stateOf ending).stores, if (resultOf ending).isOk then .idle else .stopped),
            logged) ∧
      logged.map printed = (stateOf ending).trace.filter Event.isLogged := by
  intro ending
  have ends : Ends (runOnce runtime imaging queueName uniform replies) ⟨stores, []⟩ _ _ :=
    runOnce_ends_served stores
  cases result : resultOf ending with
  | ok value =>
      obtain ⟨logged, ran, same⟩ := ends.of_returned result
      rw [List.append_nil] at same
      exact ⟨logged, ran, same⟩
  | error raised =>
      obtain ⟨logged, ran, same⟩ := ends.of_raised result
      rw [List.append_nil] at same
      exact ⟨logged, ran, same⟩

end Stages

end ImagePipeline.Worker.Pass
