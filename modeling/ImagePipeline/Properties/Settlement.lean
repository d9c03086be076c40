/-
Accepted jobs get what they asked for. While the services answer the workers and
no worker is stopped, a job in a queue is DONE with the rendering of its upload
after a bounded number of calls, or FAILED if the upload cannot be rendered,
whatever fails for the API.
-/

import ImagePipeline.Properties.Finality
import ImagePipeline.Properties.ResultIntegrity
import ImagePipeline.Properties.Starvation
import ImagePipeline.Properties.WorkerStops

namespace ImagePipeline.Properties.Settlement

open Common
open Cluster
open Api (getJobResult)
open Api.CreateJob (Routed)
open Library (Machine FifoLog)
open Worker (renderResult)
open Worker.RunOnce (Phase serve serve_shorter)
open Finality (statusWritesFaithful Ambiguous Settling settling_of_reachable
  not_pushed_of_submitting)
open ResultIntegrity (inputKey Rendering Intact intact_of_reachable describes_of_row)
open Starvation (isCallOf popsReturn workers_cases attempting_of_reachable progress distance_lt
  popped_jobs_are_let_go)
open WorkerStops (Settled Accounted)

/-- The calls of the API may raise; one that pushes an id or marks a row does so
only without effect. -/
def workersServed : Environment :=
  { request := fun phase reply =>
      match phase with
      | .push _ | .markFailed _ => reply.faithful
      | _ => true
    worker := fun _ reply => reply = .answered
    stops := false }

section Calls

variable {Image : Type} {runtime : Runtime} {imaging : Worker.Imaging Image}
  {queueName : QueueName} {stores after : Stores} {reply : Reply} {phase next : Phase}
  {jobId : JobId}

/-- While calls return, a worker gives a job up because it has no row that can be
read, or because its upload is not there or cannot be rendered. -/
theorem gives_up
    (served : serve runtime imaging queueName stores phase .answered =
      some (after, .markFailed jobId)) :
    (phase = .getJob jobId ∧ ∃ raised, stores.jobs.getJob jobId = .error raised) ∨
    ∃ metadata attempt, phase = .download jobId metadata attempt ∧
      (stores.objects metadata.inputKey = none ∨ ∃ inputBytes raised,
        stores.objects metadata.inputKey = some inputBytes ∧
        renderResult runtime imaging inputBytes metadata.pipeline = .error raised) := by
  cases phase with
  | idle =>
      simp only [serve, getNextJob, Option.some.injEq, Prod.mk.injEq] at served
      obtain ⟨_, ends⟩ := served
      split at ends <;> cases ends
  | stopped => cases served
  | getJob other =>
      simp only [serve, Reply.read, Option.some.injEq, Prod.mk.injEq] at served
      obtain ⟨_, ends⟩ := served
      cases found : stores.jobs.getJob other with
      | error raised =>
          rw [found] at ends
          cases ends
          exact .inl ⟨rfl, raised, found⟩
      | ok metadata =>
          rw [found] at ends
          cases ends
  | markProcessing other metadata => cases served
  | download other metadata attempt =>
      simp only [serve, download, Reply.read, Option.some.injEq, Prod.mk.injEq] at served
      obtain ⟨_, ends⟩ := served
      cases found : stores.objects metadata.inputKey with
      | none =>
          rw [found] at ends
          simp only [Phase.afterDownload] at ends
          split at ends <;> cases ends
          exact .inr ⟨metadata, attempt, rfl, .inl found⟩
      | some inputBytes =>
          rw [found] at ends
          simp only [Phase.afterDownload] at ends
          cases rendered : renderResult runtime imaging inputBytes metadata.pipeline with
          | ok data =>
              rw [rendered] at ends
              cases ends
          | error raised =>
              rw [rendered] at ends
              cases ends
              exact .inr ⟨metadata, attempt, rfl, .inr ⟨inputBytes, raised, found, rendered⟩⟩
  | uploadResult other metadata data attempt => cases served
  | markDone other => cases served
  | markFailed other => cases served

theorem worker_failed
    (served : Worker.RunOnce.Served runtime imaging queueName stores phase reply after next)
    (failed : after.jobs.statusOf jobId = some .failed) :
    stores.jobs.statusOf jobId = some .failed ∨ phase = .markFailed jobId := by
  have updated {written : JobId} (status : Status) (other : status ≠ .failed)
      (now : (stores.jobs.updateStatus written status).statusOf jobId = some .failed) :
      stores.jobs.statusOf jobId = some .failed := by
    rw [JobsTable.statusOf_updateStatus] at now
    split at now
    · obtain ⟨_, _, wrong⟩ := Option.map_eq_some_iff.mp now
      exact absurd wrong other
    · exact now
  cases served with
  | started => exact .inl (updated .processing nofun failed)
  | finished => exact .inl (updated .done nofun failed)
  | failed =>
      rename_i written took
      by_cases own : written = jobId
      · exact .inr (own ▸ rfl)
      · change (stores.jobs.updateStatus written .failed).statusOf jobId = some .failed at failed
        rw [JobsTable.statusOf_updateStatus, if_neg own] at failed
        exact .inl failed
  | polled => exact .inl failed
  | dropped => exact .inl failed
  | picked => exact .inl failed
  | loaded => exact .inl failed
  | unloaded => exact .inl failed
  | unstarted => exact .inl failed
  | rendered => exact .inl failed
  | downloadAgain => exact .inl failed
  | uploadAgain => exact .inl failed
  | downloadFailed => exact .inl failed
  | uploadFailed => exact .inl failed
  | uploaded => exact .inl failed
  | unfinished => exact .inl failed
  | unfailed => exact .inl failed

end Calls

section Definitions

variable {R P W Image : Type} {site : Deployment R P W Image}

/-- The upload of the request cannot be rendered. -/
def Unrenderable (site : Deployment R P W Image) (request : R) : Prop :=
  ∀ data, ¬ Rendering site request data

/-- Who gives a job up or finds it FAILED, found its upload unrenderable. -/
structure Deserved (state : State site) : Prop where
  givenUp : ∀ worker request, state.workers worker = .markFailed (site.jobId request) →
    Unrenderable site request
  failed : ∀ request, state.stores.jobs.statusOf (site.jobId request) = some .failed →
    (∃ name, site.jobId request ∈ (state.queue name).pushed) → Unrenderable site request

/-- No call of `push_job` has raised and had its effect. -/
def PushesFaithful (state : State site) : Prop :=
  ∀ call ∈ state.pushCalls, call.2.faithful = true

theorem PushesFaithful.initial : PushesFaithful (State.initial site) := by
  intro call member
  cases member

theorem PushesFaithful.unambiguous {state : State site} (faithful : PushesFaithful state)
    (jobId : JobId) : ¬ Ambiguous state jobId := by
  intro ⟨call, member, _, fault, raised, _⟩
  have taken := faithful call member
  rw [raised] at taken
  cases taken

theorem Deserved.initial : Deserved (State.initial site) where
  givenUp _ _ marking := nomatch marking
  failed _ known _ := nomatch known

theorem workersServed_faithful {state : State site} {event : Event R W}
    (permitted : workersServed.permits state event = true) :
    statusWritesFaithful.permits state event = true := by
  cases event with
  | start request => rfl
  | request request now reply =>
      change workersServed.request (state.requests request) reply = true at permitted
      change statusWritesFaithful.request (state.requests request) reply = true
      cases current : state.requests request with
      | markFailed routed =>
          rw [current] at permitted
          exact permitted
      | _ => rfl
  | worker worker reply =>
      obtain rfl : reply = .answered := of_decide_eq_true permitted
      change (!(state.workers worker).marking || true) = true
      rw [Bool.or_true]
  | stop worker => rfl
  | restart worker => rfl

theorem workersServed_popsReturn [DecidableEq W] {state : State site} {event : Event R W}
    (worker : W)
    (permitted : workersServed.permits state event = true) :
    popsReturn worker state event = true := by
  cases event with
  | worker mover reply =>
      obtain rfl : reply = .answered := of_decide_eq_true permitted
      unfold popsReturn
      dsimp only
      split
      · rw [decide_eq_true rfl, Bool.or_true]
      · rfl
  | _ => rfl

theorem unrenderable_of_gives_up {state : State site} (owned : state.Ownership)
    (delivered : state.Deliveries) (holders : state.Holders) (intact : Intact state)
    {worker : W} {stores : Stores} {request : R}
    (served : serve site.runtime site.imaging (site.queueName worker) state.stores
      (state.workers worker) .answered = some (stores, .markFailed (site.jobId request))) :
    Unrenderable site request := by
  rcases gives_up served with ⟨loading, raised, unread⟩ | ⟨metadata, attempt, loading, lost⟩
  · have held : state.holds worker (site.jobId request) := by
      rw [State.holds, loading]
      rfl
    obtain ⟨row, member, same, pipeline, _, decoded, _⟩ := State.row_of_pushed owned delivered
      (FifoLog.mem_pushed.mpr (.inl (holders.popped worker _ held)))
    obtain ⟨metadata, found, _⟩ := JobsTable.getJob_of_mem member decoded
    rw [same, unread] at found
    cases found
  · have working := intact.working worker
    rw [loading] at working
    obtain ⟨owner, describes⟩ := working
    obtain rfl : request = owner := site.fresh describes.ownJob
    have original := intact.original request (.inr describes.inserted)
    rw [← describes.originalAt] at original
    rcases lost with missing | ⟨inputBytes, raised, found, rendered⟩
    · rw [missing] at original
      cases original
    · rw [found] at original
      cases original
      obtain ⟨routed, steps⟩ := describes.steps
      intro data rendering
      obtain ⟨other, rendering⟩ := rendering
      rw [steps, routed.eq other, rendering] at rendered
      cases rendered

end Definitions

section Steps

variable {R P W Image : Type} [DecidableEq R] [DecidableEq P] [DecidableEq W]
  {site : Deployment R P W Image} {before after : State site}

theorem PushesFaithful.step {event : Event R W} (faithful : PushesFaithful before)
    (permitted : workersServed.permits before event = true)
    (stepped : before.Stepped event after) : PushesFaithful after := by
  cases stepped with
  | started => exact faithful
  | worked => exact faithful
  | stopped => exact faithful
  | restarted => exact faithful
  | requested served =>
      rename_i request now reply stores next
      cases pushing : (before.requests request).pushing with
      | false =>
          unfold PushesFaithful
          rw [before.afterRequest_pushCalls _ _ _ _ pushing]
          exact faithful
      | true =>
          unfold PushesFaithful
          rw [before.afterRequest_pushed _ _ _ _ pushing]
          intro call member
          rcases List.mem_append.mp member with earlier | last
          · exact faithful call earlier
          · rw [List.mem_singleton.mp last]
            change workersServed.request (before.requests request) reply = true at permitted
            cases current : before.requests request with
            | push routed =>
                rw [current] at permitted
                exact permitted
            | _ =>
                rw [current] at pushing
                cases pushing

theorem pushed_earlier (effect : before.Effect after) {name : QueueName} {jobId : JobId}
    (member : jobId ∈ (after.queue name).pushed) :
    jobId ∈ (before.queue name).pushed ∨
      ∃ request routed, before.requests request = .push routed ∧ site.jobId request = jobId := by
  rcases effect.pushed with ⟨_, same⟩ | ⟨request, routed, reply, pushing, _, _, queues⟩
  · exact .inl (same name ▸ member)
  · rw [queues, List.mem_append] at member
    rcases member with earlier | added
    · exact .inl earlier
    · split at added
      · exact .inr ⟨request, routed, pushing, (List.mem_singleton.mp added).symm⟩
      · cases added

theorem Deserved.step {event : Event R W} (deserved : Deserved before)
    (invariants : before.Ownership ∧ before.Deliveries ∧ before.Holders) (intact : Intact before)
    (settling : Settling before) (faithful : PushesFaithful before)
    (permitted : workersServed.permits before event = true)
    (taken : before.step event = some after) : Deserved after := by
  obtain ⟨owned, delivered, holders⟩ := invariants
  have effect := (State.step_cases taken).effect
  have unambiguous (jobId : JobId) := faithful.unambiguous jobId
  -- a FAILED job is never pushed any more
  have early {request : R} (known : before.stores.jobs.statusOf (site.jobId request) = some .failed)
      (pushed : ∃ name, site.jobId request ∈ (after.queue name).pushed) :
      Unrenderable site request := by
    obtain ⟨name, member⟩ := pushed
    rcases pushed_earlier effect member with earlier | ⟨mover, routed, pushing, own⟩
    · exact deserved.failed request known ⟨name, earlier⟩
    · have free := settling.final _ _ known rfl (unambiguous _)
      have submitting := free.unsubmitted mover own
      rw [pushing] at submitting
      cases submitting
  constructor
  · intro worker request marking
    rcases workers_cases taken worker with
      ⟨_, same | stopped | idle⟩ | ⟨reply, stores, next, rfl, served, rfl⟩
    · exact deserved.givenUp worker request (same.symm.trans marking)
    · cases stopped.symm.trans marking
    · cases idle.symm.trans marking
    · obtain rfl : reply = .answered := of_decide_eq_true permitted
      rw [State.afterWorker_same] at marking
      subst marking
      exact unrenderable_of_gives_up owned delivered holders intact served
  · intro request known pushed
    cases State.step_cases taken with
    | started => exact early known pushed
    | stopped => exact early known pushed
    | restarted => exact early known pushed
    | worked served =>
        rcases worker_failed served known with earlier | marking
        · exact early earlier pushed
        · exact deserved.givenUp _ request marking
    | requested served =>
        rename_i mover now reply stores next
        rcases request_status served (site.jobId request) with
          same | ⟨_, _, _, pending⟩ | ⟨own, ⟨routed, marks⟩, _⟩
        · exact early (same.symm.trans known) pushed
        · cases known.symm.trans pending
        · obtain rfl := site.fresh own
          obtain ⟨name, member⟩ := pushed
          rcases pushed_earlier effect member with earlier | ⟨other, _, pushing, same⟩
          · exact absurd earlier (not_pushed_of_submitting owned delivered settling.marking
              (by rw [marks]; rfl) (unambiguous _) name)
          · obtain rfl := site.fresh same
            cases marks.symm.trans pushing

theorem accounted_step {event : Event R W} (accounted : Accounted before)
    (owned : before.Ownership) (delivered : before.Deliveries)
    (permitted : workersServed.permits before event = true) (stepped : before.Stepped event after) :
    Accounted after := by
  cases stepped with
  | started => exact accounted
  | stopped => cases permitted
  | restarted dead => exact accounted.step owned delivered rfl (.restarted dead)
  | worked served =>
      obtain rfl := of_decide_eq_true permitted
      exact accounted.worked owned delivered served
  | requested served =>
      rename_i request now reply stores next
      intro name jobId popped
      change jobId ∈ (stores.queues name).popped at popped
      rw [WorkerStops.request_popped served.effect name] at popped
      rcases accounted name jobId popped with held | abandoned | settled
      · exact .inl held
      · exact .inr (.inl abandoned)
      · exact .inr (.inr (settled.requested served))

theorem abandoned_step {event : Event R W}
    (permitted : workersServed.permits before event = true) (stepped : before.Stepped event after) :
    after.abandoned = before.abandoned := by
  cases stepped with
  | stopped => cases permitted
  | _ => rfl

/-- What holds while the workers are served. -/
structure Sound (state : State site) : Prop where
  accounted : Accounted state
  unabandoned : state.abandoned = []
  faithful : PushesFaithful state
  deserved : Deserved state

theorem sound_of_reachable {state : State site}
    (reached : (machine site).Reachable workersServed.permits state) : Sound state := by
  refine reached.invariant Sound ⟨.initial, rfl, PushesFaithful.initial, .initial⟩ ?_
  intro before event after reachedBefore sound permitted taken
  have stepped := State.step_cases taken
  have invariants := State.reachable_invariants reachedBefore
  have settling := settling_of_reachable
    (reachedBefore.mono fun _ _ allowed => workersServed_faithful allowed)
  exact
    { accounted := accounted_step sound.accounted invariants.1 invariants.2.1 permitted stepped
      unabandoned := (abandoned_step permitted stepped).trans sound.unabandoned
      faithful := sound.faithful.step permitted stepped
      deserved := sound.deserved.step invariants (intact_of_reachable reachedBefore) settling
        sound.faithful permitted taken }

/-- A popped job that nobody holds has the status that its upload deserves. -/
theorem settled_as_rendered {state : State site}
    (reached : (machine site).Reachable workersServed.permits state) {name : QueueName}
    {jobId : JobId} (popped : jobId ∈ (state.queue name).popped)
    (free : ∀ worker, ¬ state.holds worker jobId) :
    ∃ request, ∃ routed : Routed site.runtime (site.request request), site.jobId request = jobId ∧
      match renderResult site.runtime site.imaging (site.request request).imageBytes
        routed.pipeline with
      | .ok data => state.stores.jobs.statusOf jobId = some .done ∧
          getJobResult state.stores.jobs state.stores.objects jobId .answered .answered = .ok data
      | .error _ => state.stores.jobs.statusOf jobId = some .failed := by
  have sound := sound_of_reachable reached
  have intact := intact_of_reachable reached
  have owned := State.reachable_ownership reached
  have pushed := FifoLog.mem_pushed.mpr (.inl popped)
  obtain ⟨row, member, rfl, _⟩ :=
    State.row_of_pushed owned (State.reachable_deliveries reached) pushed
  obtain ⟨request, routed, now, same, _⟩ := owned.rowsOwned _ (JobsTable.submission_mem member)
  have own : row.jobId = site.jobId request := congrArg JobRow.jobId same
  have known : Settled state row.jobId := by
    rcases sound.accounted name row.jobId popped with ⟨worker, held⟩ | abandoned | settled
    · exact absurd held (free worker)
    · rw [sound.unabandoned] at abandoned
      cases abandoned
    · exact settled
  obtain ⟨status, known, terminal⟩ := known
  refine ⟨request, routed, own.symm, ?_⟩
  cases rendered : renderResult site.runtime site.imaging (site.request request).imageBytes
      routed.pipeline with
  | error raised =>
      dsimp only
      cases status with
      | pending => cases terminal
      | processing => cases terminal
      | failed => exact known
      | done =>
          obtain ⟨data, stored⟩ := Option.ne_none_iff_exists'.mp (intact.done row.jobId known)
          rw [own] at stored
          obtain ⟨other, rendering⟩ := intact.rendered request data stored
          rw [other.eq routed, rendered] at rendering
          cases rendering
  | ok data =>
      dsimp only
      cases status with
      | pending => cases terminal
      | processing => cases terminal
      | failed =>
          rw [own] at known pushed
          exact absurd ⟨routed, rendered⟩ (sound.deserved.failed request known ⟨name, pushed⟩ data)
      | done =>
          refine ⟨known, ?_⟩
          have done : row.status = .done :=
            Option.some.inj ((JobsTable.statusOf_of_mem member).symm.trans known)
          obtain ⟨owner, found, _, result, sameRow, stored, rendering⟩ :=
            ResultIntegrity.result_of_row owned intact member done
          obtain rfl : owner = request :=
            site.fresh ((congrArg JobRow.jobId sameRow).symm.trans own)
          rw [found.eq routed, rendered] at rendering
          cases rendering
          have decoded : pipelineFromJson row.pipeline = .ok routed.pipeline := by
            rw [show row.pipeline = pipelineToJson routed.pipeline from
              congrArg JobRow.pipeline same]
            exact pipelineFromJson_pipelineToJson routed.pipeline
          exact Api.getJobResult_of_done member done decoded stored

/-- A job that waits is DONE with the rendering of its upload, or FAILED because
there is none, once a worker of its queue has got to it and the workers of the
queue have made the calls of one more pass. -/
theorem waiting_jobs_are_settled (worker : W) {start finish : State site} {jobId : JobId}
    {first second : List (Event R W)}
    (reached : (machine site).Reachable workersServed.permits start)
    (waiting : jobId ∈ (start.queue (site.queueName worker)).items)
    (ran : (machine site).run workersServed.permits start (first ++ second) = some finish)
    (gotTo : (Phase.longest + 1) * ((start.queue (site.queueName worker)).ahead jobId + 1) ≤
      first.countP (isCallOf worker))
    (finished : ∀ colleague, site.queueName colleague = site.queueName worker →
      Phase.longest < second.countP (isCallOf colleague)) :
    ∃ request, ∃ routed : Routed site.runtime (site.request request), site.jobId request = jobId ∧
      match renderResult site.runtime site.imaging (site.request request).imageBytes
        routed.pipeline with
      | .ok data => finish.stores.jobs.statusOf jobId = some .done ∧
          getJobResult finish.stores.jobs finish.stores.objects jobId .answered .answered = .ok data
      | .error _ => finish.stores.jobs.statusOf jobId = some .failed := by
  obtain ⟨middle, ranFirst, ranSecond⟩ := Machine.run_append.mp ran
  have reachedMiddle : (machine site).Reachable workersServed.permits middle :=
    reached.reaches ⟨first, ranFirst⟩
  have popped : jobId ∈ (middle.queue (site.queueName worker)).popped :=
    (progress worker jobId fun _ _ permitted => workersServed_popsReturn worker permitted).reaches
      ranFirst ⟨attempting_of_reachable reached, FifoLog.mem_pushed.mpr (.inr waiting)⟩
      (Nat.lt_of_lt_of_le (distance_lt start worker jobId) gotTo)
  have reachedFinish := reached.reaches ⟨first ++ second, ran⟩
  have poppedFinish : jobId ∈ (finish.queue (site.queueName worker)).popped :=
    Machine.Reaches.preserves (fun state => jobId ∈ (state.queue (site.queueName worker)).popped)
      (fun gone _ stepped => (State.step_cases stepped).effect.popped_kept gone)
      ⟨second, ranSecond⟩ popped
  refine settled_as_rendered reachedFinish poppedFinish fun colleague held => ?_
  -- whoever holds the job popped it from this queue, so it has made its calls
  have own := (State.reachable_invariants reachedFinish).2.2.popped colleague jobId held
  have sameQueue := (State.reachable_deliveries reachedFinish).one_queue
    (FifoLog.mem_pushed.mpr (.inl own)) (FifoLog.mem_pushed.mpr (.inl poppedFinish))
  rw [← sameQueue] at popped
  exact popped_jobs_are_let_go reachedMiddle popped ranSecond (finished colleague sameQueue) held

end Steps

/-- The job of one request waits, after its upload was tried in vain once. -/
def secondTry : State smallSite :=
  (machine smallSite).finalState workersServed.permits
    ([.start false, .request false 0 .answered, .request false 0 .answered,
        .request false 0 (.raised .other false)] ++
      .start true :: List.replicate 5 (.request true 0 .answered))

def calls : List (Event Bool Unit) := List.replicate 11 (.worker () .answered)

theorem waiting_jobs_are_settled_pixel :
    secondJob ∈ (secondTry.queue .jobsDefault).items ∧
    ∃ finish, (machine smallSite).run workersServed.permits secondTry (calls ++ calls) =
        some finish ∧
      ∃ request, ∃ routed : Routed smallSite.runtime (smallSite.request request),
        smallSite.jobId request = secondJob ∧
        match renderResult smallSite.runtime smallSite.imaging
          (smallSite.request request).imageBytes routed.pipeline with
        | .ok data => finish.stores.jobs.statusOf secondJob = some .done ∧
            getJobResult finish.stores.jobs finish.stores.objects secondJob .answered .answered =
              .ok data
        | .error _ => finish.stores.jobs.statusOf secondJob = some .failed := by
  have reached : (machine smallSite).Reachable workersServed.permits secondTry := .finalState _
  have waiting : secondJob ∈ (secondTry.queue .jobsDefault).items := by decide +kernel
  have ahead : (secondTry.queue (smallSite.queueName ())).ahead secondJob = 0 := by
    decide +kernel
  have runs : ((machine smallSite).run workersServed.permits secondTry (calls ++ calls)).isSome =
      true := by
    decide +kernel
  obtain ⟨finish, ran⟩ := Option.isSome_iff_exists.mp runs
  refine ⟨waiting, finish, ran, waiting_jobs_are_settled () reached waiting ran ?_ ?_⟩
  · rw [ahead]
    decide
  · intro colleague _
    cases colleague
    decide

end ImagePipeline.Properties.Settlement
