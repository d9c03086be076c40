/-
What the workers log, all of them together. Whatever the interleaving, the
events about a job tell one story by one worker, and a job is logged to be
finished exactly if its row ends as DONE.
-/

import ImagePipeline.Library.Machine
import ImagePipeline.Properties.Finality
import ImagePipeline.Worker.LogEvents

namespace ImagePipeline.Properties.JobLogs

open Common
open Cluster
open Library (Machine FifoLog)
open Properties.Finality (Ambiguous Free statusWritesFaithful settling_of_reachable)
open Worker (JobEvent)
open Worker.RunOnce (Phase Logged)

section Definitions

variable {R P W Image : Type} {site : Deployment R P W Image}

/-- What a step has a worker log, whether or not the line is printed before the
process dies. -/
def lines (before : State site) (event : Event R W) (after : State site) :
    List (W × JobEvent) :=
  match event with
  | .worker worker _ =>
      ((before.workers worker).logs (after.workers worker)).toList.map (fun line => (worker, line))
  | _ => []

/-- The system with the log of its workers. -/
def logging [DecidableEq R] [DecidableEq P] [DecidableEq W] (site : Deployment R P W Image) :
    Machine (State site × List (W × JobEvent)) (Event R W) :=
  (machine site).recording lines

/-- The log, cut down to one job. -/
def about (jobId : JobId) (log : List (W × JobEvent)) : List (W × JobEvent) :=
  log.filter (fun line => line.2.jobId = jobId)

/-- What the worker that holds a job has logged about it. -/
def heldLog (worker : W) (jobId : JobId) (failing : Bool) : List (W × JobEvent) :=
  (worker, .picked jobId) :: if failing then [(worker, .failed jobId)] else []

/-- All that can be logged about a job. -/
inductive Story (jobId : JobId) : List (W × JobEvent) → Prop where
  | untouched : Story jobId []
  | picked (worker : W) : Story jobId [(worker, .picked jobId)]
  | finished (worker : W) : Story jobId [(worker, .picked jobId), (worker, .finished jobId)]
  | failed (worker : W) : Story jobId [(worker, .picked jobId), (worker, .failed jobId)]

structure Told (state : State site) (log : List (W × JobEvent)) : Prop where
  unpopped : ∀ jobId, (∀ name, jobId ∉ (state.queue name).popped) → about jobId log = []
  held : ∀ worker jobId, state.holds worker jobId →
    about jobId log = heldLog worker jobId (state.workers worker).failing
  story : ∀ jobId, Story jobId (about jobId log)

end Definitions

section Stories

variable {W : Type} {jobId : JobId} {log : List (W × JobEvent)} {worker : W} {event : JobEvent}

theorem about_append_self (own : event.jobId = jobId) :
    about jobId (log ++ [(worker, event)]) = about jobId log ++ [(worker, event)] := by
  unfold about
  rw [List.filter_append, List.filter_cons_of_pos (by simpa using own), List.filter_nil]

theorem about_append_other (other : event.jobId ≠ jobId) :
    about jobId (log ++ [(worker, event)]) = about jobId log := by
  unfold about
  rw [List.filter_append, List.filter_cons_of_neg (by simpa using other), List.filter_nil,
    List.append_nil]

theorem mem_about :
    (worker, event) ∈ about jobId log ↔ (worker, event) ∈ log ∧ event.jobId = jobId := by
  unfold about
  rw [List.mem_filter, decide_eq_true_iff]

/-- The jobs that are logged to be finished. -/
def finishedJobs (log : List (W × JobEvent)) : List JobId :=
  log.filterMap (fun line =>
    match line.2 with
    | .finished jobId => some jobId
    | _ => none)

theorem mem_finishedJobs {jobId : JobId} :
    jobId ∈ finishedJobs log ↔ ∃ worker, (worker, JobEvent.finished jobId) ∈ log := by
  unfold finishedJobs
  rw [List.mem_filterMap]
  constructor
  · rintro ⟨⟨worker, event⟩, member, same⟩
    cases event with
    | finished other =>
        cases same
        exact ⟨worker, member⟩
    | picked => cases same
    | failed => cases same
  · intro ⟨worker, member⟩
    exact ⟨_, member, rfl⟩

theorem count_finishedJobs_about :
    (finishedJobs (about jobId log)).count jobId = (finishedJobs log).count jobId := by
  unfold finishedJobs about
  rw [List.count_filterMap, List.count_filterMap, List.countP_filter]
  apply List.countP_congr
  rintro ⟨worker, event⟩ _
  cases event with
  | picked => simp
  | failed => simp
  | finished other =>
      rw [Bool.and_eq_true]
      exact and_iff_left_of_imp fun same => decide_eq_true (Option.some.inj (eq_of_beq same))

theorem Story.finishedOnce (story : Story jobId log) : (finishedJobs log).count jobId ≤ 1 := by
  cases story with
  | untouched => simp [finishedJobs]
  | picked => simp [finishedJobs]
  | finished => simp [finishedJobs]
  | failed => simp [finishedJobs]

theorem Story.of_finished (story : Story jobId log) (logged : (worker, .finished jobId) ∈ log) :
    ∃ worker, log = [(worker, .picked jobId), (worker, .finished jobId)] := by
  cases story with
  | untouched => cases logged
  | picked => simp at logged
  | finished => exact ⟨_, rfl⟩
  | failed => simp at logged

theorem Story.of_prefix {first : List (W × JobEvent)} (story : Story jobId log)
    (sooner : first <+: log) : Story jobId first := by
  cases story with
  | untouched =>
      obtain rfl := List.prefix_nil.mp sooner
      exact .untouched
  | picked worker =>
      rcases List.prefix_cons_iff.mp sooner with rfl | ⟨rest, rfl, later⟩
      · exact .untouched
      · obtain rfl := List.prefix_nil.mp later
        exact .picked worker
  | finished worker =>
      rcases List.prefix_cons_iff.mp sooner with rfl | ⟨rest, rfl, later⟩
      · exact .untouched
      · rcases List.prefix_cons_iff.mp later with rfl | ⟨last, rfl, atEnd⟩
        · exact .picked worker
        · obtain rfl := List.prefix_nil.mp atEnd
          exact .finished worker
  | failed worker =>
      rcases List.prefix_cons_iff.mp sooner with rfl | ⟨rest, rfl, later⟩
      · exact .untouched
      · rcases List.prefix_cons_iff.mp later with rfl | ⟨last, rfl, atEnd⟩
        · exact .picked worker
        · obtain rfl := List.prefix_nil.mp atEnd
          exact .failed worker

theorem Story.teller (story : Story jobId log) {line other : W × JobEvent} (here : line ∈ log)
    (there : other ∈ log) : line.1 = other.1 := by
  cases story with
  | untouched => cases here
  | picked worker =>
      rw [List.mem_singleton] at here there
      rw [here, there]
  | finished worker =>
      simp only [List.mem_cons, List.not_mem_nil, or_false] at here there
      rcases here with rfl | rfl <;> rcases there with rfl | rfl <;> rfl
  | failed worker =>
      simp only [List.mem_cons, List.not_mem_nil, or_false] at here there
      rcases here with rfl | rfl <;> rcases there with rfl | rfl <;> rfl

theorem Story.first_picked (story : Story jobId (log ++ [(worker, .picked jobId)])) : log = [] := by
  generalize whole : log ++ [(worker, .picked jobId)] = all at story
  cases story with
  | untouched => cases (List.append_eq_nil_iff.mp whole).2
  | picked => exact (List.append_eq_singleton_iff.mp whole).elim And.left (fun both => by cases both.2)
  | finished other =>
      have last := congrArg List.getLast? whole
      simp at last
  | failed other =>
      have last := congrArg List.getLast? whole
      simp at last

end Stories

section Steps

variable {R P W Image : Type} {site : Deployment R P W Image} {before after : State site}
  {log : List (W × JobEvent)}

theorem Told.initial : Told (State.initial site) [] where
  unpopped _ _ := rfl
  held _ _ held := nomatch held
  story _ := .untouched

theorem unpopped_of_waiting (owned : before.Ownership) (delivered : before.Deliveries)
    {name : QueueName} {jobId : JobId} (waiting : jobId ∈ (before.queue name).items)
    (other : QueueName) : jobId ∉ (before.queue other).popped := by
  intro gone
  have pushedThere := FifoLog.mem_pushed.mpr (.inl gone)
  have pushedHere := FifoLog.mem_pushed.mpr (.inr waiting)
  obtain rfl := delivered.one_queue pushedThere pushedHere
  exact FifoLog.not_popped_of_waiting (delivered.pushedOnce owned _) waiting gone

variable [DecidableEq W]

theorem holds_afterWorker {worker colleague : W} {stores : Stores} {next : Phase} {jobId : JobId}
    (held : (before.afterWorker worker stores next).holds colleague jobId) :
    colleague = worker ∧ next.holds = some jobId ∨
      before.holds colleague jobId ∧ colleague ≠ worker ∧
        (before.afterWorker worker stores next).workers colleague = before.workers colleague := by
  unfold State.holds at held ⊢
  by_cases own : colleague = worker
  · subst own
    rw [State.afterWorker_same] at held
    exact .inl ⟨rfl, held⟩
  · have same := before.afterWorker_other worker stores next own
    rw [same] at held
    exact .inr ⟨held, own, same⟩

variable [DecidableEq R] [DecidableEq P]

theorem Told.quiet (told : Told before log) (effect : before.Effect after)
    (kept : ∀ worker jobId, after.holds worker jobId →
      before.holds worker jobId ∧
        (after.workers worker).failing = (before.workers worker).failing) : Told after log where
  unpopped jobId unpopped :=
    told.unpopped jobId fun name popped => unpopped name (effect.popped_kept popped)
  held worker jobId held := by
    obtain ⟨earlier, same⟩ := kept worker jobId held
    rw [told.held worker jobId earlier, same]
  story := told.story

/-- A worker logs a line about a job which is popped, and which no colleague holds. -/
theorem Told.line (told : Told before log) {worker : W} {stores : Stores} {next : Phase}
    (effect : before.Effect (before.afterWorker worker stores next)) {event : JobEvent}
    (popped : ∃ name, event.jobId ∈ ((before.afterWorker worker stores next).queue name).popped)
    (alone : ∀ colleague, before.holds colleague event.jobId → colleague = worker)
    (own : ∀ jobId, next.holds = some jobId → jobId = event.jobId ∧
      about event.jobId log ++ [(worker, event)] = heldLog worker event.jobId next.failing)
    (story : Story event.jobId (about event.jobId log ++ [(worker, event)])) :
    Told (before.afterWorker worker stores next) (log ++ [(worker, event)]) where
  unpopped jobId unpopped := by
    have different : event.jobId ≠ jobId := by
      rintro rfl
      obtain ⟨name, gone⟩ := popped
      exact unpopped name gone
    rw [about_append_other different]
    exact told.unpopped jobId fun name gone => unpopped name (effect.popped_kept gone)
  held colleague jobId held := by
    rcases holds_afterWorker held with ⟨rfl, holding⟩ | ⟨earlier, other, same⟩
    · obtain ⟨rfl, sofar⟩ := own jobId holding
      rw [about_append_self rfl, State.afterWorker_same]
      exact sofar
    · have different : event.jobId ≠ jobId := by
        rintro rfl
        exact other (alone colleague earlier)
      rw [about_append_other different, told.held colleague jobId earlier, same]
  story jobId := by
    by_cases same : event.jobId = jobId
    · subst same
      rw [about_append_self rfl]
      exact story
    · rw [about_append_other same]
      exact told.story jobId

theorem Told.worked (told : Told before log) (owned : before.Ownership)
    (delivered : before.Deliveries) (holders : before.Holders) {worker : W} {reply : Reply}
    {stores : Stores} {next : Phase}
    (served : Worker.RunOnce.Served site.runtime site.imaging (site.queueName worker)
      before.stores (before.workers worker) reply stores next)
    (effect : before.Effect (before.afterWorker worker stores next)) :
    Told (before.afterWorker worker stores next)
      (log ++ lines before (.worker worker reply) (before.afterWorker worker stores next)) := by
  unfold lines
  dsimp only
  rw [State.afterWorker_same]
  have logged := served.logged
  generalize (before.workers worker).logs next = line at logged
  generalize current : before.workers worker = phase at logged
  have holding {jobId : JobId} (held : phase.holds = some jobId) : before.holds worker jobId := by
    rw [State.holds, current]
    exact held
  have alone {jobId : JobId} (held : phase.holds = some jobId) (colleague : W)
      (heldThere : before.holds colleague jobId) : colleague = worker :=
    holders.alone colleague worker jobId heldThere (holding held)
  cases logged with
  | nothing kept =>
      rw [Option.toList_none, List.map_nil, List.append_nil]
      apply told.quiet effect
      intro colleague jobId held
      rcases holds_afterWorker held with ⟨rfl, holds⟩ | ⟨earlier, _, same⟩
      · obtain ⟨before, failing⟩ := kept jobId holds
        rw [State.afterWorker_same, current]
        exact ⟨holding before, failing⟩
      · rw [same]
        exact ⟨earlier, rfl⟩
  | picked popped =>
      rename_i jobId rest
      obtain ⟨items, _, gone⟩ := FifoLog.pop?_spec popped
      have waiting : jobId ∈ (before.queue (site.queueName worker)).items := by
        change jobId ∈ (before.stores.queues (site.queueName worker)).items
        rw [items]
        exact List.mem_append_right _ (List.mem_singleton.mpr rfl)
      have unpopped := unpopped_of_waiting owned delivered waiting
      have silent := told.unpopped jobId unpopped
      apply told.line effect
      · refine ⟨site.queueName worker, ?_⟩
        unfold State.queue
        rw [State.afterWorker_stores, Stores.setQueue_same, gone]
        exact List.mem_append_right _ (List.mem_singleton.mpr rfl)
      · intro colleague held
        exact absurd (holders.popped colleague jobId held) (unpopped _)
      · intro other held
        obtain rfl := Option.some.inj held
        refine ⟨rfl, ?_⟩
        change about jobId log ++ _ = _
        rw [silent]
        rfl
      · change Story jobId (about jobId log ++ _)
        rw [silent]
        exact .picked worker
  | finished =>
      rename_i jobId
      have sofar := told.held worker jobId (holding rfl)
      rw [current] at sofar
      apply told.line effect
      · exact ⟨_, effect.popped_kept (holders.popped worker jobId (holding rfl))⟩
      · exact alone rfl
      · intro other held
        cases held
      · change Story jobId (about jobId log ++ _)
        rw [sofar]
        exact .finished worker
  | failed held earlier =>
      rename_i jobId
      have sofar := told.held worker jobId (holding held)
      rw [current, earlier] at sofar
      apply told.line effect
      · exact ⟨_, effect.popped_kept (holders.popped worker jobId (holding held))⟩
      · exact alone held
      · intro other heldAfter
        obtain rfl := Option.some.inj heldAfter
        refine ⟨rfl, ?_⟩
        change about jobId log ++ _ = _
        rw [sofar]
        rfl
      · change Story jobId (about jobId log ++ _)
        rw [sofar]
        exact .failed worker

theorem Told.step (told : Told before log) (owned : before.Ownership)
    (delivered : before.Deliveries) (holders : before.Holders) {event : Event R W}
    (stepped : before.Stepped event after) : Told after (log ++ lines before event after) := by
  have effect := stepped.effect
  cases stepped with
  | started waiting free =>
      change Told _ (log ++ [])
      rw [List.append_nil]
      exact told.quiet effect fun _ _ held => ⟨held, rfl⟩
  | requested served =>
      change Told _ (log ++ [])
      rw [List.append_nil]
      exact told.quiet effect fun _ _ held => ⟨held, rfl⟩
  | worked served => exact told.worked owned delivered holders served effect
  | stopped alive =>
      rename_i worker
      change Told _ (log ++ [])
      rw [List.append_nil]
      apply told.quiet effect
      intro colleague jobId held
      have other : colleague ≠ worker := by
        rintro rfl
        rw [State.holds, State.afterStop_same] at held
        cases held
      rw [State.holds, before.afterStop_other worker other] at held
      rw [before.afterStop_other worker other]
      exact ⟨held, rfl⟩
  | restarted dead =>
      rename_i worker
      change Told _ (log ++ [])
      rw [List.append_nil]
      apply told.quiet effect
      intro colleague jobId held
      have other : colleague ≠ worker := by
        rintro rfl
        rw [State.holds, State.afterRestart_same] at held
        cases held
      rw [State.holds, before.afterRestart_other worker other] at held
      rw [before.afterRestart_other worker other]
      exact ⟨held, rfl⟩

end Steps

section Statuses

variable {R P W Image : Type} [DecidableEq R] [DecidableEq P] [DecidableEq W]
  {site : Deployment R P W Image} {before after state : State site} {log : List (W × JobEvent)}

/-- What the log says about the jobs that are DONE. -/
structure Accurate (state : State site) (log : List (W × JobEvent)) : Prop where
  finished : ∀ worker jobId, (worker, JobEvent.finished jobId) ∈ log →
    ¬ Ambiguous state jobId → state.stores.jobs.statusOf jobId = some .done
  done : ∀ jobId, state.stores.jobs.statusOf jobId = some .done →
    ∃ worker, (worker, JobEvent.finished jobId) ∈ log

omit [DecidableEq R] [DecidableEq P] [DecidableEq W] in
theorem Accurate.initial : Accurate (State.initial site) [] where
  finished _ _ logged := nomatch logged
  done _ known := nomatch known

theorem done_of_finished (owned : before.Ownership) (delivered : before.Deliveries)
    (holders : before.Holders) {event : Event R W} (stepped : before.Stepped event after)
    {worker : W} {jobId : JobId}
    (logged : (worker, JobEvent.finished jobId) ∈ lines before event after) :
    after.stores.jobs.statusOf jobId = some .done := by
  cases stepped with
  | started => cases logged
  | requested => cases logged
  | stopped => cases logged
  | restarted => cases logged
  | worked served =>
      rename_i mover reply stores next
      unfold lines at logged
      dsimp only at logged
      rw [State.afterWorker_same] at logged
      obtain ⟨line, printed, same⟩ := List.mem_map.mp logged
      obtain ⟨rfl, rfl⟩ := Prod.mk.inj same
      have made := served.logged
      rw [Option.mem_toList.mp printed] at made
      generalize current : before.workers mover = phase at made
      cases made with
      | finished =>
          have held : before.holds mover jobId := by
            rw [State.holds, current]
            rfl
          have pushed := FifoLog.mem_pushed.mpr (.inl (holders.popped mover jobId held))
          obtain ⟨row, member, rfl, _⟩ := State.row_of_pushed owned delivered pushed
          rw [State.afterWorker_stores]
          dsimp only
          rw [JobsTable.statusOf_updateStatus, if_pos rfl, JobsTable.statusOf_of_mem member]
          rfl

/-- A row becomes DONE by a call whose return has its worker log so. -/
theorem finished_of_done {event : Event R W}
    (permitted : statusWritesFaithful.permits before event = true)
    (stepped : before.Stepped event after) {jobId : JobId}
    (done : after.stores.jobs.statusOf jobId = some .done) :
    before.stores.jobs.statusOf jobId = some .done ∨
      ∃ worker, (worker, JobEvent.finished jobId) ∈ lines before event after := by
  cases stepped with
  | started => exact .inl done
  | stopped => exact .inl done
  | restarted => exact .inl done
  | requested served =>
      rw [State.afterRequest_stores] at done
      rcases request_status served jobId with same | ⟨_, _, _, pending⟩ | ⟨_, _, _, failed⟩
      · exact .inl (same.symm.trans done)
      · rw [done] at pending
        cases pending
      · rw [done] at failed
        obtain ⟨_, _, wrong⟩ := Option.map_eq_some_iff.mp failed.symm
        cases wrong
  | worked served =>
      rename_i worker reply stores next
      rw [State.afterWorker_stores] at done
      rcases worker_status served jobId with same | ⟨_, marking, took, status, write, changed⟩
      · exact .inl (same.symm.trans done)
      · rw [done] at changed
        obtain ⟨_, _, rfl⟩ := Option.map_eq_some_iff.mp changed.symm
        have faithful : reply.faithful = true := by
          change (!(before.workers worker).marking || reply.faithful) = true at permitted
          rwa [marking] at permitted
        have answered := Reply.answered_of_faithful faithful took
        refine .inr ⟨worker, ?_⟩
        cases write with
        | last _ _ marks ends =>
            unfold lines
            dsimp only
            rw [State.afterWorker_same, marks rfl, ends answered]
            exact List.mem_singleton.mpr rfl

theorem Accurate.step
    (reached : (machine site).Reachable statusWritesFaithful.permits before)
    (accurate : Accurate before log) {event : Event R W}
    (permitted : statusWritesFaithful.permits before event = true)
    (stepped : before.Stepped event after) :
    Accurate after (log ++ lines before event after) := by
  obtain ⟨owned, delivered, holders⟩ := State.reachable_invariants reached
  constructor
  · intro worker jobId logged unambiguous
    have earlier : ¬ Ambiguous before jobId :=
      fun ambiguous => unambiguous (ambiguous.step stepped.effect)
    rcases List.mem_append.mp logged with old | new
    · have known := accurate.finished worker jobId old earlier
      have free := (settling_of_reachable reached).final jobId .done known rfl earlier
      exact free.status stepped known
    · exact done_of_finished owned delivered holders stepped new
  · intro jobId done
    rcases finished_of_done permitted stepped done with old | ⟨worker, new⟩
    · obtain ⟨worker, logged⟩ := accurate.done jobId old
      exact ⟨worker, List.mem_append_left _ logged⟩
    · exact ⟨worker, List.mem_append_right _ new⟩

end Statuses

section Runs

variable {R P W Image : Type} [DecidableEq R] [DecidableEq P] [DecidableEq W]
  {site : Deployment R P W Image} {state : State site} {log : List (W × JobEvent)}

theorem told_of_logged {permits : State site → Event R W → Bool}
    (reached : (logging site).Reachable (Machine.unrecorded permits) (state, log)) :
    Told state log := by
  apply Machine.recorded_invariant Told .initial ?_ reached
  intro before event after record reachedBefore told permitted taken
  obtain ⟨owned, delivered, holders⟩ := State.reachable_invariants reachedBefore
  exact told.step owned delivered holders (State.step_cases taken)

theorem accurate_of_logged
    (reached : (logging site).Reachable (Machine.unrecorded statusWritesFaithful.permits)
      (state, log)) : Accurate state log := by
  apply Machine.recorded_invariant Accurate .initial ?_ reached
  intro before event after record reachedBefore accurate permitted taken
  exact accurate.step reachedBefore permitted (State.step_cases taken)

omit [DecidableEq R] [DecidableEq P] [DecidableEq W] in
theorem finishedJobs_nodup (told : Told state log) : (finishedJobs log).Nodup := by
  rw [List.nodup_iff_count_le_one]
  intro jobId
  rw [← count_finishedJobs_about]
  exact (told.story jobId).finishedOnce

theorem length_finishedJobs
    (reached : (logging site).Reachable (Machine.unrecorded statusWritesFaithful.permits)
      (state, log)) (unambiguous : ∀ jobId, ¬ Ambiguous state jobId) :
    (finishedJobs log).length =
      state.stores.jobs.rows.countP (fun row => row.status = .done) := by
  have accurate := accurate_of_logged reached
  have permuted : (finishedJobs log).Perm
      ((state.stores.jobs.rows.filter (fun row => row.status = .done)).map JobRow.jobId) := by
    rw [List.perm_ext_iff_of_nodup (finishedJobs_nodup (told_of_logged reached))]
    · intro jobId
      rw [mem_finishedJobs, List.mem_map]
      constructor
      · intro ⟨worker, logged⟩
        have done := accurate.finished worker jobId logged (unambiguous jobId)
        obtain ⟨row, member, same, isDone⟩ := JobsTable.statusOf_isSome done
        exact ⟨row, List.mem_filter.mpr ⟨member, decide_eq_true isDone⟩, same⟩
      · intro ⟨row, kept, same⟩
        obtain ⟨member, isDone⟩ := List.mem_filter.mp kept
        have known := JobsTable.statusOf_of_mem member
        rw [of_decide_eq_true isDone, same] at known
        exact accurate.done jobId known
    · have apart := state.stores.jobs.distinct.filter (fun row => row.status = .done)
      rw [List.nodup_iff_pairwise_ne, List.pairwise_map]
      exact apart.imp fun separate same => separate (.inl same)
  rw [permuted.length_eq, List.length_map, List.countP_eq_length_filter]

end Runs

end ImagePipeline.Properties.JobLogs
