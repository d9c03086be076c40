/-
What the workers have printed. A line is printed after the call that it is about
has returned and before the worker calls again; a worker that is stopped in
between never prints it.
-/

import ImagePipeline.Properties.JobLogs

namespace ImagePipeline.Properties.PrintedLogs

open Common
open Cluster
open Library (Machine)
open Properties.Finality (Ambiguous statusWritesFaithful)
open Properties.JobLogs
open Worker (JobEvent)

section Definitions

variable {R P W Image : Type} [DecidableEq W]

/-- The lines that are printed, those that will be unless their worker is stopped,
and those that never will. -/
structure Output (W : Type) where
  printed : List (W × JobEvent)
  pending : List (W × JobEvent)
  lost : List (W × JobEvent)

def Output.unprinted (output : Output W) : List (W × JobEvent) := output.pending ++ output.lost

def Output.print (output : Output W) (line : W × JobEvent) : Output W :=
  { printed := output.printed ++ [line]
    pending := output.pending.erase line
    lost := output.lost }

/-- A worker with a line to print prints it before it calls. -/
def Output.ready (output : Output W) : Event R W → Bool
  | .worker worker _ => output.pending.all (fun line => line.1 ≠ worker)
  | _ => true

def Output.after (output : Output W) (event : Event R W) (logged : List (W × JobEvent)) :
    Output W :=
  match event with
  | .stop worker =>
      { printed := output.printed
        pending := output.pending.filter (fun line => line.1 ≠ worker)
        lost := output.lost ++ output.pending.filter (fun line => line.1 = worker) }
  | _ => { output with pending := output.pending ++ logged }

inductive Moment (R W : Type) where
  | event (event : Event R W)
  | print (line : W × JobEvent)

variable [DecidableEq R] [DecidableEq P]

/-- The system with what its workers print. -/
def printing (site : Deployment R P W Image) : Machine (State site × Output W) (Moment R W) :=
  { initial := (State.initial site, ⟨[], [], []⟩)
    step := fun (state, output) moment =>
      match moment with
      | .event event =>
          if output.ready event then
            (state.step event).map (fun next =>
              (next, output.after event (lines state event next)))
          else none
      | .print line => if line ∈ output.pending then some (state, output.print line) else none }

/-- What may happen does not depend on what is printed. -/
def unprinting {site : Deployment R P W Image} (permits : State site → Event R W → Bool) :
    State site × Output W → Moment R W → Bool
  | (state, _), .event event => permits state event
  | _, .print _ => true

/-- How the log of a system falls into what is printed and what is not: of each
job at most the last line is not. -/
structure Splits {site : Deployment R P W Image} (state : State site) (output : Output W)
    (log : List (W × JobEvent)) : Prop where
  parts : ∀ jobId, about jobId log = about jobId output.printed ++ about jobId output.unprinted
  last : ∀ jobId, (about jobId output.unprinted).length ≤ 1
  held : ∀ worker jobId, state.holds worker jobId → about jobId output.lost = []

end Definitions

section Lines

variable {W : Type} {jobId : JobId} {log first second : List (W × JobEvent)}

theorem about_append : about jobId (first ++ second) = about jobId first ++ about jobId second :=
  List.filter_append first second

theorem about_singleton_self {worker : W} {event : JobEvent} :
    about event.jobId [(worker, event)] = [(worker, event)] :=
  List.filter_singleton.trans (by simp)

theorem about_singleton_other {worker : W} {event : JobEvent} (other : event.jobId ≠ jobId) :
    about jobId [(worker, event)] = [] :=
  List.filter_singleton.trans (by simp [other])

theorem about_eq_nil : about jobId log = [] ↔ ∀ line ∈ log, line.2.jobId ≠ jobId := by
  unfold about
  rw [List.filter_eq_nil_iff]
  exact forall₂_congr fun line _ => by rw [decide_eq_true_iff]

end Lines

section Steps

variable {R P W Image : Type} [DecidableEq R] [DecidableEq P] [DecidableEq W]
  {site : Deployment R P W Image} {before after : State site} {log : List (W × JobEvent)}
  {output : Output W} {event : Event R W}

omit [DecidableEq R] [DecidableEq P] [DecidableEq W] in
theorem lines_cases (before : State site) (event : Event R W) (after : State site) :
    lines before event after = [] ∨ ∃ worker reply line,
      event = .worker worker reply ∧ lines before event after = [(worker, line)] := by
  cases event with
  | worker worker reply =>
      unfold lines
      dsimp only
      cases (before.workers worker).logs (after.workers worker) with
      | none => exact .inl rfl
      | some line => exact .inr ⟨worker, reply, line, rfl, rfl⟩
  | start | request | stop | restart => exact .inl rfl

/-- What is logged about a job beyond that it is picked, its holder logs. -/
theorem picked_or_held (stepped : before.Stepped event after) {line : W × JobEvent}
    (logged : line ∈ lines before event after) :
    line.2 = .picked line.2.jobId ∨ before.holds line.1 line.2.jobId := by
  cases stepped with
  | started | requested | stopped | restarted => cases logged
  | worked served =>
      rename_i worker reply stores next
      unfold lines at logged
      dsimp only at logged
      rw [State.afterWorker_same] at logged
      obtain ⟨printed, found, rfl⟩ := List.mem_map.mp logged
      have made := served.logged
      rw [Option.mem_toList.mp found] at made
      unfold State.holds
      generalize before.workers worker = phase at made
      cases made with
      | picked => exact .inl rfl
      | finished => exact .inr rfl
      | failed held => exact .inr held

theorem held_or_picked (stepped : before.Stepped event after) {worker : W} {jobId : JobId}
    (held : after.holds worker jobId) :
    before.holds worker jobId ∨ (worker, .picked jobId) ∈ lines before event after := by
  cases stepped with
  | started | requested => exact .inl held
  | worked served =>
      rename_i mover reply stores next
      rcases holds_afterWorker held with ⟨rfl, holding⟩ | ⟨earlier, _, _⟩
      · have made := served.logged
        unfold lines State.holds
        dsimp only
        rw [State.afterWorker_same]
        generalize (before.workers worker).logs next = line at made
        generalize before.workers worker = phase at made
        cases made with
        | nothing kept => exact .inl (kept jobId holding).1
        | picked =>
            obtain rfl := Option.some.inj holding
            exact .inr (List.mem_singleton.mpr rfl)
        | finished => cases holding
        | failed heldBefore =>
            obtain rfl := Option.some.inj holding
            exact .inl heldBefore
      · exact .inl earlier
  | stopped =>
      rename_i stopped _
      have other : worker ≠ stopped := by
        rintro rfl
        rw [State.holds, State.afterStop_same] at held
        cases held
      rw [State.holds, before.afterStop_other stopped other] at held
      exact .inl held
  | restarted =>
      rename_i restarted _
      have other : worker ≠ restarted := by
        rintro rfl
        rw [State.holds, State.afterRestart_same] at held
        cases held
      rw [State.holds, before.afterRestart_other restarted other] at held
      exact .inl held

omit [DecidableEq R] [DecidableEq P] [DecidableEq W] in
theorem Splits.initial : Splits (State.initial site) ⟨[], [], []⟩ [] where
  parts _ := rfl
  last _ := Nat.zero_le 1
  held _ _ held := nomatch held

omit [DecidableEq R] [DecidableEq P] [DecidableEq W] in
theorem Splits.logged (splits : Splits before output log) {line : W × JobEvent}
    (unprinted : line ∈ output.unprinted) : line ∈ about line.2.jobId log := by
  rw [splits.parts]
  exact List.mem_append_right _ (mem_about.mpr ⟨unprinted, rfl⟩)

omit [DecidableEq R] [DecidableEq P] [DecidableEq W] in
/-- A pending line is the last one about its job. -/
theorem Splits.pending (splits : Splits before output log) {line : W × JobEvent}
    (pending : line ∈ output.pending) :
    about line.2.jobId output.pending = [line] ∧ about line.2.jobId output.lost = [] := by
  have here : line ∈ about line.2.jobId output.pending := mem_about.mpr ⟨pending, rfl⟩
  have short := splits.last line.2.jobId
  rw [Output.unprinted, about_append, List.length_append] at short
  have filled := List.length_pos_of_mem here
  obtain ⟨only, single⟩ := List.length_eq_one_iff.mp 
    (show (about line.2.jobId output.pending).length = 1 by omega)
  rw [single, List.mem_singleton] at here
  refine ⟨here ▸ single, List.eq_nil_of_length_eq_zero (by omega)⟩

omit [DecidableEq R] [DecidableEq P] in
theorem Splits.print (splits : Splits before output log) {line : W × JobEvent}
    (pending : line ∈ output.pending) : Splits before (output.print line) log := by
  obtain ⟨here, noneLost⟩ := splits.pending pending
  obtain ⟨first, second, _, whole, erased⟩ := List.exists_erase_eq pending
  have others {jobId : JobId} (other : line.2.jobId ≠ jobId) :
      about jobId (output.pending.erase line) = about jobId output.pending := by
    rw [erased, whole, about_append, about_append, ← List.singleton_append, about_append,
      about_singleton_other other, List.nil_append]
  have own : about line.2.jobId (output.pending.erase line) = [] := by
    rw [whole, about_append, ← List.singleton_append, about_append, about_singleton_self] at here
    have short := congrArg List.length here
    rw [List.length_append, List.length_append, List.length_singleton] at short
    rw [erased, about_append, List.append_eq_nil_iff]
    exact ⟨List.eq_nil_of_length_eq_zero (by omega), List.eq_nil_of_length_eq_zero (by omega)⟩
  constructor
  · intro jobId
    rw [splits.parts jobId]
    unfold Output.print Output.unprinted
    dsimp only
    rw [about_append, about_append, about_append]
    by_cases same : line.2.jobId = jobId
    · subst same
      rw [own, here, noneLost, about_singleton_self, List.append_nil, List.append_nil,
        List.append_nil]
    · rw [others same, about_singleton_other same, List.append_nil]
  · intro jobId
    have short := splits.last jobId
    unfold Output.print Output.unprinted
    unfold Output.unprinted at short
    dsimp only
    rw [about_append] at short ⊢
    by_cases same : line.2.jobId = jobId
    · subst same
      rw [own, noneLost]
      exact Nat.zero_le 1
    · rw [others same]
      exact short
  · exact splits.held

omit [DecidableEq R] [DecidableEq P] in
theorem Output.unprinted_stop (output : Output W) (worker : W)
    (logged : List (W × JobEvent)) :
    (output.after (.stop worker : Event R W) logged).unprinted.Perm output.unprinted := by
  unfold Output.after Output.unprinted
  dsimp only
  have partition := List.filter_append_perm (fun line => decide (line.1 = worker)) output.pending
  simp only [← decide_not] at partition
  refine (List.perm_append_comm_assoc _ _ _).trans ?_
  refine (List.perm_append_comm.append_left output.lost).trans ?_
  exact (partition.append_left output.lost).trans List.perm_append_comm

theorem perm_of_short {α : Type} {first second : List α} (permuted : first.Perm second)
    (short : second.length ≤ 1) : first = second := by
  match second, short with
  | [], _ => exact permuted.eq_nil
  | [_], _ => exact List.perm_singleton.mp permuted

theorem Splits.stop (splits : Splits before output log) (told : Told before log) {worker : W}
    (stepped : before.Stepped (.stop worker) after) :
    Splits after (output.after (.stop worker : Event R W) []) log := by
  have same (jobId : JobId) :
      about jobId (output.after (.stop worker : Event R W) []).unprinted =
        about jobId output.unprinted :=
    perm_of_short ((output.unprinted_stop (R := R) worker []).filter _) (splits.last jobId)
  have none {holder : W} {jobId : JobId} (held : before.holds holder jobId)
      (other : holder ≠ worker) :
      about jobId (output.after (.stop worker : Event R W) []).lost = [] := by
    change about jobId (output.lost ++ _) = []
    rw [about_append, splits.held holder jobId held, List.nil_append, about_eq_nil]
    rintro line lost rfl
    obtain ⟨pending, own⟩ := List.mem_filter.mp lost
    have here := splits.logged (List.mem_append_left _ pending)
    have first : (holder, JobEvent.picked line.2.jobId) ∈ about line.2.jobId log := by
      rw [told.held holder line.2.jobId held]
      exact List.mem_cons_self
    have teller := (told.story line.2.jobId).teller here first
    exact other (teller.symm.trans (of_decide_eq_true own))
  constructor
  · intro jobId
    rw [same]
    exact splits.parts jobId
  · intro jobId
    rw [same]
    exact splits.last jobId
  · intro holder jobId held
    rcases held_or_picked stepped held with earlier | new
    · refine none earlier ?_
      rintro rfl
      cases stepped with
      | stopped =>
          rw [State.holds, State.afterStop_same] at held
          cases held
    · cases new

/-- A worker logs a line when nothing about the job is left to be printed. -/
theorem Splits.nothing_unprinted (splits : Splits before output log)
    (stepped : before.Stepped event after) {worker : W} {reply : Reply}
    (isWorker : event = .worker worker reply) (ready : output.ready event = true)
    {line : JobEvent} (logged : lines before event after = [(worker, line)])
    (story : Story line.jobId (about line.jobId log ++ [(worker, line)])) :
    about line.jobId output.unprinted = [] := by
  have noPending : about line.jobId output.pending = [] := by
    rw [about_eq_nil]
    intro other pending sameJob
    have here := splits.logged (List.mem_append_left _ pending)
    rw [sameJob] at here
    have teller := story.teller (List.mem_append_left _ here)
      (List.mem_append_right _ (List.mem_singleton.mpr rfl))
    rw [isWorker] at ready
    exact of_decide_eq_true (List.all_eq_true.mp ready other pending) teller
  rw [Output.unprinted, about_append, noPending, List.nil_append]
  have isLogged : (worker, line) ∈ lines before event after := by
    rw [logged]
    exact List.mem_cons_self
  rcases picked_or_held stepped isLogged with picked | held
  · obtain ⟨jobId, rfl⟩ : ∃ jobId, line = .picked jobId := ⟨_, picked⟩
    have first : about jobId log = [] := story.first_picked
    have silent := splits.parts jobId
    rw [first, Output.unprinted, about_append] at silent
    exact (List.append_eq_nil_iff.mp (List.append_eq_nil_iff.mp silent.symm).2).2
  · exact splits.held worker line.jobId held

theorem Splits.line (splits : Splits before output log) (stepped : before.Stepped event after)
    {worker : W} {reply : Reply} (isWorker : event = .worker worker reply)
    (ready : output.ready event = true) {line : JobEvent}
    (logged : lines before event after = [(worker, line)])
    (story : Story line.jobId (about line.jobId log ++ [(worker, line)])) :
    Splits after (output.after event [(worker, line)]) (log ++ [(worker, line)]) := by
  have nothing := splits.nothing_unprinted stepped isWorker ready logged story
  rw [Output.unprinted, about_append, List.append_eq_nil_iff] at nothing
  have now : output.after event [(worker, line)] =
      { output with pending := output.pending ++ [(worker, line)] } := by
    rw [isWorker]
    rfl
  rw [now]
  constructor
  · intro jobId
    unfold Output.unprinted
    dsimp only
    rw [about_append, splits.parts jobId, Output.unprinted, about_append, about_append,
      about_append]
    by_cases same : line.jobId = jobId
    · subst same
      rw [nothing.1, nothing.2, about_singleton_self, List.append_nil, List.append_nil,
        List.nil_append, List.append_nil]
    · rw [about_singleton_other same, List.append_nil, List.append_nil]
  · intro jobId
    have short := splits.last jobId
    unfold Output.unprinted at short ⊢
    dsimp only
    rw [about_append] at short
    rw [about_append, about_append]
    by_cases same : line.jobId = jobId
    · subst same
      rw [nothing.1, nothing.2, about_singleton_self]
      exact le_rfl
    · rw [about_singleton_other same, List.append_nil]
      exact short
  · intro holder jobId held
    rcases held_or_picked stepped held with earlier | new
    · exact splits.held holder jobId earlier
    · rw [logged, List.mem_singleton] at new
      obtain ⟨rfl, rfl⟩ := Prod.mk.inj new
      exact nothing.2

theorem Splits.step (splits : Splits before output log) (told : Told before log)
    (toldAfter : Told after (log ++ lines before event after))
    (stepped : before.Stepped event after) (ready : output.ready event = true) :
    Splits after (output.after event (lines before event after))
      (log ++ lines before event after) := by
  rcases lines_cases before event after with silent | ⟨worker, reply, line, isWorker, logged⟩
  · rw [silent, List.append_nil]
    by_cases stops : ∃ worker, event = .stop worker
    · obtain ⟨worker, rfl⟩ := stops
      exact splits.stop told stepped
    · have same : output.after event [] = output := by
        unfold Output.after
        split
        · exact absurd ⟨_, rfl⟩ stops
        · rw [List.append_nil]
      rw [same]
      refine ⟨splits.parts, splits.last, fun holder jobId held => ?_⟩
      rcases held_or_picked stepped held with earlier | new
      · exact splits.held holder jobId earlier
      · rw [silent] at new
        cases new
  · have story := toldAfter.story line.jobId
    rw [logged, about_append, about_singleton_self] at story
    rw [logged]
    exact splits.line stepped isWorker ready logged story

end Steps

section Runs

variable {R P W Image : Type} [DecidableEq R] [DecidableEq P] [DecidableEq W]
  {site : Deployment R P W Image} {state : State site} {output : Output W}

/-- Behind what is printed is what is logged. -/
theorem splits_of_printed {permits : State site → Event R W → Bool}
    (reached : (printing site).Reachable (unprinting permits) (state, output)) :
    ∃ log, (logging site).Reachable (Machine.unrecorded permits) (state, log) ∧
      Splits state output log := by
  apply reached.invariant (fun current => ∃ log,
    (logging site).Reachable (Machine.unrecorded permits) (current.1, log) ∧
      Splits current.1 current.2 log)
  · exact ⟨[], .refl _, .initial⟩
  · rintro ⟨before, earlier⟩ moment ⟨after, later⟩ _ ⟨log, logged, splits⟩ permitted taken
    cases moment with
    | event event =>
        change (if earlier.ready event then _ else none) = some (after, later) at taken
        split_ifs at taken with ready
        obtain ⟨next, stepped, same⟩ := Option.map_eq_some_iff.mp taken
        obtain ⟨rfl, rfl⟩ := Prod.mk.inj same
        have more := logged.snoc permitted
          (Machine.recording_step.mpr ⟨stepped, rfl⟩ :
            (logging site).step (before, log) event =
              some (next, log ++ lines before event next))
        exact ⟨_, more, splits.step (told_of_logged logged) (told_of_logged more)
          (State.step_cases stepped) ready⟩
    | print line =>
        change (if line ∈ earlier.pending then _ else none) = some (after, later) at taken
        split_ifs at taken with pending
        obtain ⟨rfl, rfl⟩ := Prod.mk.inj (Option.some.inj taken)
        exact ⟨log, logged, splits.print pending⟩

/-- In every run in which no status update is applied that raises: what is printed
about a job is one story by one worker; of a DONE job it says that it is finished,
unless that line is still to be printed or was lost when its worker was stopped;
and unless its push was ambiguous only what is printed about a DONE job does. -/
theorem job_logs_tell_the_statuses
    (reached : (printing site).Reachable (unprinting statusWritesFaithful.permits)
      (state, output)) (jobId : JobId) :
    Story jobId (about jobId output.printed) ∧
      (state.stores.jobs.statusOf jobId = some .done → ∃ worker,
        about jobId output.printed = [(worker, .picked jobId), (worker, .finished jobId)] ∨
        about jobId output.printed = [(worker, .picked jobId)] ∧
          (worker, .finished jobId) ∈ output.pending ++ output.lost) ∧
      (¬ Ambiguous state jobId → ∀ worker, (worker, .finished jobId) ∈ about jobId output.printed →
        state.stores.jobs.statusOf jobId = some .done) := by
  obtain ⟨log, logged, splits⟩ := splits_of_printed reached
  have parts := splits.parts jobId
  have sooner : about jobId output.printed <+: about jobId log := by
    rw [parts]
    exact List.prefix_append _ _
  have story := (told_of_logged logged).story jobId
  have accurate := accurate_of_logged logged
  refine ⟨story.of_prefix sooner, fun done => ?_, fun unambiguous worker printed => ?_⟩
  · obtain ⟨worker, finished⟩ := accurate.done jobId done
    obtain ⟨worker, whole⟩ := story.of_finished (mem_about.mpr ⟨finished, rfl⟩)
    refine ⟨worker, ?_⟩
    have last := splits.last jobId
    rw [whole] at parts
    generalize about jobId output.printed = printed at parts
    cases unprinted : about jobId output.unprinted with
    | nil =>
        rw [unprinted, List.append_nil] at parts
        exact .inl parts.symm
    | cons line rest =>
        rw [unprinted] at parts last
        obtain rfl := List.eq_nil_of_length_eq_zero (Nat.le_zero.mp (Nat.le_of_succ_le_succ last))
        have same : [(worker, JobEvent.picked jobId)] ++ [(worker, JobEvent.finished jobId)] =
            printed ++ [line] := parts
        obtain ⟨rfl, only⟩ := List.append_inj' same rfl
        obtain rfl := List.singleton_inj.mp only
        have here : (worker, JobEvent.finished jobId) ∈ about jobId output.unprinted := by
          rw [unprinted]
          exact List.mem_cons_self
        exact .inr ⟨rfl, (mem_about.mp here).1⟩
  · exact accurate.finished worker jobId (mem_about.mp (sooner.subset printed)).1 unambiguous

/-- With the lines that are not printed, as many jobs are reported to be finished as
rows are DONE. -/
theorem length_finishedJobs_printed
    (reached : (printing site).Reachable (unprinting statusWritesFaithful.permits)
      (state, output)) (unambiguous : ∀ jobId, ¬ Ambiguous state jobId) :
    (finishedJobs output.printed).length + (finishedJobs output.unprinted).length =
      state.stores.jobs.rows.countP (fun row => row.status = .done) := by
  obtain ⟨log, logged, splits⟩ := splits_of_printed reached
  have count (line : W × JobEvent) (lines : List (W × JobEvent)) :
      (about line.2.jobId lines).count line = lines.count line :=
    List.count_filter (decide_eq_true rfl)
  have permuted : log.Perm (output.printed ++ output.unprinted) := by
    refine List.perm_iff_count.mpr fun line => ?_
    rw [← count, splits.parts, ← about_append, count]
  rw [← length_finishedJobs logged unambiguous]
  unfold finishedJobs
  rw [(permuted.filterMap _).length_eq, List.filterMap_append, List.length_append]

/-- The pixel is submitted and processed, and its lines are printed. -/
def pixelMoments : List (Moment Bool Unit) :=
  .event (.start false) :: List.replicate 5 (.event (.request false 0 .answered)) ++
    (.event (.worker () .answered) :: .print ((), .picked firstJob) ::
      List.replicate 5 (.event (.worker () .answered)))

def pixelPrinted : State smallSite × Output Unit :=
  (printing smallSite).finalState (unprinting statusWritesFaithful.permits)
    (pixelMoments ++ [.print ((), .finished firstJob)])

theorem pixelPrinted_reached :
    (printing smallSite).Reachable (unprinting statusWritesFaithful.permits) pixelPrinted :=
  .finalState _

/-- The worker is stopped when the job is DONE and before it says so. -/
def pixelCut : State smallSite × Output Unit :=
  (printing smallSite).finalState (unprinting statusWritesFaithful.permits)
    (pixelMoments ++ [.event (.stop ())])

theorem pixelCut_reached :
    (printing smallSite).Reachable (unprinting statusWritesFaithful.permits) pixelCut :=
  .finalState _

theorem job_logs_tell_the_statuses_pixel :
    about firstJob pixelPrinted.2.printed = [((), .picked firstJob), ((), .finished firstJob)] ∧
    about firstJob pixelCut.2.printed = [((), .picked firstJob)] ∧
    ((), .finished firstJob) ∈ pixelCut.2.pending ++ pixelCut.2.lost := by
  have done : pixelPrinted.1.stores.jobs.statusOf firstJob = some .done := by decide +kernel
  have doneCut : pixelCut.1.stores.jobs.statusOf firstJob = some .done := by decide +kernel
  have all : pixelPrinted.2.unprinted = [] := by decide +kernel
  have one : (about firstJob pixelCut.2.printed).length = 1 := by decide +kernel
  have reached := pixelPrinted_reached
  have reachedCut := pixelCut_reached
  generalize pixelPrinted = ended at reached done all
  generalize pixelCut = cut at reachedCut doneCut one
  obtain ⟨_, output⟩ := ended
  obtain ⟨_, outputCut⟩ := cut
  obtain ⟨_, printed⟩ := (job_logs_tell_the_statuses reached firstJob).2.1 done
  obtain ⟨_, printedCut⟩ := (job_logs_tell_the_statuses reachedCut firstJob).2.1 doneCut
  constructor
  · rcases printed with both | ⟨_, unprinted⟩
    · exact both
    · change _ ∈ output.unprinted at unprinted
      rw [show output.unprinted = [] from all] at unprinted
      cases unprinted
  · rcases printedCut with both | cutShort
    · change (about firstJob outputCut.printed).length = 1 at one
      rw [both] at one
      cases one
    · exact cutShort

end Runs

end ImagePipeline.Properties.PrintedLogs
