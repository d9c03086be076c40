/-
The books of the load test. A poll that is not answered with 200 counts as a
failed job, but not as one of its task, so that the two books part.
-/

import ImagePipeline.Loadtest.Outcomes
import ImagePipeline.Benchmark.Workload

namespace ImagePipeline.Properties.LoadAccounting

open Common Loadtest
open Library (sum_eq_iff_of_le)

section Definitions

variable (settings : Settings)

def countOf (kind : Kind) (entry : Iteration) : Nat :=
  metricCount (events settings entry) (Counter.jobs kind).name

def failedAtSubmit (entry : Iteration) : Nat :=
  if countOf settings .submitted entry = 0 then countOf settings .failed entry else 0

def failedLater (entry : Iteration) : Nat :=
  if countOf settings .submitted entry = 0 then 0 else countOf settings .failed entry

structure Accounted (iterations : List Iteration) : Prop where
  perTask : ∀ kind : Kind,
    metricCount (testEvents settings iterations) (Counter.jobs kind).name =
      (((handleSummary settings (testEvents settings iterations)).byTask kind).map Prod.snd).sum
  once : ∀ entry ∈ iterations,
    countOf settings .rejected entry + failedAtSubmit settings entry +
      countOf settings .submitted entry = 1
  conserved : settings.pollResult = true →
    metricCount (testEvents settings iterations) (Counter.jobs .submitted).name =
      metricCount (testEvents settings iterations) (Counter.jobs .completed).name +
        (iterations.map (failedLater settings)).sum

/-- The job is neither done nor failed yet. -/
def Waits (poll : Poll) : Prop :=
  poll.response.status = 200 ∧ ∃ status, poll.jobStatus = .ok status ∧
    isText status (str "DONE") = false ∧ isText status (str "FAILED") = false

/-- Every poll that is made is answered with 200 and a status to be read; the
polls after the end of the job are not made. -/
def PollsAnswered (polls : List Poll) : Prop :=
  ∀ before poll after, polls = before ++ poll :: after → (∀ earlier ∈ before, Waits earlier) →
    poll.response.status = 200 ∧ ∃ status, poll.jobStatus = .ok status

/-- If a job is submitted and polled for, its id can be read from the answer, and
the polls are answered. -/
def Answered (entry : Iteration) : Prop :=
  settings.pollResult = true → entry.submit.status = 200 →
    (∃ jobId, entry.jobId = .ok jobId) ∧ PollsAnswered entry.polls

end Definitions

/-! ### One iteration -/

variable {settings : Settings}

theorem countOf_eq (kind : Kind) (entry : Iteration) :
    countOf settings kind entry = (outcome settings.pollResult entry).jobs kind := by
  rw [countOf, metricCount_eq, added_events, count_jobs]

/-- Every ending is one of the three, whatever comes after the submission. -/
theorem once_of_outcome (entry : Iteration) :
    countOf settings .rejected entry + failedAtSubmit settings entry +
      countOf settings .submitted entry = 1 := by
  simp only [failedAtSubmit, countOf_eq]
  cases outcome settings.pollResult entry <;> rfl

theorem ends_le_submitted (entry : Iteration) :
    countOf settings .completed entry + failedLater settings entry ≤
      countOf settings .submitted entry := by
  simp only [failedLater, countOf_eq]
  cases outcome settings.pollResult entry <;> decide

theorem pollsAnswered_cons {poll : Poll} {rest : List Poll} :
    PollsAnswered (poll :: rest) ↔
      (poll.response.status = 200 ∧ ∃ status, poll.jobStatus = .ok status) ∧
      (Waits poll → PollsAnswered rest) := by
  constructor
  · intro answered
    constructor
    · exact answered [] poll rest rfl (fun _ none => absurd none List.not_mem_nil)
    · intro waits before other after split pending
      apply answered (poll :: before) other after (by rw [split, List.cons_append])
      intro earlier member
      rcases List.mem_cons.mp member with rfl | later
      · exact waits
      · exact pending earlier later
  · rintro ⟨atPoll, later⟩ before other after split pending
    cases before with
    | nil =>
        cases split
        exact atPoll
    | cons first before =>
        cases split
        exact later (pending poll List.mem_cons_self) before other after rfl
          (fun earlier member => pending earlier (List.mem_cons_of_mem _ member))

/-- The polling ends well exactly if its polls are answered. -/
theorem settled_pollOutcome_iff (polls : List Poll) :
    settled (pollOutcome polls) = true ↔ PollsAnswered polls := by
  induction polls with
  | nil => exact iff_of_true rfl (fun before poll after split => by simp at split)
  | cons poll rest ih =>
      rw [pollsAnswered_cons, pollOutcome]
      by_cases refused : poll.response.status ≠ 200
      · rw [if_pos refused]
        exact iff_of_false (by decide) (fun both => refused both.1.1)
      · rw [if_neg refused]
        rw [not_not] at refused
        cases read : poll.jobStatus with
        | error thrown =>
            refine iff_of_false (by simp [settled]) ?_
            rintro ⟨⟨_, status, impossible⟩, _⟩
            cases impossible
        | ok status =>
            dsimp only
            cases done : isText status (str "DONE") with
            | true =>
                refine iff_of_true rfl ⟨⟨refused, status, rfl⟩, ?_⟩
                rintro ⟨_, other, same, waits, _⟩
                cases read.symm.trans same
                rw [done] at waits
                cases waits
            | false =>
                cases failed : isText status (str "FAILED") with
                | true =>
                    refine iff_of_true rfl ⟨⟨refused, status, rfl⟩, ?_⟩
                    rintro ⟨_, other, same, _, waits⟩
                    cases read.symm.trans same
                    rw [failed] at waits
                    cases waits
                | false =>
                    have waits : Waits poll := ⟨refused, status, read, done, failed⟩
                    simp [ih, waits, refused]

theorem settled_iff (entry : Iteration) :
    settled (outcome settings.pollResult entry) = true ↔ Answered settings entry := by
  unfold outcome Answered
  by_cases rejected : entry.submit.status = 429
  · simp [rejected, settled]
  · by_cases failed : entry.submit.status ≠ 200
    · simp [rejected, failed, settled]
    · rw [if_neg rejected, if_neg failed]
      rw [not_not] at failed
      cases settings.pollResult with
      | false => simp [settled]
      | true =>
          cases read : entry.jobId with
          | error thrown => simp [settled, failed]
          | ok jobId => simp [failed, settled_pollOutcome_iff]

/-! ### All iterations -/

theorem added_testEvents (iterations : List Iteration) :
    added (testEvents settings iterations) =
      iterations.flatMap (fun entry => added (events settings entry)) :=
  List.filterMap_flatMap

theorem metricCount_testEvents (kind : Kind) (iterations : List Iteration) :
    metricCount (testEvents settings iterations) (Counter.jobs kind).name =
      (iterations.map (countOf settings kind)).sum := by
  rw [metricCount_eq, added_testEvents, List.count_flatMap]
  congr 1
  apply List.map_congr_left
  intro entry _
  exact (metricCount_eq _ _).symm

def taskCount (settings : Settings) (kind : Kind) (entry : Iteration) : Nat :=
  if outcome settings.pollResult entry = .pollRefused ∧ kind = .failed then 0
  else countOf settings kind entry

theorem byTask_testEvents (kind : Kind) (iterations : List Iteration) :
    (((handleSummary settings (testEvents settings iterations)).byTask kind).map Prod.snd).sum =
      (iterations.map (taskCount settings kind)).sum := by
  rw [byTask_sum, added_testEvents, List.countP_flatMap]
  congr 1
  apply List.map_congr_left
  intro entry _
  rw [Function.comp_apply, added_events, count_tasks, taskCount, countOf_eq]

theorem perTask_iff (iterations : List Iteration) :
    (∀ kind : Kind, metricCount (testEvents settings iterations) (Counter.jobs kind).name =
      (((handleSummary settings (testEvents settings iterations)).byTask kind).map
        Prod.snd).sum) ↔
    ∀ entry ∈ iterations, outcome settings.pollResult entry ≠ .pollRefused := by
  have behind (kind : Kind) (entry : Iteration) (_ : entry ∈ iterations) :
      taskCount settings kind entry ≤ countOf settings kind entry := by
    unfold taskCount
    split
    · exact Nat.zero_le _
    · exact Nat.le_refl _
  simp only [metricCount_testEvents, byTask_testEvents]
  constructor
  · intro same entry member refused
    have counts := (sum_eq_iff_of_le (behind .failed)).mp (same .failed).symm entry member
    rw [taskCount, if_pos ⟨refused, rfl⟩, countOf_eq, refused] at counts
    cases counts
  · intro unrefused kind
    refine ((sum_eq_iff_of_le (behind kind)).mpr ?_).symm
    intro entry member
    rw [taskCount, if_neg (fun both => unrefused entry member both.1)]

theorem conserved_iff (iterations : List Iteration) :
    metricCount (testEvents settings iterations) (Counter.jobs .submitted).name =
      metricCount (testEvents settings iterations) (Counter.jobs .completed).name +
        (iterations.map (failedLater settings)).sum ↔
    ∀ entry ∈ iterations, countOf settings .completed entry + failedLater settings entry =
      countOf settings .submitted entry := by
  rw [metricCount_testEvents, metricCount_testEvents, ← List.sum_map_add, eq_comm]
  exact sum_eq_iff_of_le (fun entry _ => ends_le_submitted entry)

/-- For an iteration: it is settled if it is in both books, and ends if it polls. -/
theorem settled_books (entry : Iteration) :
    settled (outcome settings.pollResult entry) = true ↔
      outcome settings.pollResult entry ≠ .pollRefused ∧
      (settings.pollResult = true →
        countOf settings .completed entry + failedLater settings entry =
          countOf settings .submitted entry) := by
  simp only [failedLater, countOf_eq]
  cases settings.pollResult with
  | false =>
      have settles := settled_unpolled entry
      have unrefused : outcome false entry ≠ .pollRefused := by
        intro refused
        rw [refused] at settles
        cases settles
      exact iff_of_true settles ⟨unrefused, fun polls => Bool.noConfusion polls⟩
  | true =>
      have polls := outcome_polls entry
      generalize outcome true entry = ending at polls ⊢
      cases ending <;> simp_all [settled, Outcome.jobs]

/-- The books of a test agree exactly if all that was submitted and polled for
was answered. -/
theorem accounted_iff (settings : Settings) (iterations : List Iteration) :
    Accounted settings iterations ↔ ∀ entry ∈ iterations, Answered settings entry := by
  constructor
  · intro accounted entry member
    rw [← settled_iff, settled_books]
    exact ⟨(perTask_iff iterations).mp accounted.perTask entry member,
      fun polls => (conserved_iff iterations).mp (accounted.conserved polls) entry member⟩
  · intro answered
    have books (entry : Iteration) (member : entry ∈ iterations) :=
      (settled_books entry).mp ((settled_iff entry).mpr (answered entry member))
    constructor
    · exact (perTask_iff iterations).mpr (fun entry member => (books entry member).1)
    · exact fun entry _ => once_of_outcome entry
    · intro polls
      exact (conserved_iff iterations).mpr (fun entry member => (books entry member).2 polls)

/-- The totals of the workload report are right nevertheless: only failures get lost. -/
theorem workload_totals (settings : Settings) (iterations : List Iteration) :
    (Benchmark.summarizeWorkload
      (handleSummary settings (testEvents settings iterations))).totalSubmitted =
        metricCount (testEvents settings iterations) (str "submitted_jobs") ∧
    (Benchmark.summarizeWorkload
      (handleSummary settings (testEvents settings iterations))).totalCompleted =
        metricCount (testEvents settings iterations) (str "completed_jobs") := by
  have kept (kind : Kind) (succeeds : kind ≠ .failed) :
      (((handleSummary settings (testEvents settings iterations)).byTask kind).map
        Prod.snd).sum =
          metricCount (testEvents settings iterations) (Counter.jobs kind).name := by
    rw [byTask_testEvents, metricCount_testEvents]
    congr 1
    apply List.map_congr_left
    intro entry _
    rw [taskCount, if_neg (fun both => succeeds both.2)]
  have submitted : (Counter.jobs .submitted).name = str "submitted_jobs" := by decide +kernel
  have completed : (Counter.jobs .completed).name = str "completed_jobs" := by decide +kernel
  rw [← submitted, ← completed]
  exact ⟨kept .submitted (by decide), kept .completed (by decide)⟩

/-! ### A poll that gets 404 -/

def smokeSettings : Settings :=
  { profile := str "light_only"
    rate := .finite 2
    duration := str "1m"
    pollResult := true
    pollTimeoutSeconds := .finite 60 }

def lostJob : Iteration :=
  { task := .lightGrayscaleSmall
    submit :=
      { status := 200
        body := []
        json := some (.obj [(str "job_id", .str (str "1"))]) }
    polls := [⟨⟨404, [], none⟩, 1000, 1000⟩] }

/-- The job counts as failed, but not for its task. -/
theorem lostJob_unbooked :
    metricCount (testEvents smokeSettings [lostJob]) (str "failed_jobs") = 1 ∧
    ((handleSummary smokeSettings (testEvents smokeSettings [lostJob])).failedByTask.map
      Prod.snd).sum = 0 ∧
    ¬ Accounted smokeSettings [lostJob] := by
  have failed : metricCount (testEvents smokeSettings [lostJob]) (str "failed_jobs") = 1 := by
    decide +kernel
  have unbooked : ((handleSummary smokeSettings
      (testEvents smokeSettings [lostJob])).failedByTask.map Prod.snd).sum = 0 := by
    decide +kernel
  refine ⟨failed, unbooked, fun accounted => ?_⟩
  have same := accounted.perTask .failed
  have named : (Counter.jobs .failed).name = str "failed_jobs" := by decide +kernel
  rw [named, failed] at same
  exact absurd (same.trans unbooked) (by decide)

end ImagePipeline.Properties.LoadAccounting
