/-
How an iteration of the load script can end, and what each ending adds to the
counters. This is all that the accounting of a test depends on.
-/

import ImagePipeline.Loadtest.Jobs
import ImagePipeline.Library.Groups
import Mathlib.Data.List.Count

namespace ImagePipeline.Loadtest

open Common
open Library (Traced sum_count_tags)

inductive Outcome where
  | rejected
  | submitFailed
  /-- Submitted, but the answer was not read. -/
  | unread
  | unpolled
  | completed
  | jobFailed
  | timedOut
  /-- A poll was not answered with 200. -/
  | pollRefused
  /-- A poll was answered, but the answer was not read. -/
  | pollUnread
  deriving DecidableEq

/-- The `status` in the answer to a poll. -/
def Poll.jobStatus (poll : Poll) : Except Thrown (Option Json) :=
  match poll.response.parse with
  | .error thrown => .error thrown
  | .ok body => property body (str "status")

/-- How the polling ends. -/
def pollOutcome : List Poll → Outcome
  | [] => .timedOut
  | poll :: rest =>
      if poll.response.status ≠ 200 then .pollRefused
      else
        match poll.jobStatus with
        | .error _ => .pollUnread
        | .ok status =>
            if isText status (str "DONE") then .completed
            else if isText status (str "FAILED") then .jobFailed
            else pollOutcome rest

/-- The `job_id` in the answer to the submission. -/
def Iteration.jobId (iteration : Iteration) : Except Thrown (Option Json) :=
  match iteration.submit.parse with
  | .error thrown => .error thrown
  | .ok body => property body (str "job_id")

def outcome (pollResult : Bool) (iteration : Iteration) : Outcome :=
  if iteration.submit.status = 429 then .rejected
  else if iteration.submit.status ≠ 200 then .submitFailed
  else if pollResult then
    match iteration.jobId with
    | .error _ => .unread
    | .ok _ => pollOutcome iteration.polls
  else .unpolled

/-- One of the task counters that `handleSummary` sums up for the kind. -/
def Counter.isTask (kind : Kind) : Counter → Bool
  | .jobs _ => false
  | .task _ other => other = kind

def both (task : Task) (kind : Kind) : List Counter := [.jobs kind, .task task kind]

/-- What an iteration adds after its submission. -/
def Outcome.later (task : Task) : Outcome → List Counter
  | .completed => both task .completed
  | .jobFailed | .timedOut => both task .failed
  | .pollRefused => [.jobs .failed]
  | .rejected | .submitFailed | .unread | .unpolled | .pollUnread => []

/-- What an iteration adds at its submission. -/
def Outcome.atSubmit (task : Task) : Outcome → List Counter
  | .rejected => both task .rejected
  | .submitFailed => both task .failed
  | .unread | .unpolled | .completed | .jobFailed | .timedOut | .pollRefused | .pollUnread =>
      both task .submitted

/-- All that an iteration with the ending adds. -/
def adds (outcome : Outcome) (task : Task) : List Counter :=
  outcome.atSubmit task ++ outcome.later task

/-- How often an iteration with the ending adds to the counter of all jobs. -/
def Outcome.jobs : Outcome → Kind → Nat
  | .rejected, .rejected | .submitFailed, .failed => 1
  | .unread, .submitted | .unpolled, .submitted | .pollUnread, .submitted => 1
  | .completed, .submitted | .completed, .completed => 1
  | .jobFailed, .submitted | .jobFailed, .failed => 1
  | .timedOut, .submitted | .timedOut, .failed => 1
  | .pollRefused, .submitted | .pollRefused, .failed => 1
  | _, _ => 0

theorem count_jobs (outcome : Outcome) (task : Task) (kind : Kind) :
    (adds outcome task).count (.jobs kind) = outcome.jobs kind := by
  cases outcome <;> cases kind <;> rfl

/-- All of them are in the books of the task as well, but for a poll that is
not answered with 200. -/
theorem count_tasks (outcome : Outcome) (task : Task) (kind : Kind) :
    (adds outcome task).countP (Counter.isTask kind) =
      if outcome = .pollRefused ∧ kind = .failed then 0 else outcome.jobs kind := by
  cases outcome <;> cases kind <;> rfl

@[simp] theorem added_nil : added [] = [] := rfl

@[simp] theorem added_append (first second : List Event) :
    added (first ++ second) = added first ++ added second :=
  List.filterMap_append

@[simp] theorem added_add (counter : Counter) (rest : List Event) :
    added (.add counter :: rest) = counter :: added rest := rfl

@[simp] theorem added_sample (trend : Str) (value : Int) (rest : List Event) :
    added (.sample trend value :: rest) = added rest := rfl

@[simp] theorem added_log (event : Str) (entries : Dict) (rest : List Event) :
    added (.log event entries :: rest) = added rest := rfl

theorem property_of_read {body : Json} {status : Option Json}
    (read : property body (str "status") = .ok status) (key : Str) :
    ∃ value, property body key = .ok value := by
  cases body with
  | null => cases read
  | obj fields => exact ⟨_, rfl⟩
  | bool | int | float | str | arr => exact ⟨none, rfl⟩

theorem added_pollUntilDone (settings : Settings) (jobId : Option Json) (task : Task)
    (polls : List Poll) (made : Nat) (trace : List Event) :
    added (pollUntilDone settings jobId task made polls trace).2 =
      added trace ++ (pollOutcome polls).later task := by
  induction polls generalizing made trace with
  | nil => simp [pollUntilDone, logK6Error, add, sample, pollOutcome, Outcome.later, both]
  | cons poll rest ih =>
      rw [pollUntilDone, pollOutcome]
      by_cases refused : poll.response.status ≠ 200
      · rw [if_pos refused, if_pos refused]
        simp [logK6Error, add, sample, Outcome.later]
      · rw [if_neg refused, if_neg refused, Poll.jobStatus]
        cases parsed : poll.response.parse with
        | error thrown => simp [Outcome.later]
        | ok body =>
            rw [Traced.ofExcept_ok_bind]
            cases read : property body (str "status") with
            | error thrown => simp [Outcome.later, read]
            | ok status =>
                simp only [Traced.ofExcept_ok_bind, read]
                by_cases done : isText status (str "DONE") = true
                · rw [if_pos done, if_pos done]
                  simp [add, sample, Outcome.later, both]
                · rw [if_neg done, if_neg done]
                  by_cases failed : isText status (str "FAILED") = true
                  · obtain ⟨error, atError⟩ := property_of_read read (str "error")
                    obtain ⟨message, atMessage⟩ := property_of_read read (str "message")
                    rw [if_pos failed, if_pos failed, atError, atMessage]
                    simp [logK6Error, add, sample, Outcome.later, both]
                  · rw [if_neg failed, if_neg failed]
                    exact ih (made + 1) trace

/-- The endings after a poll or the wait for one. -/
def polled : Outcome → Bool
  | .completed | .jobFailed | .timedOut | .pollRefused | .pollUnread => true
  | .rejected | .submitFailed | .unread | .unpolled => false

theorem pollOutcome_polled (polls : List Poll) : polled (pollOutcome polls) = true := by
  induction polls with
  | nil => rfl
  | cons poll rest ih =>
      unfold pollOutcome
      repeat' split
      all_goals first | rfl | exact ih

theorem polled_atSubmit {outcome : Outcome} (polls : polled outcome = true) (task : Task) :
    outcome.atSubmit task = both task .submitted := by
  cases outcome <;> first | rfl | cases polls

/-- All that an iteration adds follows from how it ends. -/
theorem added_events (settings : Settings) (entry : Iteration) :
    added (events settings entry) = adds (outcome settings.pollResult entry) entry.task := by
  unfold events iteration outcome adds
  by_cases rejected : entry.submit.status = 429
  · simp [rejected, logK6Error, add, Outcome.atSubmit, Outcome.later, both]
  by_cases failed : entry.submit.status ≠ 200
  · simp [rejected, failed, logK6Error, add, Outcome.atSubmit, Outcome.later, both]
  · rw [if_neg failed, if_neg rejected, if_neg failed, Iteration.jobId]
    cases parsed : entry.submit.parse with
    | error thrown =>
        cases settings.pollResult <;>
          simp [-bind_pure_comp, add, Outcome.atSubmit, Outcome.later, both]
    | ok body =>
        cases settings.pollResult with
        | false => simp [-bind_pure_comp, add, Outcome.atSubmit, Outcome.later, both]
        | true =>
            cases read : property body (str "job_id") with
            | error thrown => simp [add, Outcome.atSubmit, Outcome.later, both, read]
            | ok jobId =>
                simp [add, read, added_pollUntilDone, polled_atSubmit (pollOutcome_polled _), both]

/-- The endings in which everything that was asked was answered. -/
def settled : Outcome → Bool
  | .rejected | .submitFailed | .unpolled | .completed | .jobFailed | .timedOut => true
  | .unread | .pollRefused | .pollUnread => false

theorem settled_unpolled (entry : Iteration) : settled (outcome false entry) = true := by
  unfold outcome
  repeat' split
  all_goals first | rfl | contradiction

theorem outcome_polls (entry : Iteration) : outcome true entry ≠ .unpolled := by
  unfold outcome
  repeat' split
  any_goals
    intro impossible
    cases impossible
  · intro unpolled
    have polls := pollOutcome_polled entry.polls
    rw [unpolled] at polls
    cases polls
  · contradiction

/-! ### Counting by names -/

def allCounters : List Counter :=
  [Kind.submitted, .completed, .failed, .rejected].flatMap (fun kind =>
    .jobs kind :: taskNames.map (fun task => .task task kind))

theorem mem_taskNames (task : Task) : task ∈ taskNames := by
  cases task <;> decide

theorem mem_allCounters (counter : Counter) : counter ∈ allCounters := by
  have kinds (kind : Kind) : kind ∈ [Kind.submitted, .completed, .failed, .rejected] := by
    cases kind <;> decide
  cases counter with
  | jobs kind => exact List.mem_flatMap.mpr ⟨kind, kinds kind, List.mem_cons_self⟩
  | task task kind =>
      exact List.mem_flatMap.mpr ⟨kind, kinds kind, List.mem_cons_of_mem _
        (List.mem_map_of_mem (mem_taskNames task))⟩

/-- k6 does not take two counters for one. -/
theorem name_injective : Function.Injective Counter.name := by
  have distinct : (allCounters.map Counter.name).Nodup := by decide +kernel
  intro first second same
  exact List.inj_on_of_nodup_map distinct (mem_allCounters first) (mem_allCounters second) same

theorem metricCount_eq (events : List Event) (counter : Counter) :
    metricCount events counter.name = (added events).count counter :=
  List.count_map_of_injective _ _ name_injective counter

theorem byTask_sum (settings : Settings) (events : List Event) (kind : Kind) :
    (((handleSummary settings events).byTask kind).map Prod.snd).sum =
      (added events).countP (Counter.isTask kind) := by
  have counts : ((handleSummary settings events).byTask kind).map Prod.snd =
      taskNames.map (fun task => (added events).count (.task task kind)) := by
    have columns : (handleSummary settings events).byTask kind = countByTask events kind := by
      cases kind <;> rfl
    rw [columns, countByTask, List.map_map]
    exact List.map_congr_left (fun task _ => metricCount_eq events (.task task kind))
  have distinct : (taskNames.map (fun task => Counter.task task kind)).Nodup := by
    cases kind <;> decide
  rw [counts, sum_count_tags distinct]
  apply List.countP_congr
  intro counter _
  cases counter with
  | jobs other => simp [Counter.isTask]
  | task task other => simp [Counter.isTask, mem_taskNames, eq_comm]

end ImagePipeline.Loadtest
