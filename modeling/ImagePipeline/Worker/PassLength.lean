/-
How many calls a pass of a worker can take, whatever raises: the attempts are
bounded, and every other stage is called once.
-/

import ImagePipeline.Worker.RunOnceCases

namespace ImagePipeline.Worker.RunOnce

open Common

namespace Phase

/-- An attempt that is made is one of those allowed. -/
def attempting : Phase → Prop
  | .download _ _ attempt | .uploadResult _ _ _ attempt => attempt ≤ maxAttempts
  | _ => True

/-- The most calls that are left of the pass. -/
def remaining : Phase → Nat
  | .idle | .stopped => 0
  | .getJob _ => 2 * maxAttempts + 4
  | .markProcessing _ _ => 2 * maxAttempts + 3
  | .download _ _ attempt => maxAttempts - attempt + maxAttempts + 3
  | .uploadResult _ _ _ attempt => maxAttempts - attempt + 3
  | .markDone _ => 2
  | .markFailed _ => 1

/-- The most calls of a pass over a job, from the one that finds it on. -/
def longest : Nat := 2 * maxAttempts + 4

theorem remaining_le (phase : Phase) : phase.remaining ≤ longest := by
  cases phase <;> simp only [remaining, longest] <;> omega

end Phase

/-- The pass goes on, with fewer calls to come. -/
structure Shorter (phase next : Phase) : Prop where
  attempting : next.attempting
  fewer : next.remaining < phase.remaining

variable {Image : Type} (runtime : Runtime) (imaging : Imaging Image) (jobId : JobId)
  (metadata : JobMetadata) (data : Bytes) {attempt : Nat}

theorem nextAttempt_cases (bounded : attempt ≤ maxAttempts) :
    nextAttempt maxAttempts attempt = none ∨
      attempt + 1 ≤ maxAttempts ∧ nextAttempt maxAttempts attempt = some (attempt + 1) := by
  unfold nextAttempt
  by_cases last : attempt = maxAttempts
  · exact .inl (if_pos last)
  · exact .inr ⟨by omega, if_neg last⟩

theorem afterGetNextJob_attempting (answer : Except Exn (Option JobId)) :
    (Phase.afterGetNextJob answer).attempting := by
  cases answer with
  | error raised => trivial
  | ok found => cases found <;> trivial

theorem afterGetJob_shorter (answer : Except Exn JobMetadata) :
    Shorter (.getJob jobId) (.afterGetJob jobId answer) := by
  cases answer with
  | error raised => exact ⟨trivial, by simp only [Phase.afterGetJob, Phase.remaining]; omega⟩
  | ok found => exact ⟨trivial, by simp only [Phase.afterGetJob, Phase.remaining]; omega⟩

theorem afterMarkProcessing_shorter (answer : Except Exn Unit) :
    Shorter (.markProcessing jobId metadata) (.afterMarkProcessing jobId metadata answer) := by
  have first : 1 ≤ maxAttempts := by decide
  cases answer with
  | error raised =>
      exact ⟨trivial, by simp only [Phase.afterMarkProcessing, Phase.remaining]; omega⟩
  | ok done => exact ⟨first, by simp only [Phase.afterMarkProcessing, Phase.remaining]; omega⟩

theorem afterDownload_shorter (bounded : attempt ≤ maxAttempts) (answer : Except Exn Bytes) :
    Shorter (.download jobId metadata attempt)
      (.afterDownload runtime imaging jobId metadata attempt answer) := by
  have first : 1 ≤ maxAttempts := by decide
  unfold Phase.afterDownload
  cases answer with
  | error raised =>
      dsimp only
      rcases nextAttempt_cases bounded with last | ⟨within, again⟩
      · rw [last]
        exact ⟨trivial, by simp only [Phase.remaining]; omega⟩
      · rw [again]
        exact ⟨within, by simp only [Phase.remaining]; omega⟩
  | ok inputBytes =>
      dsimp only
      cases renderResult runtime imaging inputBytes metadata.pipeline with
      | error raised => exact ⟨trivial, by simp only [Phase.remaining]; omega⟩
      | ok data => exact ⟨first, by simp only [Phase.remaining]; omega⟩

theorem afterUpload_shorter (bounded : attempt ≤ maxAttempts) (answer : Except Exn Unit) :
    Shorter (.uploadResult jobId metadata data attempt)
      (.afterUpload jobId metadata data attempt answer) := by
  unfold Phase.afterUpload
  cases answer with
  | error raised =>
      dsimp only
      rcases nextAttempt_cases bounded with last | ⟨within, again⟩
      · rw [last]
        exact ⟨trivial, by simp only [Phase.remaining]; omega⟩
      · rw [again]
        exact ⟨within, by simp only [Phase.remaining]; omega⟩
  | ok done => exact ⟨trivial, by simp only [Phase.remaining]; omega⟩

theorem afterMarkDone_shorter (answer : Except Exn Unit) :
    Shorter (.markDone jobId) (.afterMarkDone jobId answer) := by
  cases answer with
  | error raised => exact ⟨trivial, by simp only [Phase.afterMarkDone, Phase.remaining]; omega⟩
  | ok done => exact ⟨trivial, by simp only [Phase.afterMarkDone, Phase.remaining]; omega⟩

theorem afterMarkFailed_shorter (answer : Except Exn Unit) :
    Shorter (.markFailed jobId) (.afterMarkFailed answer) := by
  cases answer with
  | error raised => exact ⟨trivial, by simp only [Phase.afterMarkFailed, Phase.remaining]; omega⟩
  | ok done => exact ⟨trivial, by simp only [Phase.afterMarkFailed, Phase.remaining]; omega⟩

variable {runtime imaging} {queueName : QueueName} {stores after : Stores} {reply : Reply}
  {phase next : Phase}

/-- Every call of a pass shortens it, whatever it ends with. -/
theorem serve_shorter (bounded : phase.attempting)
    (served : serve runtime imaging queueName stores phase reply = some (after, next)) :
    phase = .idle ∧ next.attempting ∨ Shorter phase next := by
  cases phase with
  | idle =>
      cases served
      exact .inl ⟨rfl, afterGetNextJob_attempting _⟩
  | stopped => cases served
  | getJob jobId => cases served; exact .inr (afterGetJob_shorter ..)
  | markProcessing jobId metadata => cases served; exact .inr (afterMarkProcessing_shorter ..)
  | download jobId metadata attempt =>
      cases served; exact .inr (afterDownload_shorter _ _ _ _ bounded _)
  | uploadResult jobId metadata data attempt =>
      cases served; exact .inr (afterUpload_shorter _ _ _ bounded _)
  | markDone jobId => cases served; exact .inr (afterMarkDone_shorter ..)
  | markFailed jobId => cases served; exact .inr (afterMarkFailed_shorter ..)

end ImagePipeline.Worker.RunOnce
