/-
The shared data classes. A job id is the text of a UUID; all that is used of
its form is that it contains no slash. `status` ranges over the CHECK
constraint of the jobs table.
-/

import ImagePipeline.Common.Json

namespace ImagePipeline.Common

structure JobId where
  text : Str
  noSlash : slash ∉ text
  deriving DecidableEq

inductive Status where
  | pending
  | processing
  | done
  | failed
  deriving DecidableEq

def Status.text : Status → Str
  | .pending => str "PENDING"
  | .processing => str "PROCESSING"
  | .done => str "DONE"
  | .failed => str "FAILED"

def Status.terminal : Status → Bool
  | .done | .failed => true
  | .pending | .processing => false

structure PipelineStep where
  operation : Str
  parameters : Dict

abbrev Timestamp := Nat

/-- The dataclass field is annotated `datetime | None` but holds whatever the
repository puts there. -/
inductive CreatedAt where
  | datetime (value : Timestamp)
  | list (items : List Int)
  deriving DecidableEq

structure JobMetadata where
  jobId : JobId
  pipeline : List PipelineStep
  inputKey : Str
  outputKey : Str
  status : Status
  createdAt : CreatedAt

/-- `originals/{job_id}/{filename}`. A missing filename prints as `None`. -/
def originalKey (jobId : JobId) (filename : Option Str) : Str :=
  str "originals/" ++ (jobId.text ++ slash :: filename.getD (str "None"))

/-- `results/{job_id}/result.png`. -/
def resultKey (jobId : JobId) : Str :=
  str "results/" ++ (jobId.text ++ str "/result.png")

/-- Two texts without a separator that precede one in equal texts are equal. -/
theorem prefix_eq_of_separator {α : Type} {separator : α} {left right restLeft restRight : List α}
    (absentLeft : separator ∉ left) (absentRight : separator ∉ right)
    (same : left ++ separator :: restLeft = right ++ separator :: restRight) : left = right := by
  induction left generalizing right with
  | nil =>
      cases right with
      | nil => rfl
      | cons head tail =>
          rw [List.nil_append, List.cons_append, List.cons.injEq] at same
          exact absurd (same.1 ▸ List.mem_cons_self) absentRight
  | cons head tail ih =>
      cases right with
      | nil =>
          rw [List.nil_append, List.cons_append, List.cons.injEq] at same
          exact absurd (same.1 ▸ List.mem_cons_self) absentLeft
      | cons other rest =>
          rw [List.cons_append, List.cons_append, List.cons.injEq] at same
          obtain ⟨rfl, sameRest⟩ := same
          rw [List.mem_cons, not_or] at absentLeft absentRight
          rw [ih absentLeft.2 absentRight.2 sameRest]

theorem JobId.ext_text {left right : JobId} (same : left.text = right.text) : left = right := by
  cases left
  cases right
  simpa only [JobId.mk.injEq] using same

/-- The client chooses the filename, but never another job's key. -/
theorem originalKey_jobId {left right : JobId} {nameLeft nameRight : Option Str}
    (same : originalKey left nameLeft = originalKey right nameRight) : left = right :=
  JobId.ext_text
    (prefix_eq_of_separator left.noSlash right.noSlash (List.append_cancel_left same))

theorem resultKey_injective {left right : JobId} (same : resultKey left = resultKey right) :
    left = right :=
  JobId.ext_text (List.append_cancel_right (List.append_cancel_left same))

theorem originalKey_ne_resultKey (original result : JobId) (filename : Option Str) :
    originalKey original filename ≠ resultKey result := by
  intro same
  have heads := congrArg List.head? same
  revert heads
  change ¬ (some (codePoint 'o') = some (codePoint 'r'))
  decide

/-! ### Two ids -/

def firstJob : JobId := ⟨str "7f3f4c1e-55c5-4f7e-9d8e-0d1b7c3a9e10", by decide⟩

def secondJob : JobId := ⟨str "c0a8d1a2-1f43-4d55-8a57-5b2f0e6b7d21", by decide⟩

end ImagePipeline.Common
