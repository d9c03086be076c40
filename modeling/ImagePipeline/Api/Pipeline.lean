/-
The pure part of the API: parsing the pipeline form field, charging a pipeline
for its operations, choosing its queue, and the hash of a request.

Costs are exact rationals in place of doubles. What is kept of the doubles is
where they raise: an integer too large for a double is an `OverflowError`.
-/

import ImagePipeline.Common.JobRepository
import ImagePipeline.Common.Stores
import Mathlib.Algebra.Order.Ring.Rat
import Mathlib.Algebra.Field.Rat

namespace ImagePipeline.Api

open Common

def operationCosts : List (Str × Nat) :=
  [(str "rotate", 1), (str "grayscale", 1), (str "thumbnail", 4), (str "emboss", 4),
    (str "contrast", 4), (str "edge_detect", 6), (str "sharpen", 7), (str "blur", 10)]

/-- `OPERATION_COSTS.get(operation, 1)`. -/
def operationCost (operation : Str) : Nat := (operationCosts.lookup operation).getD 1

theorem operationCost_range (operation : Str) :
    1 ≤ operationCost operation ∧ operationCost operation ≤ 10 := by
  have listed : ∀ entry ∈ operationCosts, 1 ≤ entry.2 ∧ entry.2 ≤ 10 := by decide
  unfold operationCost
  cases found : operationCosts.lookup operation with
  | none => decide
  | some cost =>
      obtain ⟨first, second, split, _⟩ := List.lookup_eq_some_iff.mp found
      exact listed (operation, cost) (by rw [split]; simp)

def heavyCostThreshold : Rat := 40

/-- `parameters.get("region") is not None`. -/
def hasRegion (parameters : Dict) : Bool :=
  match parameters.getD (str "region") .null with
  | .null => false
  | _ => true

/-- The implicit conversion of an `int` operand to a double. -/
def toDouble (value : Int) : Except Exn Rat :=
  if value.natAbs < 2 ^ 1024 - 2 ^ 970 then .ok value else .error .overflowError

/-- `max(1, int(parameters.get("repeat", 1)))` with its `except` clause. -/
def chargedRepeat (runtime : Runtime) (parameters : Dict) : Except Exn Int :=
  match runtime.toInt (parameters.getD (str "repeat") (.int 1)) with
  | .ok value => .ok (max 1 value)
  | .error .typeError | .error .valueError => .ok 1
  | .error raised => .error raised

/-- What one step adds to `total_cost`. -/
def stepCost (runtime : Runtime) (step : PipelineStep) : Except Exn Rat :=
  match chargedRepeat runtime step.parameters with
  | .error raised => .error raised
  | .ok times =>
      if hasRegion step.parameters then
        (toDouble times).map (fun factor => (operationCost step.operation : Rat) * (1 / 5) * factor)
      else toDouble (operationCost step.operation * times)

def addCosts (runtime : Runtime) : Rat → List PipelineStep → Except Exn Rat
  | total, [] => .ok total
  | total, step :: rest =>
      match stepCost runtime step with
      | .error raised => .error raised
      | .ok cost => addCosts runtime (total + cost) rest

/-- The `total_cost` of `is_heavy_pipeline` at the end of its loop. -/
def totalCost (runtime : Runtime) (pipeline : List PipelineStep) : Except Exn Rat :=
  addCosts runtime 0 pipeline

def isHeavyPipeline (runtime : Runtime) (pipeline : List PipelineStep) : Except Exn Bool :=
  (totalCost runtime pipeline).map (fun total => decide (heavyCostThreshold ≤ total))

theorem stepCost_error {runtime : Runtime} {step : PipelineStep} {raised : Exn}
    (failed : stepCost runtime step = .error raised) : raised = .overflowError := by
  have double (value : Int) (raised : Exn) (failed : toDouble value = .error raised) :
      raised = .overflowError := by
    unfold toDouble at failed
    split at failed <;> cases failed
    rfl
  unfold stepCost at failed
  split at failed
  · rename_i inner counted
    cases failed
    unfold chargedRepeat at counted
    split at counted <;> cases counted
    rename_i noType noValue converted
    rcases runtime.toInt_error_cases converted with same | same | ⟨same, _⟩
    · exact absurd same noType
    · exact absurd same noValue
    · exact same
  · rename_i times counted
    split at failed
    · cases converted : toDouble times with
      | error inner =>
          rw [converted] at failed
          cases failed
          exact double times _ converted
      | ok factor => rw [converted] at failed; cases failed
    · exact double _ _ failed

theorem isHeavyPipeline_error {runtime : Runtime} {pipeline : List PipelineStep} {raised : Exn}
    (failed : isHeavyPipeline runtime pipeline = .error raised) : raised = .overflowError := by
  have costs (pipeline : List PipelineStep) (total : Rat) (raised : Exn)
      (failed : addCosts runtime total pipeline = .error raised) : raised = .overflowError := by
    induction pipeline generalizing total with
    | nil => cases failed
    | cons step rest ih =>
        unfold addCosts at failed
        split at failed
        · rename_i inner charged
          cases failed
          exact stepCost_error charged
        · exact ih _ failed
  unfold isHeavyPipeline totalCost at failed
  cases charged : addCosts runtime 0 pipeline with
  | error inner =>
      rw [charged] at failed
      cases failed
      exact costs pipeline 0 _ charged
  | ok total => rw [charged] at failed; cases failed

def targetQueue (heavy : Bool) : QueueName := if heavy then .jobsHeavy else .jobsDefault

def allowedOperations : List Str :=
  [str "grayscale", str "thumbnail", str "blur", str "rotate", str "sharpen", str "contrast",
    str "emboss", str "edge_detect"]

def badRequest (detail : Str) : Exn := .httpException 400 detail

def unknownOperation (runtime : Runtime) (operation : Json) : Exn :=
  badRequest (str "Unknown operation: " ++ runtime.scalarText operation)

/-- One iteration of the loop of `parse_pipeline`. A list or a dict has no
hash, so looking it up in the set of operations is a `TypeError`. -/
def parseStep (runtime : Runtime) : Json → Except Exn PipelineStep
  | .obj step =>
      match Dict.getD step (str "operation") .null with
      | .arr _ | .obj _ => .error .typeError
      | .str operation =>
          if operation ∈ allowedOperations then
            match Dict.getD step (str "parameters") (.obj []) with
            | .obj parameters => .ok ⟨operation, parameters⟩
            | _ => .error (badRequest (str "Pipeline step parameters must be an object"))
          else .error (unknownOperation runtime (.str operation))
      | operation => .error (unknownOperation runtime operation)
  | _ => .error (badRequest (str "Each pipeline step must be an object"))

/-- `parse_pipeline`, given what `json.loads` makes of the text: a value, or
`none` for a `JSONDecodeError`. -/
def parsePipeline (runtime : Runtime) : Option Json → Except Exn (List PipelineStep)
  | none => .error (badRequest (str "Pipeline must be valid JSON"))
  | some (.arr []) => .error (badRequest (str "Pipeline must be a non-empty list"))
  | some (.arr items) => items.mapM (parseStep runtime)
  | some _ => .error (badRequest (str "Pipeline must be a non-empty list"))

/-- What `parse_pipeline` rejects is answered with 400 or, uncaught, with 500. -/
theorem parsePipeline_error {runtime : Runtime} {form : Option Json} {raised : Exn}
    (failed : parsePipeline runtime form = .error raised) :
    (∃ detail, raised = badRequest detail) ∨ raised.isHttp = false := by
  have step (item : Json) (raised : Exn) (failed : parseStep runtime item = .error raised) :
      (∃ detail, raised = badRequest detail) ∨ raised.isHttp = false := by
    unfold parseStep at failed
    split at failed
    · split at failed
      · cases failed
        exact .inr rfl
      · cases failed
        exact .inr rfl
      · split at failed
        · split at failed <;> cases failed
          exact .inl ⟨_, rfl⟩
        · cases failed
          exact .inl ⟨_, rfl⟩
      · cases failed
        exact .inl ⟨_, rfl⟩
    · cases failed
      exact .inl ⟨_, rfl⟩
  unfold parsePipeline at failed
  split at failed
  · cases failed
    exact .inl ⟨_, rfl⟩
  · cases failed
    exact .inl ⟨_, rfl⟩
  · obtain ⟨_, item, _, _, _, culprit⟩ := Library.mapM_error_iff.mp failed
    exact step item raised culprit
  · cases failed
    exact .inl ⟨_, rfl⟩

def buildIdempotencyRequestHash (runtime : Runtime) (pipeline : List PipelineStep)
    (imageBytes : Bytes) : Str :=
  runtime.sha256 (encodeUtf8 (dumps runtime (.obj
    [(str "pipeline", pipelineToJson pipeline),
      (str "image_sha256", .str (runtime.sha256 imageBytes))])))

end ImagePipeline.Api
