/-
A pipeline's way through the jobs table: whether the INSERT takes it, and what
the worker and GET /jobs/{id} read afterwards.
-/

import ImagePipeline.Api.GetJob
import ImagePipeline.Api.PipelineGrammar
import ImagePipeline.Common.Jsonb

namespace ImagePipeline.Properties.StorageRoundTrip

open Common Api
open Json (Alike)

/-- The INSERT never fails over the pipeline, and whatever becomes of the table
later, both readers get the same steps back. -/
def RoundTrips (pipeline : List PipelineStep) : Prop :=
  ∀ (table : JobsTable) (jobId : JobId) (inputKey outputKey : Str) (key hash : Option Str)
    (now : Timestamp),
    table.createJob jobId pipeline inputKey outputKey key hash now ≠ .error .dataError ∧
    ∀ after, table.createJob jobId pipeline inputKey outputKey key hash now = .ok after →
      ∀ later : JobsTable, (∀ entry ∈ after.submissions, entry ∈ later.submissions) →
        ∀ jsonb : Jsonb,
          (∃ metadata, (later.selected jsonb).getJob jobId = .ok metadata ∧
            List.Forall₂ SameStep metadata.pipeline pipeline) ∧
          ∃ response, getJob (later.selected jsonb) jobId .answered = .ok response ∧
            Alike jsonbSame response.pipeline (pipelineToJson pipeline)

theorem pipelineToJson_standard_iff {pipeline : List PipelineStep}
    (allowed : ∀ step ∈ pipeline, step.operation ∈ allowedOperations) :
    (pipelineToJson pipeline).Standard ↔ ∀ step ∈ pipeline, (Json.obj step.parameters).Standard := by
  have noNul : ∀ operation ∈ allowedOperations, 0 ∉ operation := by decide
  have names : 0 ∉ str "operation" ∧ 0 ∉ str "parameters" := by decide
  unfold pipelineToJson
  rw [standard_arr]
  constructor
  · intro standard step member
    have item := standard _ (List.mem_map_of_mem member)
    exact (standard_obj.mp item _ (List.mem_cons_of_mem _ List.mem_cons_self)).2
  · intro standard item member
    obtain ⟨step, inside, rfl⟩ := List.mem_map.mp member
    rw [standard_obj]
    intro field present
    rcases List.mem_cons.mp present with rfl | later
    · refine ⟨names.1, (standard_scalar rfl).mpr ⟨rfl, ?_⟩⟩
      intro text same
      cases same
      exact noNul _ (allowed step inside)
    · cases List.mem_singleton.mp later
      exact ⟨names.2, standard step inside⟩

theorem createJob_dataError_iff {table : JobsTable} {jobId : JobId}
    {pipeline : List PipelineStep} {inputKey outputKey : Str} {key hash : Option Str}
    {now : Timestamp} :
    table.createJob jobId pipeline inputKey outputKey key hash now = .error .dataError ↔
      storable (pipelineToJson pipeline) = false := by
  unfold JobsTable.createJob
  cases storable (pipelineToJson pipeline) with
  | false => exact iff_of_true rfl rfl
  | true =>
      rw [if_pos rfl]
      split <;> simp

theorem selected_getJob {later : JobsTable} {row : JobRow} {pipeline : List PipelineStep}
    (jsonb : Jsonb) (member : row ∈ later.rows) (column : row.pipeline = pipelineToJson pipeline)
    (stored : storable (pipelineToJson pipeline) = true) :
    ∃ metadata, (later.selected jsonb).getJob row.jobId = .ok metadata ∧
      List.Forall₂ SameStep metadata.pipeline pipeline := by
  have selected : { row with pipeline := jsonb.readBack row.pipeline } ∈
      (later.selected jsonb).rows := List.mem_map_of_mem member
  have equal : Alike jsonbSame (jsonb.readBack row.pipeline) (pipelineToJson pipeline) := by
    rw [column]
    exact jsonb.equal _ stored
  obtain ⟨steps, decoded, same⟩ := pipelineFromJson_alike equal
  have found := JobsTable.find?_eq_some.mpr ⟨selected, rfl⟩
  simp only [JobsTable.getJob, found, decoded, Except.map]
  exact ⟨_, rfl, same⟩

theorem pipelineToJson_alike {steps pipeline : List PipelineStep}
    (same : List.Forall₂ SameStep steps pipeline) :
    Alike jsonbSame (pipelineToJson steps) (pipelineToJson pipeline) := by
  unfold pipelineToJson
  rw [Json.alike_arr, List.forall₂_map_left_iff, List.forall₂_map_right_iff]
  apply same.imp
  intro step other ⟨operation, parameters⟩
  rw [Json.alike_obj]
  refine ⟨_, .refl _, .cons ⟨rfl, ?_⟩ (.cons ⟨rfl, parameters⟩ .nil)⟩
  rw [operation]
  exact .inl rfl

/-- An accepted pipeline makes its way through the table exactly if everything
in its parameters is standard JSON without U+0000. -/
theorem roundTrips_iff {runtime : Runtime} {form : Option Json} {pipeline : List PipelineStep}
    {heavy : Bool} (accepted : parsePipeline runtime form = .ok pipeline)
    (_classified : isHeavyPipeline runtime pipeline = .ok heavy) :
    RoundTrips pipeline ↔ ∀ step ∈ pipeline, (Json.obj step.parameters).Standard := by
  have allowed : ∀ step ∈ pipeline, step.operation ∈ allowedOperations :=
    fun step member => parsePipeline_allowed accepted member
  rw [← pipelineToJson_standard_iff allowed, ← storable_iff]
  constructor
  · intro roundTrips
    have taken := (roundTrips .empty firstJob [] [] none none 0).1
    rw [Ne, createJob_dataError_iff] at taken
    exact eq_true_of_ne_false taken
  · intro stored table jobId inputKey outputKey key hash now
    constructor
    · rw [Ne, createJob_dataError_iff, stored]
      exact Bool.noConfusion
    · intro after created later kept jsonb
      have inserted := JobsTable.insert_submissions (JobsTable.createJob_ok created)
      have listed := kept _ (by rw [inserted]; exact List.mem_append_right _ List.mem_cons_self)
      obtain ⟨row, member, same⟩ := JobsTable.mem_submissions.mp listed
      have sameId : row.jobId = jobId := congrArg JobRow.jobId same
      have column : row.pipeline = pipelineToJson pipeline := congrArg JobRow.pipeline same
      obtain ⟨metadata, found, steps⟩ := selected_getJob jsonb member column stored
      rw [sameId] at found
      exact ⟨⟨metadata, found, steps⟩, _, getJob_answered found, pipelineToJson_alike steps⟩

/-! ### A radius that is no number -/

/-- `[{"operation":"blur","parameters":{"radius":NaN}}]`. -/
def blurByNaN : Json :=
  .arr [.obj [(str "operation", .str (str "blur")),
    (str "parameters", .obj [(str "radius", .float .nan)])]]

def blurByNaNSteps : List PipelineStep := [⟨str "blur", [(str "radius", .float .nan)]⟩]

/-- The API takes the request as a light one; the INSERT then fails. -/
theorem blurByNaN_refused :
    parsePipeline plainRuntime (some blurByNaN) = .ok blurByNaNSteps ∧
    isHeavyPipeline plainRuntime blurByNaNSteps = .ok false ∧
    JobsTable.empty.createJob firstJob blurByNaNSteps (originalKey firstJob none)
      (resultKey firstJob) none none 0 = .error .dataError ∧
    ¬ RoundTrips blurByNaNSteps := by
  have accepted : parsePipeline plainRuntime (some blurByNaN) = .ok blurByNaNSteps :=
    parsePipeline_ok_iff.mpr
      ⟨_, rfl, List.cons_ne_nil _ _, .cons ⟨⟨_, rfl, rfl, rfl⟩, by decide⟩ .nil⟩
  have refused : storable (pipelineToJson blurByNaNSteps) = false := by decide
  refine ⟨accepted, by decide +kernel, createJob_dataError_iff.mpr refused, ?_⟩
  intro roundTrips
  exact (roundTrips .empty firstJob [] [] none none 0).1 (createJob_dataError_iff.mpr refused)

/-- A text with an emoji in a nested list makes its way. -/
theorem roundTrips_of_nested :
    let note : Json := .arr [.str [0x1F600], .null, .float (.finite (5 / 2))]
    RoundTrips [⟨str "rotate", [(str "angle", .int 90), (str "note", note)]⟩] := by
  intro note
  let form : Json := .arr [.obj [(str "operation", .str (str "rotate")),
    (str "parameters", .obj [(str "angle", .int 90), (str "note", note)])]]
  have accepted : parsePipeline plainRuntime (some form) =
      .ok [⟨str "rotate", [(str "angle", .int 90), (str "note", note)]⟩] :=
    parsePipeline_ok_iff.mpr
      ⟨_, rfl, List.cons_ne_nil _ _, .cons ⟨⟨_, rfl, rfl, rfl⟩, by decide⟩ .nil⟩
  have classified : isHeavyPipeline plainRuntime
      [⟨str "rotate", [(str "angle", .int 90), (str "note", note)]⟩] = .ok false := by
    decide +kernel
  apply (roundTrips_iff accepted classified).mpr
  intro step member
  cases List.mem_singleton.mp member
  rw [← storable_iff]
  decide

end ImagePipeline.Properties.StorageRoundTrip
