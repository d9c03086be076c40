/-
The jobs table and the repository that reads and writes it. PostgreSQL enforces
the primary key and the UNIQUE constraint on the idempotency key, so both are
fields of the table: a table that violates them cannot be built. Every
repository method is one statement on a connection of its own and is therefore
one atomic step.
-/

import ImagePipeline.Common.Calls
import ImagePipeline.Common.Models
import ImagePipeline.Library.Itemwise
import Mathlib.Data.List.Pairwise

namespace ImagePipeline.Common

/-- `_pipeline_to_json`; the API's `pipeline_to_response` is the same list. -/
def pipelineToJson (pipeline : List PipelineStep) : Json :=
  .arr (pipeline.map (fun step =>
    .obj [(str "operation", .str step.operation), (str "parameters", .obj step.parameters)]))

/-- One item of `_pipeline_from_json`. Python would also keep an operation that
is no text and parameters that are no dict; the column never holds such an
item, so they count as type errors here. -/
def pipelineStepFromJson : Json → Except Exn PipelineStep
  | .obj item =>
      match Dict.get? item (str "operation"), Dict.getD item (str "parameters") (.obj []) with
      | none, _ => .error .keyError
      | some (.str operation), .obj parameters => .ok ⟨operation, parameters⟩
      | some _, _ => .error .typeError
  | _ => .error .typeError

def pipelineFromJson : Json → Except Exn (List PipelineStep)
  | .arr items => items.mapM pipelineStepFromJson
  | _ => .error .typeError

theorem pipelineStepFromJson_item (step : PipelineStep) :
    pipelineStepFromJson (.obj [(str "operation", .str step.operation),
      (str "parameters", .obj step.parameters)]) = .ok step := by
  have different : str "operation" ≠ str "parameters" := by
    rw [Ne, str_inj]
    decide
  simp only [pipelineStepFromJson, Dict.getD, Dict.get?_cons_self, Dict.get?_cons_ne different,
    Option.getD_some]

theorem pipelineFromJson_pipelineToJson (pipeline : List PipelineStep) :
    pipelineFromJson (pipelineToJson pipeline) = .ok pipeline := by
  unfold pipelineFromJson pipelineToJson
  dsimp only
  rw [Library.mapM_ok_iff, List.forall₂_map_left_iff, List.forall₂_same]
  intro step _
  exact pipelineStepFromJson_item step

theorem pipelineFromJson_error {column : Json} {raised : Exn}
    (failed : pipelineFromJson column = .error raised) : raised.isHttp = false := by
  have step (item : Json) (raised : Exn) (failed : pipelineStepFromJson item = .error raised) :
      raised.isHttp = false := by
    unfold pipelineStepFromJson at failed
    split at failed
    · split at failed <;> cases failed <;> rfl
    · cases failed
      rfl
  unfold pipelineFromJson at failed
  split at failed
  · obtain ⟨_, item, _, _, _, culprit⟩ := Library.mapM_error_iff.mp failed
    exact step item raised culprit
  · cases failed
    rfl

mutual

/-- The values that a JSONB column takes. The tokens `NaN` and `Infinity` are no
JSON, and PostgreSQL has no text with U+0000. -/
def storable : Json → Bool
  | .null | .bool _ | .int _ => true
  | .float .nan | .float (.infinity _) => false
  | .float (.finite _) | .float .negativeZero => true
  | .str text => decide (0 ∉ text)
  | .arr items => storableItems items
  | .obj fields => storableFields fields

def storableItems : List Json → Bool
  | [] => true
  | item :: rest => storable item && storableItems rest

def storableFields : List (Str × Json) → Bool
  | [] => true
  | (key, value) :: rest => decide (0 ∉ key) && storable value && storableFields rest

end

structure JobRow where
  jobId : JobId
  idempotencyKey : Option Str
  idempotencyRequestHash : Option Str
  pipeline : Json
  inputKey : Str
  outputKey : Str
  status : Status
  createdAt : Timestamp

/-- What PRIMARY KEY and UNIQUE forbid for two rows. NULL keys never clash. -/
def JobRow.Clash (left right : JobRow) : Prop :=
  left.jobId = right.jobId ∨
    (left.idempotencyKey = right.idempotencyKey ∧ right.idempotencyKey ≠ none)

instance (left right : JobRow) : Decidable (JobRow.Clash left right) := by
  unfold JobRow.Clash
  infer_instance

/-- The columns that no statement changes once the row is there. -/
def JobRow.submission (row : JobRow) : JobRow := { row with status := .pending }

structure JobsTable where
  rows : List JobRow
  distinct : rows.Pairwise (fun left right => ¬ left.Clash right)

namespace JobsTable

def empty : JobsTable := ⟨[], .nil⟩

/-- INSERT; `none` is the `UniqueViolation`. -/
def insert (table : JobsTable) (row : JobRow) : Option JobsTable :=
  if fresh : ∀ old ∈ table.rows, ¬ old.Clash row then
    some
      { rows := table.rows ++ [row]
        distinct := by
          rw [List.pairwise_append]
          refine ⟨table.distinct, List.pairwise_singleton _ _, ?_⟩
          intro old member new only
          rw [List.mem_singleton.mp only]
          exact fresh old member }
  else none

/-- UPDATE of the status column; a missing row is not an error. -/
def updateStatus (table : JobsTable) (jobId : JobId) (status : Status) : JobsTable :=
  { rows := table.rows.map (fun row => if row.jobId = jobId then { row with status } else row)
    distinct := by
      rw [List.pairwise_map]
      apply table.distinct.imp
      intro left right separate
      by_cases atLeft : left.jobId = jobId <;> by_cases atRight : right.jobId = jobId <;>
        simpa only [atLeft, atRight, if_true, if_false, JobRow.Clash] using separate }

def find? (table : JobsTable) (jobId : JobId) : Option JobRow :=
  table.rows.find? (fun row => row.jobId = jobId)

def findKey? (table : JobsTable) (key : Str) : Option JobRow :=
  table.rows.find? (fun row => row.idempotencyKey = some key)

def statusOf (table : JobsTable) (jobId : JobId) : Option Status :=
  (table.find? jobId).map JobRow.status

/-- `PostgresJobRepository.create_job`. The values are read before the row is
compared with others. -/
def createJob (table : JobsTable) (jobId : JobId) (pipeline : List PipelineStep)
    (inputKey outputKey : Str) (idempotencyKey idempotencyRequestHash : Option Str)
    (now : Timestamp) : Except Exn JobsTable :=
  if storable (pipelineToJson pipeline) then
    match table.insert
        { jobId, idempotencyKey, idempotencyRequestHash
          pipeline := pipelineToJson pipeline
          inputKey, outputKey
          status := .pending
          createdAt := now } with
    | some after => .ok after
    | none => .error .uniqueViolation
  else .error .dataError

/-- How the INSERT ends for its caller. -/
def insertCall (table : JobsTable) (created : Except Exn JobsTable) (reply : Reply) :
    JobsTable × Except Exn Unit :=
  match created, reply with
  | .ok after, reply => reply.write table after
  | .error raised, .answered => (table, .error raised)
  | .error _, .raised fault _ => (table, .error fault.exn)

/-- `PostgresJobRepository.get_job_by_idempotency_key`. The metadata's creation
time is the list `[5]`, as the source writes it. -/
def getJobByIdempotencyKey (table : JobsTable) (key : Str) :
    Except Exn (Option (JobMetadata × Option Str)) :=
  match table.findKey? key with
  | none => .ok none
  | some row =>
      (pipelineFromJson row.pipeline).map (fun pipeline =>
        some
          ({ jobId := row.jobId
             pipeline
             inputKey := row.inputKey
             outputKey := row.outputKey
             status := row.status
             createdAt := .list [5] }, row.idempotencyRequestHash))

/-- `PostgresJobRepository.get_job`. -/
def getJob (table : JobsTable) (jobId : JobId) : Except Exn JobMetadata :=
  match table.find? jobId with
  | none => .error .valueError
  | some row =>
      (pipelineFromJson row.pipeline).map (fun pipeline =>
        { jobId := row.jobId
          pipeline
          inputKey := row.inputKey
          outputKey := row.outputKey
          status := row.status
          createdAt := .datetime row.createdAt })

/-! ### Rows of a table -/

theorem eq_of_clash {table : JobsTable} {left right : JobRow} (memberLeft : left ∈ table.rows)
    (memberRight : right ∈ table.rows) (clash : left.Clash right) : left = right := by
  by_contra different
  have symmetric : Std.Symm (fun left right : JobRow => ¬ left.Clash right) :=
    ⟨fun left right separate clash => separate (by
      rcases clash with same | ⟨same, keyed⟩
      · exact .inl same.symm
      · exact .inr ⟨same.symm, same ▸ keyed⟩)⟩
  exact table.distinct.forall memberLeft memberRight different clash

theorem eq_of_jobId {table : JobsTable} {left right : JobRow} (memberLeft : left ∈ table.rows)
    (memberRight : right ∈ table.rows) (same : left.jobId = right.jobId) : left = right :=
  eq_of_clash memberLeft memberRight (.inl same)

theorem eq_of_key {table : JobsTable} {left right : JobRow} {key : Str}
    (memberLeft : left ∈ table.rows) (memberRight : right ∈ table.rows)
    (keyLeft : left.idempotencyKey = some key) (keyRight : right.idempotencyKey = some key) :
    left = right :=
  eq_of_clash memberLeft memberRight
    (.inr ⟨keyLeft.trans keyRight.symm, by rw [keyRight]; exact Option.some_ne_none key⟩)

private theorem find?_unique {α : Type} {rows : List α} {wanted : α → Bool}
    (unique : ∀ left ∈ rows, ∀ right ∈ rows, wanted left = true → wanted right = true →
      left = right) {row : α} :
    rows.find? wanted = some row ↔ row ∈ rows ∧ wanted row = true := by
  constructor
  · intro found
    exact ⟨List.mem_of_find?_eq_some found, List.find?_some found⟩
  · intro ⟨member, matching⟩
    cases found : rows.find? wanted with
    | none => exact absurd matching (List.find?_eq_none.mp found row member)
    | some other =>
        rw [unique other (List.mem_of_find?_eq_some found) row member
          (List.find?_some found) matching]

theorem find?_eq_some {table : JobsTable} {jobId : JobId} {row : JobRow} :
    table.find? jobId = some row ↔ row ∈ table.rows ∧ row.jobId = jobId := by
  unfold find?
  rw [find?_unique, decide_eq_true_iff]
  intro left memberLeft right memberRight atLeft atRight
  exact eq_of_jobId memberLeft memberRight
    ((of_decide_eq_true atLeft).trans (of_decide_eq_true atRight).symm)

theorem findKey?_eq_some {table : JobsTable} {key : Str} {row : JobRow} :
    table.findKey? key = some row ↔ row ∈ table.rows ∧ row.idempotencyKey = some key := by
  unfold findKey?
  rw [find?_unique, decide_eq_true_iff]
  intro left memberLeft right memberRight atLeft atRight
  exact eq_of_key memberLeft memberRight (of_decide_eq_true atLeft) (of_decide_eq_true atRight)

theorem findKey?_eq_none {table : JobsTable} {key : Str} :
    table.findKey? key = none ↔ ∀ row ∈ table.rows, row.idempotencyKey ≠ some key := by
  simp only [findKey?, List.find?_eq_none, decide_eq_true_eq, ne_eq]

theorem find?_eq_none {table : JobsTable} {jobId : JobId} :
    table.find? jobId = none ↔ ∀ row ∈ table.rows, row.jobId ≠ jobId := by
  simp only [find?, List.find?_eq_none, decide_eq_true_eq, ne_eq]

theorem getJobByIdempotencyKey_ok {table : JobsTable} {key : Str}
    {found : Option (JobMetadata × Option Str)}
    (succeeded : table.getJobByIdempotencyKey key = .ok found) :
    (found = none ∧ ∀ row ∈ table.rows, row.idempotencyKey ≠ some key) ∨
    ∃ row ∈ table.rows, row.idempotencyKey = some key ∧
      ∃ metadata, found = some (metadata, row.idempotencyRequestHash) ∧
        metadata.jobId = row.jobId ∧ metadata.status = row.status ∧
        pipelineFromJson row.pipeline = .ok metadata.pipeline := by
  unfold getJobByIdempotencyKey at succeeded
  cases located : table.findKey? key with
  | none =>
      rw [located] at succeeded
      cases succeeded
      exact .inl ⟨rfl, findKey?_eq_none.mp located⟩
  | some row =>
      rw [located] at succeeded
      obtain ⟨member, keyed⟩ := findKey?_eq_some.mp located
      cases decoded : pipelineFromJson row.pipeline with
      | error raised => simp only [decoded, Except.map, reduceCtorEq] at succeeded
      | ok pipeline =>
          simp only [decoded, Except.map, Except.ok.injEq] at succeeded
          subst found
          exact .inr ⟨row, member, keyed, _, rfl, rfl, rfl, decoded⟩

theorem getJobByIdempotencyKey_error {table : JobsTable} {key : Str} {raised : Exn}
    (failed : table.getJobByIdempotencyKey key = .error raised) : raised.isHttp = false := by
  unfold getJobByIdempotencyKey at failed
  split at failed
  · cases failed
  · rename_i row _
    cases decoded : pipelineFromJson row.pipeline with
    | error inner =>
        rw [decoded] at failed
        cases failed
        exact pipelineFromJson_error decoded
    | ok pipeline => simp only [decoded, Except.map, reduceCtorEq] at failed

theorem getJob_ok {table : JobsTable} {jobId : JobId} {metadata : JobMetadata}
    (succeeded : table.getJob jobId = .ok metadata) :
    ∃ row ∈ table.rows, row.jobId = jobId ∧ metadata.jobId = row.jobId ∧
      metadata.inputKey = row.inputKey ∧ metadata.outputKey = row.outputKey ∧
      metadata.status = row.status ∧ pipelineFromJson row.pipeline = .ok metadata.pipeline := by
  unfold getJob at succeeded
  cases located : table.find? jobId with
  | none => simp only [located, reduceCtorEq] at succeeded
  | some row =>
      obtain ⟨member, same⟩ := find?_eq_some.mp located
      cases decoded : pipelineFromJson row.pipeline with
      | error raised => simp only [located, decoded, Except.map, reduceCtorEq] at succeeded
      | ok pipeline =>
          simp only [located, decoded, Except.map, Except.ok.injEq] at succeeded
          subst metadata
          exact ⟨row, member, same, rfl, rfl, rfl, rfl, decoded⟩

theorem getJob_of_mem {table : JobsTable} {row : JobRow} {pipeline : List PipelineStep}
    (member : row ∈ table.rows) (decoded : pipelineFromJson row.pipeline = .ok pipeline) :
    ∃ metadata, table.getJob row.jobId = .ok metadata ∧ metadata.status = row.status ∧
      metadata.outputKey = row.outputKey := by
  have located := find?_eq_some.mpr ⟨member, rfl⟩
  simp only [getJob, located, decoded, Except.map]
  exact ⟨_, rfl, rfl, rfl⟩

/-! ### What the two writes do -/

theorem insert_eq_some {table after : JobsTable} {row : JobRow}
    (inserted : table.insert row = some after) :
    after.rows = table.rows ++ [row] ∧ ∀ old ∈ table.rows, ¬ old.Clash row := by
  unfold insert at inserted
  split at inserted
  · rename_i fresh
    cases inserted
    exact ⟨rfl, fresh⟩
  · cases inserted

theorem insert_eq_none {table : JobsTable} {row : JobRow} (refused : table.insert row = none) :
    ∃ old ∈ table.rows, old.Clash row := by
  unfold insert at refused
  split at refused
  · cases refused
  · rename_i clash
    push Not at clash
    exact clash

section Create

variable {table : JobsTable} {jobId : JobId} {pipeline : List PipelineStep}
  {inputKey outputKey : Str} {key hash : Option Str} {now : Timestamp}

theorem createJob_ok {after : JobsTable}
    (created : table.createJob jobId pipeline inputKey outputKey key hash now = .ok after) :
    table.insert ⟨jobId, key, hash, pipelineToJson pipeline, inputKey, outputKey, .pending, now⟩ =
      some after := by
  unfold createJob at created
  split at created
  · split at created
    · rename_i inserted
      cases created
      exact inserted
    · cases created
  · cases created

theorem createJob_error {raised : Exn}
    (refused : table.createJob jobId pipeline inputKey outputKey key hash now = .error raised) :
    raised = .dataError ∨ raised = .uniqueViolation ∧
      table.insert
        ⟨jobId, key, hash, pipelineToJson pipeline, inputKey, outputKey, .pending, now⟩ = none := by
  unfold createJob at refused
  split at refused
  · split at refused
    · cases refused
    · rename_i clash
      cases refused
      exact .inr ⟨rfl, clash⟩
  · cases refused
    exact .inl rfl

end Create

def submissions (table : JobsTable) : List JobRow := table.rows.map JobRow.submission

theorem mem_submissions {table : JobsTable} {entry : JobRow} :
    entry ∈ table.submissions ↔ ∃ row ∈ table.rows, row.submission = entry := List.mem_map

theorem submission_mem {table : JobsTable} {row : JobRow} (member : row ∈ table.rows) :
    row.submission ∈ table.submissions := List.mem_map_of_mem member

@[simp] theorem updateStatus_submissions (table : JobsTable) (jobId : JobId) (status : Status) :
    (table.updateStatus jobId status).submissions = table.submissions := by
  unfold submissions updateStatus
  rw [List.map_map]
  apply List.map_congr_left
  intro row _
  by_cases same : row.jobId = jobId <;>
    simp only [Function.comp_apply, same, if_true, if_false, JobRow.submission]

theorem insert_submissions {table after : JobsTable} {row : JobRow}
    (inserted : table.insert row = some after) :
    after.submissions = table.submissions ++ [row.submission] := by
  unfold submissions
  rw [(insert_eq_some inserted).1, List.map_append, List.map_singleton]

theorem statusOf_insert {table after : JobsTable} {row : JobRow}
    (inserted : table.insert row = some after) (jobId : JobId) :
    after.statusOf jobId =
      if row.jobId = jobId then some row.status else table.statusOf jobId := by
  obtain ⟨rows, fresh⟩ := insert_eq_some inserted
  unfold statusOf find?
  rw [rows, List.find?_append]
  by_cases same : row.jobId = jobId
  · have absent : table.rows.find? (fun old => old.jobId = jobId) = none := by
      rw [List.find?_eq_none]
      intro old member found
      exact fresh old member (.inl ((of_decide_eq_true found).trans same.symm))
    rw [absent, if_pos same, List.find?_cons_of_pos (by simpa using same)]
    rfl
  · rw [if_neg same, List.find?_cons_of_neg (by simpa using same)]
    simp only [List.find?_nil, Option.or_none]

private theorem find?_restatus (rows : List JobRow) (updated jobId : JobId) (status : Status) :
    ((rows.map (fun row => if row.jobId = updated then { row with status } else row)).find?
        (fun row => row.jobId = jobId)).map JobRow.status =
      if updated = jobId then
        ((rows.find? (fun row => row.jobId = jobId)).map JobRow.status).map (fun _ => status)
      else (rows.find? (fun row => row.jobId = jobId)).map JobRow.status := by
  induction rows with
  | nil => by_cases same : updated = jobId <;> simp [same]
  | cons row rest ih =>
      by_cases atRow : row.jobId = jobId
      · by_cases same : updated = jobId
        · subst updated
          simp [atRow]
        · have other : row.jobId ≠ updated := fun equal => same (equal.symm.trans atRow)
          simp [atRow, same, Ne.symm same]
      · have kept : (if row.jobId = updated then { row with status } else row).jobId ≠ jobId := by
          split <;> exact atRow
        rw [List.map_cons, List.find?_cons_of_neg (by simpa using kept),
          List.find?_cons_of_neg (by simpa using atRow)]
        exact ih

theorem statusOf_updateStatus (table : JobsTable) (updated jobId : JobId) (status : Status) :
    (table.updateStatus updated status).statusOf jobId =
      if updated = jobId then (table.statusOf jobId).map (fun _ => status)
      else table.statusOf jobId :=
  find?_restatus table.rows updated jobId status

theorem statusOf_updateStatus_ne (table : JobsTable) (jobId : JobId) {written other : Status}
    (different : written ≠ other) :
    (table.updateStatus jobId written).statusOf jobId ≠ some other := by
  rw [statusOf_updateStatus, if_pos rfl]
  cases table.statusOf jobId with
  | none => nofun
  | some old => exact fun same => different (Option.some.inj same)

theorem statusOf_isSome {table : JobsTable} {jobId : JobId} {status : Status}
    (known : table.statusOf jobId = some status) :
    ∃ row ∈ table.rows, row.jobId = jobId ∧ row.status = status := by
  obtain ⟨row, found, rfl⟩ := Option.map_eq_some_iff.mp known
  obtain ⟨member, same⟩ := find?_eq_some.mp found
  exact ⟨row, member, same, rfl⟩

theorem statusOf_of_mem {table : JobsTable} {row : JobRow} (member : row ∈ table.rows) :
    table.statusOf row.jobId = some row.status := by
  unfold statusOf
  rw [find?_eq_some.mpr ⟨member, rfl⟩]
  rfl

end JobsTable

end ImagePipeline.Common
