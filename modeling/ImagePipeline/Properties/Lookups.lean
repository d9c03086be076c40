/-
The two lookups of the job repository. Both decode the row they find by column
position, and the one by idempotency key puts the list `[5]` where the creation
time belongs.
-/

import ImagePipeline.Common.JobRepository
import ImagePipeline.Library.Machine

namespace ImagePipeline.Properties.Lookups

open Common
open Library (Machine)

/-- The statements that write to the jobs table. -/
inductive Write where
  | create (jobId : JobId) (pipeline : List PipelineStep) (inputKey outputKey : Str)
      (key hash : Option Str) (now : Timestamp)
  | setStatus (jobId : JobId) (status : Status)

/-- A failed `create_job` leaves the table as it is. -/
def write (table : JobsTable) : Write → JobsTable
  | .create jobId pipeline inputKey outputKey key hash now =>
      match table.createJob jobId pipeline inputKey outputKey key hash now with
      | .ok after => after
      | .error _ => table
  | .setStatus jobId status => table.updateStatus jobId status

def repository : Machine JobsTable Write :=
  { initial := .empty
    step := fun table statement => some (write table statement) }

def anyWrite : JobsTable → Write → Bool := fun _ _ => true

/-- The writes contain the successful `create_job` that the row comes from. -/
def CreatedBy (writes : List Write) (row : JobRow) : Prop :=
  ∃ before after pipeline,
    repository.Takes anyWrite .empty writes before
      (.create row.jobId pipeline row.inputKey row.outputKey row.idempotencyKey
        row.idempotencyRequestHash row.createdAt) ∧
    before.createJob row.jobId pipeline row.inputKey row.outputKey row.idempotencyKey
      row.idempotencyRequestHash row.createdAt = .ok after ∧
    row.pipeline = pipelineToJson pipeline

/-- The lookup by key finds what the lookup by id finds, with the hash stored at
creation, and nothing for a key without a row. -/
structure LookupsAgree (writes : List Write) (table : JobsTable) : Prop where
  found : ∀ row ∈ table.rows, ∀ key, row.idempotencyKey = some key →
    ∃ metadata, table.getJobByIdempotencyKey key =
        .ok (some (metadata, row.idempotencyRequestHash)) ∧
      table.getJob row.jobId = .ok metadata ∧ CreatedBy writes row
  absent : ∀ key, (∀ row ∈ table.rows, row.idempotencyKey ≠ some key) →
    table.getJobByIdempotencyKey key = .ok none

theorem CreatedBy.restatus {writes : List Write} {row : JobRow} (created : CreatedBy writes row)
    (status : Status) : CreatedBy writes { row with status } := created

theorem CreatedBy.later {writes : List Write} {row : JobRow} (created : CreatedBy writes row)
    (last : Write) : CreatedBy (writes ++ [last]) row := by
  obtain ⟨before, after, pipeline, ⟨first, isPrefix, ran⟩, rest⟩ := created
  exact ⟨before, after, pipeline, ⟨first, isPrefix.trans (List.prefix_append _ _), ran⟩, rest⟩

theorem createdBy_of_run {writes : List Write} {table : JobsTable}
    (ran : repository.run anyWrite .empty writes = some table) :
    ∀ row ∈ table.rows, CreatedBy writes row := by
  induction writes using List.reverseRecOn generalizing table with
  | nil =>
      obtain rfl : JobsTable.empty = table := Option.some.inj ran
      intro row member
      cases member
  | append_singleton writes last ih =>
      obtain ⟨middle, before, _, taken⟩ := Machine.run_snoc.mp ran
      obtain rfl : write middle last = table := Option.some.inj taken
      intro row member
      cases last with
      | setStatus jobId status =>
          obtain ⟨old, known, rfl⟩ := List.mem_map.mp member
          have created := (ih before old known).later (.setStatus jobId status)
          split
          · exact created.restatus status
          · exact created
      | create jobId pipeline inputKey outputKey key hash now =>
          cases created : middle.createJob jobId pipeline inputKey outputKey key hash now with
          | error raised =>
              simp only [write, created] at member
              exact (ih before row member).later _
          | ok after =>
              simp only [write, created] at member
              obtain ⟨rows, _⟩ := JobsTable.insert_eq_some (JobsTable.createJob_ok created)
              rw [rows, List.mem_append, List.mem_singleton] at member
              rcases member with known | rfl
              · exact (ih before row known).later _
              · exact ⟨middle, after, pipeline,
                  (Machine.takes_snoc before).mpr (.inr ⟨rfl, rfl⟩), created, rfl⟩

/-- What the two lookups return for a row differs in the creation time, and in
nothing else. -/
theorem lookups_of_row {writes : List Write} {table : JobsTable} {row : JobRow} {key : Str}
    (created : CreatedBy writes row) (member : row ∈ table.rows)
    (keyed : row.idempotencyKey = some key) :
    ∃ metadata, table.getJobByIdempotencyKey key =
        .ok (some (metadata, row.idempotencyRequestHash)) ∧
      table.getJob row.jobId = .ok { metadata with createdAt := .datetime row.createdAt } ∧
      metadata.createdAt = .list [5] := by
  obtain ⟨_, _, pipeline, _, _, stored⟩ := created
  have decoded : pipelineFromJson row.pipeline = .ok pipeline := by
    rw [stored, pipelineFromJson_pipelineToJson]
  have byKey := JobsTable.findKey?_eq_some.mpr ⟨member, keyed⟩
  have byId := JobsTable.find?_eq_some.mpr ⟨member, rfl⟩
  simp only [JobsTable.getJobByIdempotencyKey, byKey, JobsTable.getJob, byId, decoded, Except.map]
  exact ⟨_, rfl, rfl, rfl⟩

/-- After any writes, the lookups agree exactly if there is no row to be found
by its key; for such a row they differ in the creation time only. -/
theorem lookups_agree_iff {writes : List Write} {table : JobsTable}
    (ran : repository.run anyWrite .empty writes = some table) :
    (LookupsAgree writes table ↔ ∀ row ∈ table.rows, row.idempotencyKey = none) ∧
    ∀ row ∈ table.rows, ∀ key, row.idempotencyKey = some key →
      CreatedBy writes row ∧
      ∃ metadata, table.getJobByIdempotencyKey key =
          .ok (some (metadata, row.idempotencyRequestHash)) ∧
        table.getJob row.jobId = .ok { metadata with createdAt := .datetime row.createdAt } ∧
        metadata.createdAt = .list [5] := by
  have origin := createdBy_of_run ran
  refine ⟨⟨?_, ?_⟩, ?_⟩
  · intro agree row member
    cases keyed : row.idempotencyKey with
    | none => rfl
    | some key =>
        obtain ⟨metadata, byKey, byId, created⟩ := agree.found row member key keyed
        obtain ⟨other, byKeyOther, byIdOther, list⟩ := lookups_of_row created member keyed
        rw [byKeyOther] at byKey
        cases byKey
        rw [byIdOther] at byId
        have same := congrArg JobMetadata.createdAt (Except.ok.inj byId)
        rw [list] at same
        cases same
  · intro unkeyed
    constructor
    · intro row member key keyed
      rw [unkeyed row member] at keyed
      cases keyed
    · intro key absent
      rw [JobsTable.getJobByIdempotencyKey, JobsTable.findKey?_eq_none.mpr absent]
  · intro row member key keyed
    exact ⟨origin row member, lookups_of_row (origin row member) member keyed⟩

/-! ### One job with a key -/

def keyedJob : Write :=
  .create firstJob [⟨str "blur", []⟩] (str "originals/1/pixel.ppm") (str "results/1/result.png")
    (some (str "order-7")) (some (str "digest")) 17

def keyedTable : JobsTable := write .empty keyedJob

theorem keyedJob_lookups :
    repository.run anyWrite .empty [keyedJob] = some keyedTable ∧
    (keyedTable.getJobByIdempotencyKey (str "order-7")).map
      (fun found => found.map (fun entry => entry.1.createdAt)) = .ok (some (.list [5])) ∧
    (keyedTable.getJob firstJob).map JobMetadata.createdAt = .ok (.datetime 17) ∧
    ¬ LookupsAgree [keyedJob] keyedTable := by
  have byKey : (keyedTable.getJobByIdempotencyKey (str "order-7")).map
      (fun found => found.map (fun entry => entry.1.createdAt)) = .ok (some (.list [5])) := by
    decide +kernel
  have byId : (keyedTable.getJob firstJob).map JobMetadata.createdAt = .ok (.datetime 17) := by
    decide +kernel
  have stored : ∃ row ∈ keyedTable.rows, row.idempotencyKey = some (str "order-7") ∧
      row.jobId = firstJob := by decide +kernel
  refine ⟨rfl, byKey, byId, fun agree => ?_⟩
  obtain ⟨row, member, keyed, sameId⟩ := stored
  obtain ⟨metadata, foundByKey, foundById, _⟩ := agree.found row member _ keyed
  rw [foundByKey] at byKey
  rw [← sameId, foundById] at byId
  have list : metadata.createdAt = .list [5] := Option.some.inj (Except.ok.inj byKey)
  have time : metadata.createdAt = .datetime 17 := Except.ok.inj byId
  rw [list] at time
  cases time

theorem lookups_agree_iff_unkeyed :
    LookupsAgree [.create firstJob [] [] [] none none 17, .setStatus firstJob .done]
      (write (write .empty (.create firstJob [] [] [] none none 17))
        (.setStatus firstJob .done)) :=
  (lookups_agree_iff rfl).1.mpr (by decide +kernel)

end ImagePipeline.Properties.Lookups
