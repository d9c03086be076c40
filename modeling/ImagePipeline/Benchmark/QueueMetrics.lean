/-
`queue_metrics` of the sweep runner: the largest lengths over all rows and the
drain times of the queues together and of each of them.
-/

import ImagePipeline.Benchmark.Samples

namespace ImagePipeline.Benchmark

open Common
open Library (Traced)

/-- `max(read(row) for row in rows)`. -/
def maxOver (read : QueueRow → Except Exn Int) : List QueueRow → Except Exn Int
  | [] => .error .valueError
  | row :: rest =>
      match read row with
      | .error raised => .error raised
      | .ok first =>
          rest.foldlM (fun longest row => (read row).map (fun length => max longest length)) first

structure QueueMetrics where
  maxQueueLength : Int
  maxDefaultQueueLength : Int
  maxHeavyQueueLength : Int
  queueDrainSeconds : Option PyFloat
  defaultQueueDrainSeconds : Option PyFloat
  heavyQueueDrainSeconds : Option PyFloat
  deriving DecidableEq

section Metrics

variable (runtime : Runtime) (clock : Clock)

def queueMetrics (rows : List QueueRow) (runStartedAt duration : Option Str) :
    Traced Int Exn QueueMetrics :=
  if rows.isEmpty then
    pure
      { maxQueueLength := 0
        maxDefaultQueueLength := 0
        maxHeavyQueueLength := 0
        queueDrainSeconds := none
        defaultQueueDrainSeconds := none
        heavyQueueDrainSeconds := none }
  else do
    let maxDefault ← Traced.ofExcept
      (maxOver (fun row => queueLength runtime row (str "default_queue_length")) rows)
    let maxHeavy ← Traced.ofExcept
      (maxOver (fun row => queueLength runtime row (str "heavy_queue_length")) rows)
    let maxTotal ← Traced.ofExcept
      (maxOver (fun row => totalLength runtime row queueFields) rows)
    let total ← calculateDrainSeconds runtime clock rows queueFields runStartedAt duration
    let default ← calculateDrainSeconds runtime clock rows [str "default_queue_length"]
      runStartedAt duration
    let heavy ← calculateDrainSeconds runtime clock rows [str "heavy_queue_length"]
      runStartedAt duration
    pure
      { maxQueueLength := maxTotal
        maxDefaultQueueLength := maxDefault
        maxHeavyQueueLength := maxHeavy
        queueDrainSeconds := total
        defaultQueueDrainSeconds := default
        heavyQueueDrainSeconds := heavy }

end Metrics

theorem foldlM_max {read : QueueRow → Except Exn Int} {value : QueueRow → Int}
    {rows : List QueueRow} (reads : ∀ row ∈ rows, read row = .ok (value row)) (first : Int) :
    rows.foldlM (fun longest row => (read row).map (fun length => max longest length)) first =
      .ok (rows.foldl (fun longest row => max longest (value row)) first) := by
  induction rows generalizing first with
  | nil => rfl
  | cons row rest ih =>
      rw [List.foldlM_cons, reads row List.mem_cons_self]
      exact ih (fun other member => reads other (List.mem_cons_of_mem _ member)) _

variable {runtime : Runtime} {clock : Clock} {aware : Bool} {rows : List QueueRow}

/-- On rows that can be read, no length is negative and the maximum can be
started from zero. -/
theorem maxOver_eq {fields : List Str} {read : QueueRow → Except Exn Int} (some : rows ≠ [])
    (counted : ∀ row ∈ rows, row.Counted runtime fields)
    (same : ∀ row ∈ rows, read row = totalLength runtime row fields) :
    maxOver read rows = .ok (peak runtime fields 0 rows) := by
  have value (row : QueueRow) (member : row ∈ rows) :
      read row = .ok (row.length runtime fields) :=
    (same row member).trans (counted row member).totalLength_eq
  cases rows with
  | nil => exact absurd rfl some
  | cons row rest =>
      have nonneg := (counted row List.mem_cons_self).length_nonneg
      rw [maxOver, value row List.mem_cons_self, peak_cons, max_eq_right nonneg]
      exact foldlM_max (fun other member => value other (List.mem_cons_of_mem _ member)) _

theorem totalLength_singleton (row : QueueRow) (field : Str) :
    totalLength runtime row [field] = queueLength runtime row field := by
  unfold totalLength
  cases queueLength runtime row field with
  | error raised => rfl
  | ok length => simp [totalLength, Except.map]

theorem queueMetrics_eq {runStartedAt duration : Option Str} {stop : Int} (some : rows ≠ [])
    (ends : Ends clock aware runStartedAt duration stop)
    (reads : ∀ row ∈ rows, row.Reads runtime clock aware queueFields) (trace : List Int) :
    (queueMetrics runtime clock rows runStartedAt duration trace).1 =
      .ok
        { maxQueueLength := peak runtime queueFields 0 rows
          maxDefaultQueueLength := peak runtime [str "default_queue_length"] 0 rows
          maxHeavyQueueLength := peak runtime [str "heavy_queue_length"] 0 rows
          queueDrainSeconds :=
            drainSeconds clock stop (watchRows runtime clock queueFields stop rows)
          defaultQueueDrainSeconds := drainSeconds clock stop
            (watchRows runtime clock [str "default_queue_length"] stop rows)
          heavyQueueDrainSeconds := drainSeconds clock stop
            (watchRows runtime clock [str "heavy_queue_length"] stop rows) } := by
  have readsDefault (row : QueueRow) (member : row ∈ rows) :
      row.Reads runtime clock aware [str "default_queue_length"] :=
    (reads row member).mono (List.cons_subset_cons _ (List.nil_subset _))
  have readsHeavy (row : QueueRow) (member : row ∈ rows) :
      row.Reads runtime clock aware [str "heavy_queue_length"] :=
    (reads row member).mono (List.subset_cons_self _ _)
  unfold queueMetrics
  rw [if_neg (by rw [List.isEmpty_iff]; exact some),
    maxOver_eq some (fun row member => (readsDefault row member).counted)
      (fun row _ => (totalLength_singleton row _).symm),
    maxOver_eq some (fun row member => (readsHeavy row member).counted)
      (fun row _ => (totalLength_singleton row _).symm),
    maxOver_eq some (fun row member => (reads row member).counted) (fun row _ => rfl)]
  simp only [Traced.ofExcept_ok_bind]
  rw [Traced.bind_of_ok (calculateDrainSeconds_eq some ends reads trace),
    Traced.bind_of_ok (calculateDrainSeconds_eq some ends readsDefault _),
    Traced.bind_of_ok (calculateDrainSeconds_eq some ends readsHeavy _)]
  rfl

end ImagePipeline.Benchmark
