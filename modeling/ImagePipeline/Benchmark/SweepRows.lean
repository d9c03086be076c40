/-
The rows of `sweep_results.csv`: what `sweep_runner.py` puts into them, one for
each rate, and how the two reports on sweeps read a cell.
-/

import ImagePipeline.Common.Doubles
import ImagePipeline.Common.JsonPrinter
import ImagePipeline.Benchmark.QueueMetrics

namespace ImagePipeline.Benchmark

open Common

/-- What the reports take from Python's `float`. -/
structure FloatText where
  /-- `float(text)`; `none` is the `ValueError`. -/
  floatOfStr : Str → Option PyFloat
  /-- `f"{value:.{digits}f}"`. -/
  fixed : Nat → PyFloat → Str

/-- A number of `analysis_summary.json`. -/
inductive Number where
  | int (value : Int)
  | float (value : PyFloat)

def Number.json : Number → Json
  | .int value => .int value
  | .float value => .float value

/-- `float(value)` of a number, or 0 in place of one. -/
def Number.double : Option Number → PyFloat
  | none => .finite 0
  | some (.int value) => PyFloat.ofRat value
  | some (.float value) => value

/-- What the sweep takes from `analysis_summary.json`. -/
structure Analysis where
  submittedJobs : Option Int
  completedJobs : Option Int
  completedJobsPerSecond : Option Number
  failedJobs : Option Int
  rejectedJobs : Option Int
  endToEndP95Ms : Option Number
  avgCpuPercent : Option Number
  maxCpuPercent : Option Number

/-- `worker_cpu_metrics` of one kind of workers. -/
structure WorkerCpu where
  average : Option PyFloat
  maximum : Option PyFloat

structure SweepRow where
  rate : PyFloat
  analysis : Analysis
  queues : QueueMetrics
  defaultWorkerCpu : WorkerCpu
  heavyWorkerCpu : WorkerCpu
  errorCount : Nat
  runDir : Str

def orNone {α : Type} (json : α → Json) (value : Option α) : Json := (value.map json).getD .null

/-- The dictionary that `main` appends to its rows. -/
def SweepRow.dict (row : SweepRow) : Dict :=
  [(str "rate", .float row.rate),
    (str "submitted_jobs", orNone .int row.analysis.submittedJobs),
    (str "completed_jobs", orNone .int row.analysis.completedJobs),
    (str "completed_jobs_per_second", orNone Number.json row.analysis.completedJobsPerSecond),
    (str "failed_jobs", orNone .int row.analysis.failedJobs),
    (str "rejected_jobs", orNone .int row.analysis.rejectedJobs),
    (str "end_to_end_p95_ms", orNone Number.json row.analysis.endToEndP95Ms),
    (str "avg_cpu_percent", orNone Number.json row.analysis.avgCpuPercent),
    (str "max_cpu_percent", orNone Number.json row.analysis.maxCpuPercent),
    (str "max_queue_length", .int row.queues.maxQueueLength),
    (str "max_default_queue_length", .int row.queues.maxDefaultQueueLength),
    (str "max_heavy_queue_length", .int row.queues.maxHeavyQueueLength),
    (str "queue_drain_seconds", orNone .float row.queues.queueDrainSeconds),
    (str "default_queue_drain_seconds", orNone .float row.queues.defaultQueueDrainSeconds),
    (str "heavy_queue_drain_seconds", orNone .float row.queues.heavyQueueDrainSeconds),
    (str "avg_default_worker_cpu_percent", orNone .float row.defaultWorkerCpu.average),
    (str "max_default_worker_cpu_percent", orNone .float row.defaultWorkerCpu.maximum),
    (str "avg_heavy_worker_cpu_percent", orNone .float row.heavyWorkerCpu.average),
    (str "max_heavy_worker_cpu_percent", orNone .float row.heavyWorkerCpu.maximum),
    (str "error_count", .int row.errorCount),
    (str "run_dir", .str row.runDir)]

/-- The text that `csv.DictWriter` writes for a value. -/
def csvCell (runtime : Runtime) : Json → Str
  | .null => []
  | value => runtime.scalarText value

/-- A row as `csv.DictReader` yields it. -/
abbrev CsvRow := List (Str × Str)

def SweepRow.cells (runtime : Runtime) (row : SweepRow) : CsvRow :=
  row.dict.map (fun field => (field.1, csvCell runtime field.2))

/-- `row[key]`. -/
def CsvRow.item (row : CsvRow) (key : Str) : Except Exn Str :=
  match row.lookup key with
  | some text => .ok text
  | none => .error .keyError

section Reading

variable (runtime : Runtime) (floats : FloatText)

/-- `float(text)`. -/
def FloatText.float (text : Str) : Except Exn PyFloat :=
  match floats.floatOfStr text with
  | some value => .ok value
  | none => .error .valueError

/-- `float(text or 0)`. -/
def FloatText.floatOrZero (text : Str) : Except Exn PyFloat :=
  if text = [] then .ok (.finite 0) else floats.float text

/-- `int(text or 0)`. -/
def intOrZero (text : Str) : Except Exn Int :=
  if text = [] then .ok 0
  else
    match runtime.intOfStr text with
    | some value => .ok value
    | none => .error .valueError

/-- `float(row["rate"])`. -/
def rateOf (row : CsvRow) : Except Exn PyFloat := do
  floats.float (← row.item (str "rate"))

/-- `float(row["completed_jobs_per_second"] or 0)`. -/
def throughputOf (row : CsvRow) : Except Exn PyFloat := do
  floats.floatOrZero (← row.item (str "completed_jobs_per_second"))

/-- `int(row[key] or 0)`. -/
def countOf (row : CsvRow) (key : Str) : Except Exn Int := do
  intOrZero runtime (← row.item key)

end Reading

def SweepRow.doubles (row : SweepRow) : List Number :=
  [.float row.rate, .int row.queues.maxDefaultQueueLength, .int row.queues.maxHeavyQueueLength] ++
    row.analysis.completedJobsPerSecond.toList ++ row.analysis.endToEndP95Ms.toList ++
    row.defaultWorkerCpu.average.toList.map .float ++ row.heavyWorkerCpu.average.toList.map .float

def SweepRow.counts (row : SweepRow) : List Int :=
  [row.queues.maxQueueLength, (row.errorCount : Int)] ++ row.analysis.failedJobs.toList ++
    row.analysis.rejectedJobs.toList

/-- Python reads the numbers it has printed as what they were. -/
structure SweepRow.ReadsBack (runtime : Runtime) (floats : FloatText) (row : SweepRow) : Prop where
  doubles : ∀ number ∈ row.doubles, csvCell runtime number.json ≠ [] ∧
    floats.floatOfStr (csvCell runtime number.json) = some (Number.double number)
  counts : ∀ count ∈ row.counts, runtime.intOfStr (intRepr count) = some count

theorem SweepRow.readsBack_iff (runtime : Runtime) (floats : FloatText) (row : SweepRow) :
    row.ReadsBack runtime floats ↔
      (∀ number ∈ row.doubles, csvCell runtime number.json ≠ [] ∧
        floats.floatOfStr (csvCell runtime number.json) = some (Number.double number)) ∧
      ∀ count ∈ row.counts, runtime.intOfStr (intRepr count) = some count :=
  ⟨fun reads => ⟨reads.doubles, reads.counts⟩, fun both => ⟨both.1, both.2⟩⟩

instance (runtime : Runtime) (floats : FloatText) (row : SweepRow) :
    Decidable (row.ReadsBack runtime floats) :=
  decidable_of_iff _ (SweepRow.readsBack_iff runtime floats row).symm

/-- The throughput that is compared with the rate; 0 if there is none. -/
def SweepRow.throughput (row : SweepRow) : PyFloat :=
  Number.double row.analysis.completedJobsPerSecond

def SweepRow.clean (row : SweepRow) : Bool :=
  row.analysis.failedJobs.getD 0 = 0 && row.analysis.rejectedJobs.getD 0 = 0 &&
    row.errorCount = 0 && row.queues.maxQueueLength = 0

/-- The throughput reaches a share of the rate. -/
def SweepRow.reaches (share : PyFloat) (row : SweepRow) : Bool :=
  (row.rate.mul share).le row.throughput

section Cells

variable {runtime : Runtime} {floats : FloatText} {row : SweepRow}

theorem FloatText.floatOrZero_orNone {number : Option Number}
    (reads : ∀ given ∈ number.toList, csvCell runtime given.json ≠ [] ∧
      floats.floatOfStr (csvCell runtime given.json) = some (Number.double given)) :
    floats.floatOrZero (csvCell runtime (orNone Number.json number)) =
      .ok (Number.double number) := by
  cases number with
  | none => rfl
  | some given =>
      obtain ⟨printed, same⟩ := reads given (by simp)
      change floats.floatOrZero (csvCell runtime given.json) = _
      rw [floatOrZero, if_neg printed, float, same]

theorem intOrZero_int {count : Int} (reads : runtime.intOfStr (intRepr count) = some count) :
    intOrZero runtime (csvCell runtime (.int count)) = .ok count := by
  change intOrZero runtime (intRepr count) = _
  rw [intOrZero, if_neg (intRepr_ne_nil count), reads]

theorem intOrZero_orNone {count : Option Int}
    (reads : ∀ given ∈ count.toList, runtime.intOfStr (intRepr given) = some given) :
    intOrZero runtime (csvCell runtime (orNone .int count)) = .ok (count.getD 0) := by
  cases count with
  | none => rfl
  | some given => exact intOrZero_int (reads given (by simp))

theorem SweepRow.ReadsBack.rateOf_eq (reads : row.ReadsBack runtime floats) :
    rateOf floats (row.cells runtime) = .ok row.rate := by
  have same := (reads.doubles (.float row.rate) (by simp [SweepRow.doubles])).2
  change floats.float (csvCell runtime (Number.float row.rate).json) = _
  rw [FloatText.float, same]
  rfl

theorem SweepRow.ReadsBack.throughputOf_eq (reads : row.ReadsBack runtime floats) :
    throughputOf floats (row.cells runtime) = .ok row.throughput :=
  FloatText.floatOrZero_orNone (fun given member =>
    reads.doubles given (by simp [SweepRow.doubles, Option.mem_toList.mp member]))

theorem SweepRow.ReadsBack.failed_eq (reads : row.ReadsBack runtime floats) :
    countOf runtime (row.cells runtime) (str "failed_jobs") =
      .ok (row.analysis.failedJobs.getD 0) :=
  intOrZero_orNone (fun given member =>
    reads.counts given (by simp [SweepRow.counts, Option.mem_toList.mp member]))

theorem SweepRow.ReadsBack.rejected_eq (reads : row.ReadsBack runtime floats) :
    countOf runtime (row.cells runtime) (str "rejected_jobs") =
      .ok (row.analysis.rejectedJobs.getD 0) :=
  intOrZero_orNone (fun given member =>
    reads.counts given (by simp [SweepRow.counts, Option.mem_toList.mp member]))

theorem SweepRow.ReadsBack.errors_eq (reads : row.ReadsBack runtime floats) :
    countOf runtime (row.cells runtime) (str "error_count") = .ok row.errorCount :=
  intOrZero_int (reads.counts row.errorCount (by simp [SweepRow.counts]))

theorem SweepRow.ReadsBack.maxQueue_eq (reads : row.ReadsBack runtime floats) :
    countOf runtime (row.cells runtime) (str "max_queue_length") =
      .ok row.queues.maxQueueLength :=
  intOrZero_int (reads.counts row.queues.maxQueueLength (by simp [SweepRow.counts]))

theorem SweepRow.lookup_maxQueue (runtime : Runtime) (row : SweepRow) :
    (row.cells runtime).lookup (str "max_queue_length") =
      some (csvCell runtime (.int row.queues.maxQueueLength)) := rfl

end Cells

end ImagePipeline.Benchmark
