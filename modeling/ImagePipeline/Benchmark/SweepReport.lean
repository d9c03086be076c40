/-
`sweep_report.py`: the report on one sweep. A report is its lines and the files
of the plots it names; what matplotlib draws is left out.
-/

import ImagePipeline.Benchmark.SweepRows
import ImagePipeline.Library.Itemwise

namespace ImagePipeline.Benchmark.SweepReport

open Common
open Library (mapM_map_ok exists_mapM_ok)

section Report

variable (runtime : Runtime) (floats : FloatText)

def isStable (row : CsvRow) : Except Exn Bool := do
  let rate ← rateOf floats row
  let throughput ← throughputOf floats row
  let failed ← countOf runtime row (str "failed_jobs")
  let rejected ← countOf runtime row (str "rejected_jobs")
  let errors ← countOf runtime row (str "error_count")
  let maxQueue ← intOrZero runtime ((row.lookup (str "max_queue_length")).getD [])
  pure ((rate.mul (.literal 95 100)).le throughput && failed = 0 && rejected = 0 && errors = 0 &&
    maxQueue = 0)

/-- `row.get(key) or ""`. -/
def cell (row : CsvRow) (key : Str) : Str := (row.lookup key).getD []

/-- A cell with its unit, or `n/a` in place of an empty one. -/
def withUnit (unit : Str) (row : CsvRow) (key : Str) : Str :=
  if cell row key = [] then str "n/a" else cell row key ++ unit

def value : CsvRow → Str → Str := withUnit []

def percent : CsvRow → Str → Str := withUnit (str "%")

def seconds : CsvRow → Str → Str := withUnit (str "s")

def floatValues (rows : List CsvRow) (key : Str) : Except Exn (List PyFloat) :=
  rows.mapM (fun row => floats.floatOrZero (cell row key))

/-- `link` is the path of the run's report as seen from the sweep. -/
def runReportLink (link : Str → Str) (row : CsvRow) : Str :=
  let runDir := cell row (str "run_dir")
  if runDir = [] then str "n/a" else str "[report](" ++ link runDir ++ str ")"

def stableRates : List CsvRow → Except Exn (List PyFloat)
  | [] => pure []
  | row :: rest => do
      if ← isStable runtime floats row then
        let rate ← rateOf floats row
        let rates ← stableRates rest
        pure (rate :: rates)
      else stableRates rest

def plotOf (rows : List CsvRow) (first second file : Str) : Except Exn (List Str) :=
  if rows.any (fun row => cell row first ≠ []) || rows.any (fun row => cell row second ≠ []) then do
    let _ ← floatValues floats rows first
    let _ ← floatValues floats rows second
    pure [file]
  else pure []

def tableLine (link : Str → Str) (row : CsvRow) : Except Exn Str := do
  let rate ← row.item (str "rate")
  let throughput ← row.item (str "completed_jobs_per_second")
  let latency ← row.item (str "end_to_end_p95_ms")
  let errors ← row.item (str "error_count")
  let stable ← isStable runtime floats row
  pure (str "| " ++ rate ++ str " | " ++ throughput ++ str " | " ++ latency ++ str " ms | " ++
    percent row (str "avg_cpu_percent") ++ str " | " ++
    value row (str "max_default_queue_length") ++ str " | " ++
    value row (str "max_heavy_queue_length") ++ str " | " ++
    seconds row (str "default_queue_drain_seconds") ++ str " | " ++
    seconds row (str "heavy_queue_drain_seconds") ++ str " | " ++
    percent row (str "avg_default_worker_cpu_percent") ++ str " | " ++
    percent row (str "avg_heavy_worker_cpu_percent") ++ str " | " ++ errors ++ str " | " ++
    (if stable then str "yes" else str "no") ++ str " | " ++ runReportLink link row ++ str " |")

structure Report where
  maxStableRate : Option PyFloat
  plotFiles : List Str
  lines : List Str

def heading (maxStableRate : Option PyFloat) : List Str :=
  [str "# Sweep Report", [],
    str "- Maximum stable tested rate: `" ++
      (match maxStableRate with
        | some rate => runtime.scalarText (.float rate)
        | none => str "n/a") ++ str "` jobs/s",
    [], str "## Results", [],
    str "| Offered Rate | Throughput | p95 Latency | Host CPU | Default Q | Heavy Q | " ++
      str "Default Drain | Heavy Drain | Default Worker CPU | Heavy Worker CPU | Errors | " ++
      str "Stable | Run |",
    str "| ---: | ---: | ---: | ---: | ---: | ---: | ---: | ---: | ---: | ---: | ---: | " ++
      str ":---: | --- |"]

def generateSweepReport (link : Str → Str) (rows : List CsvRow) : Except Exn Report := do
  let _ ← rows.mapM (rateOf floats)
  let _ ← rows.mapM (throughputOf floats)
  let _ ← rows.mapM (fun row => do floats.floatOrZero (← row.item (str "end_to_end_p95_ms")))
  let queuePlot ← plotOf floats rows (str "max_default_queue_length")
    (str "max_heavy_queue_length") (str "queue_vs_rate.png")
  let cpuPlot ← plotOf floats rows (str "avg_default_worker_cpu_percent")
    (str "avg_heavy_worker_cpu_percent") (str "worker_cpu_vs_rate.png")
  let plotFiles :=
    [str "throughput_vs_rate.png", str "latency_vs_rate.png"] ++ queuePlot ++ cpuPlot
  let rates ← stableRates runtime floats rows
  let table ← rows.mapM (tableLine runtime floats link)
  let maxStableRate := PyFloat.maximum? rates
  pure
    { maxStableRate := maxStableRate
      plotFiles := plotFiles
      lines := heading runtime maxStableRate ++ table ++ [[], str "## Plots", []] ++
        plotFiles.map (fun plotFile => str "- `" ++ plotFile ++ str "`") }

end Report

/-! ### The report on written rows -/

variable {runtime : Runtime} {floats : FloatText} {row : SweepRow} {rows : List SweepRow}

def stable (row : SweepRow) : Bool := row.reaches (.literal 95 100) && row.clean

theorem isStable_eq (reads : row.ReadsBack runtime floats) :
    isStable runtime floats (row.cells runtime) = .ok (stable row) := by
  have maxQueue : intOrZero runtime (csvCell runtime (.int row.queues.maxQueueLength)) = _ :=
    reads.maxQueue_eq
  simp only [isStable, reads.rateOf_eq, reads.throughputOf_eq, reads.failed_eq, reads.rejected_eq,
    reads.errors_eq, row.lookup_maxQueue, Option.getD_some, maxQueue, bind, Except.bind, pure,
    Except.pure, stable, SweepRow.clean, SweepRow.reaches, Bool.and_assoc, Int.natCast_eq_zero]

theorem stableRates_eq (reads : ∀ row ∈ rows, row.ReadsBack runtime floats) :
    stableRates runtime floats (rows.map (SweepRow.cells runtime)) =
      .ok ((rows.filter stable).map SweepRow.rate) := by
  induction rows with
  | nil => rfl
  | cons row rest ih =>
      have atRow := reads row List.mem_cons_self
      have later := ih (fun other member => reads other (List.mem_cons_of_mem _ member))
      rw [List.map_cons, stableRates, isStable_eq atRow, later, atRow.rateOf_eq, List.filter_cons]
      cases stable row <;> rfl

theorem plotOf_ok {cells : List CsvRow} {first second : Str} (file : Str)
    (readsFirst : ∀ row ∈ cells, ∃ value, floats.floatOrZero (cell row first) = .ok value)
    (readsSecond : ∀ row ∈ cells, ∃ value, floats.floatOrZero (cell row second) = .ok value) :
    ∃ plot, plotOf floats cells first second file = .ok plot := by
  obtain ⟨values, atFirst⟩ := exists_mapM_ok readsFirst
  obtain ⟨others, atSecond⟩ := exists_mapM_ok readsSecond
  unfold plotOf
  split
  · exact ⟨[file], by rw [floatValues, floatValues, atFirst, atSecond]; rfl⟩
  · exact ⟨[], rfl⟩

theorem tableLine_ok (reads : row.ReadsBack runtime floats) (link : Str → Str) :
    ∃ line, tableLine runtime floats link (row.cells runtime) = .ok line := by
  unfold tableLine
  rw [isStable_eq reads]
  exact ⟨_, rfl⟩

/-- The columns of measurements that the plots read. -/
def plottedKeys : List Str :=
  [str "end_to_end_p95_ms", str "max_default_queue_length", str "max_heavy_queue_length",
    str "avg_default_worker_cpu_percent", str "avg_heavy_worker_cpu_percent"]

theorem plotted_cell {key : Str} (plotted : key ∈ plottedKeys) (runtime : Runtime)
    (row : SweepRow) :
    ∃ given : Option Number,
      cell (row.cells runtime) key = csvCell runtime (orNone Number.json given) ∧
      ∀ number ∈ given.toList, number ∈ row.doubles := by
  have double (average : Option PyFloat) :
      orNone Json.float average = orNone Number.json (average.map .float) := by
    cases average <;> rfl
  unfold plottedKeys at plotted
  simp only [List.mem_cons, List.not_mem_nil, or_false] at plotted
  rcases plotted with rfl | rfl | rfl | rfl | rfl
  · exact ⟨row.analysis.endToEndP95Ms, rfl, by simp +contextual [SweepRow.doubles]⟩
  · exact ⟨some (.int row.queues.maxDefaultQueueLength), rfl, by simp [SweepRow.doubles]⟩
  · exact ⟨some (.int row.queues.maxHeavyQueueLength), rfl, by simp [SweepRow.doubles]⟩
  · exact ⟨row.defaultWorkerCpu.average.map .float, congrArg (csvCell runtime) (double _),
      by simp +contextual [SweepRow.doubles]⟩
  · exact ⟨row.heavyWorkerCpu.average.map .float, congrArg (csvCell runtime) (double _),
      by simp +contextual [SweepRow.doubles]⟩

theorem plotted_reads (reads : ∀ row ∈ rows, row.ReadsBack runtime floats) (key : Str)
    (plotted : key ∈ plottedKeys) :
    ∀ row ∈ rows.map (SweepRow.cells runtime),
      ∃ value, floats.floatOrZero (cell row key) = .ok value := by
  intro cells member
  obtain ⟨row, present, rfl⟩ := List.mem_map.mp member
  obtain ⟨given, written, among⟩ := plotted_cell plotted runtime row
  rw [written]
  exact ⟨_, FloatText.floatOrZero_orNone (fun number known =>
    (reads row present).doubles number (among number known))⟩

theorem generateSweepReport_ok (reads : ∀ row ∈ rows, row.ReadsBack runtime floats)
    (link : Str → Str) :
    (generateSweepReport runtime floats link (rows.map (SweepRow.cells runtime))).map
        Report.maxStableRate =
      .ok (PyFloat.maximum? ((rows.filter stable).map SweepRow.rate)) := by
  have rates := mapM_map_ok (fun row member => (reads row member).rateOf_eq)
  have throughputs := mapM_map_ok (fun row member => (reads row member).throughputOf_eq)
  have latency (cells : CsvRow) (member : cells ∈ rows.map (SweepRow.cells runtime)) :
      ∃ value, (do floats.floatOrZero (← cells.item (str "end_to_end_p95_ms"))) = .ok value := by
    have plotted := plotted_reads reads (str "end_to_end_p95_ms") (by decide) cells member
    obtain ⟨row, present, rfl⟩ := List.mem_map.mp member
    exact plotted
  obtain ⟨latencies, readLatencies⟩ := exists_mapM_ok latency
  obtain ⟨queuePlot, queuePlotted⟩ := plotOf_ok (str "queue_vs_rate.png")
    (plotted_reads reads (str "max_default_queue_length") (by decide))
    (plotted_reads reads (str "max_heavy_queue_length") (by decide))
  obtain ⟨cpuPlot, cpuPlotted⟩ := plotOf_ok (str "worker_cpu_vs_rate.png")
    (plotted_reads reads (str "avg_default_worker_cpu_percent") (by decide))
    (plotted_reads reads (str "avg_heavy_worker_cpu_percent") (by decide))
  have line (cells : CsvRow) (member : cells ∈ rows.map (SweepRow.cells runtime)) :
      ∃ line, tableLine runtime floats link cells = .ok line := by
    obtain ⟨row, present, rfl⟩ := List.mem_map.mp member
    exact tableLine_ok (reads row present) link
  obtain ⟨table, lines⟩ := exists_mapM_ok line
  rw [generateSweepReport, rates, throughputs, readLatencies, queuePlotted, cpuPlotted,
    stableRates_eq reads, lines]
  rfl

end ImagePipeline.Benchmark.SweepReport
