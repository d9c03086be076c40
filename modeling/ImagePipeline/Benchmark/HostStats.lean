/-
`host_stats.csv`: what `DockerMonitor` writes into a row, and what
`analyze_results.py` makes of the merged rows of all nodes.
-/

import ImagePipeline.Benchmark.SweepRows
import ImagePipeline.Library.Groups
import ImagePipeline.Library.Itemwise

namespace ImagePipeline.Benchmark

open Common
open Library (groupBy)

structure HostSample where
  time : Int
  node : Str
  cpuPercent : PyFloat
  memoryPercent : PyFloat
  memoryUsed : Nat
  memoryTotal : Nat
  load : Option (PyFloat × PyFloat × PyFloat)
  disk : Option (Nat × Nat)
  network : Option (Nat × Nat)

/-- A value, or the blank in its place. -/
def orBlank {α : Type} (json : α → Json) (value : Option α) : Json :=
  match value with
  | some value => json value
  | none => .str []

/-- The dictionary of `_collect_host_stats`. -/
def HostSample.dict (clock : Clock) (sample : HostSample) : Dict :=
  [(str "timestamp", .str (clock.isoFormat sample.time)),
    (str "node", .str sample.node),
    (str "cpu_percent", .float sample.cpuPercent),
    (str "memory_percent", .float sample.memoryPercent),
    (str "memory_used_bytes", .int sample.memoryUsed),
    (str "memory_total_bytes", .int sample.memoryTotal),
    (str "load_1m", orBlank (fun load => .float load.1) sample.load),
    (str "load_5m", orBlank (fun load => .float load.2.1) sample.load),
    (str "load_15m", orBlank (fun load => .float load.2.2) sample.load),
    (str "disk_read_bytes", orBlank (fun disk => .int disk.1) sample.disk),
    (str "disk_write_bytes", orBlank (fun disk => .int disk.2) sample.disk),
    (str "network_bytes_sent", orBlank (fun network => .int network.1) sample.network),
    (str "network_bytes_recv", orBlank (fun network => .int network.2) sample.network)]

def HostSample.cells (runtime : Runtime) (clock : Clock) (sample : HostSample) : CsvRow :=
  (sample.dict clock).map (fun field => (field.1, csvCell runtime field.2))

/-- `statistics.mean` of floats: the exact sum, divided and rounded once. -/
def mean (values : List PyFloat) : Except Exn PyFloat :=
  if values = [] then .error .valueError
  else if .nan ∈ values ∨ (.infinity true ∈ values ∧ .infinity false ∈ values) then .ok .nan
  else if .infinity true ∈ values then .ok (.infinity true)
  else if .infinity false ∈ values then .ok (.infinity false)
  else .ok (.ofRat ((values.map PyFloat.toRat).sum / values.length))

/-- `max(values)`. -/
def maxFloat (values : List PyFloat) : Except Exn PyFloat :=
  match PyFloat.maximum? values with
  | some value => .ok value
  | none => .error .valueError

/-- `round(compute(values), 2) if values else None`. -/
def statistic (compute : List PyFloat → Except Exn PyFloat) (values : List PyFloat) :
    Except Exn (Option PyFloat) :=
  if values = [] then .ok none else (compute values).map (fun value => some (value.round 2))

structure HostSummary where
  avgCpuPercent : Option PyFloat
  maxCpuPercent : Option PyFloat
  avgMemoryPercent : Option PyFloat
  maxMemoryPercent : Option PyFloat
  avgLoad1m : Option PyFloat
  maxLoad1m : Option PyFloat
  sampleCount : Nat

/-- The bytes between the first and the last row of a node. -/
structure HostIo where
  diskReadBytesDelta : PyFloat
  diskWriteBytesDelta : PyFloat
  networkBytesSentDelta : PyFloat
  networkBytesRecvDelta : PyFloat

section Analyses

variable (floats : FloatText)

/-- `to_float(value)`: a text that is no number is taken for a missing one. -/
def toFloat (value : Option Str) : Except Exn (Option PyFloat) :=
  match value with
  | none | some [] => .ok none
  | some text =>
      match floats.float text with
      | .ok value => .ok (some value)
      | .error .valueError => .ok none
      | .error raised => .error raised

def columnValues (rows : List CsvRow) (key : Str) : Except Exn (List PyFloat) := do
  let values ← rows.mapM (fun row => toFloat floats (row.lookup key))
  pure (values.filterMap id)

/-- `none` is the empty dictionary. -/
def summarizeHostStats (rows : List CsvRow) : Except Exn (Option HostSummary) :=
  if rows = [] then .ok none
  else do
    let cpuValues ← columnValues floats rows (str "cpu_percent")
    let memoryValues ← columnValues floats rows (str "memory_percent")
    let loadValues ← columnValues floats rows (str "load_1m")
    let avgCpu ← statistic mean cpuValues
    let maxCpu ← statistic maxFloat cpuValues
    let avgMemory ← statistic mean memoryValues
    let maxMemory ← statistic maxFloat memoryValues
    let avgLoad ← statistic mean loadValues
    let maxLoad ← statistic maxFloat loadValues
    pure (some
      { avgCpuPercent := avgCpu
        maxCpuPercent := maxCpu
        avgMemoryPercent := avgMemory
        maxMemoryPercent := maxMemory
        avgLoad1m := avgLoad
        maxLoad1m := maxLoad
        sampleCount := rows.length })

/-- `row.get("node") or "unknown"`. -/
def nodeOrUnknown (row : CsvRow) : Str :=
  match row.lookup (str "node") with
  | none | some [] => str "unknown"
  | some node => node

def groupRowsByNode (rows : List CsvRow) : List (Str × List CsvRow) := groupBy nodeOrUnknown rows

def summarizeHostStatsByNode (rows : List CsvRow) : Except Exn (List (Str × Option HostSummary)) :=
  (groupRowsByNode rows).mapM (fun group => do
    let summary ← summarizeHostStats floats group.2
    pure (group.1, summary))

/-- `node_rows.sort(key=lambda row: row["timestamp"])`. -/
def sortByTimestamp (rows : List CsvRow) : Except Exn (List CsvRow) := do
  let keyed ← rows.mapM (fun row => do
    let timestamp ← row.item (str "timestamp")
    pure (timestamp, row))
  pure ((sortFields keyed).map Prod.snd)

/-- `float(last[key]) - float(first[key])`. -/
def counterDelta (first last : CsvRow) (key : Str) : Except Exn PyFloat := do
  let lastValue ← floats.float (← last.item key)
  let firstValue ← floats.float (← first.item key)
  pure (lastValue.sub firstValue)

def hostIoBetween (first last : CsvRow) : Except Exn HostIo := do
  let diskRead ← counterDelta floats first last (str "disk_read_bytes")
  let diskWrite ← counterDelta floats first last (str "disk_write_bytes")
  let networkSent ← counterDelta floats first last (str "network_bytes_sent")
  let networkRecv ← counterDelta floats first last (str "network_bytes_recv")
  pure
    { diskReadBytesDelta := diskRead
      diskWriteBytesDelta := diskWrite
      networkBytesSentDelta := networkSent
      networkBytesRecvDelta := networkRecv }

/-- The body of the loop of `summarize_host_io_by_node`. -/
def hostIoOfNode (rows : List CsvRow) : Except Exn HostIo := do
  match ← sortByTimestamp rows with
  | [] => .error .other
  | first :: rest => hostIoBetween floats first ((first :: rest).getLast (List.cons_ne_nil _ _))

def summarizeHostIoByNode (rows : List CsvRow) : Except Exn (List (Str × HostIo)) :=
  (groupBy (fun row => (row.lookup (str "node")).getD (str "unknown")) rows).mapM
    (fun group => do
      let io ← hostIoOfNode floats group.2
      pure (group.1, io))

end Analyses

/-! ### The summaries of the loads never raise -/

variable (floats : FloatText)

theorem toFloat_returns (value : Option Str) : ∃ result, toFloat floats value = .ok result := by
  unfold toFloat FloatText.float
  split
  · exact ⟨none, rfl⟩
  · exact ⟨none, rfl⟩
  · cases floats.floatOfStr _ with
    | none => exact ⟨none, rfl⟩
    | some number => exact ⟨some number, rfl⟩

theorem columnValues_returns (rows : List CsvRow) (key : Str) :
    ∃ values, columnValues floats rows key = .ok values := by
  have each : ∀ row ∈ rows, ∃ value, toFloat floats (row.lookup key) = .ok value :=
    fun row _ => toFloat_returns floats (row.lookup key)
  obtain ⟨values, mapped⟩ := Library.exists_mapM_ok each
  refine ⟨values.filterMap id, ?_⟩
  unfold columnValues
  rw [mapped]
  rfl

theorem mean_returns {values : List PyFloat} (some : values ≠ []) :
    ∃ value, mean values = .ok value := by
  unfold mean
  rw [if_neg some]
  split_ifs <;> exact ⟨_, rfl⟩

theorem maxFloat_returns {values : List PyFloat} (some : values ≠ []) :
    ∃ value, maxFloat values = .ok value := by
  cases values with
  | nil => exact absurd rfl some
  | cons first rest => exact ⟨_, rfl⟩

theorem statistic_returns {compute : List PyFloat → Except Exn PyFloat}
    (returns : ∀ values, values ≠ [] → ∃ value, compute values = .ok value)
    (values : List PyFloat) : ∃ value, statistic compute values = .ok value := by
  unfold statistic
  by_cases empty : values = []
  · rw [if_pos empty]
    exact ⟨none, rfl⟩
  · rw [if_neg empty]
    obtain ⟨value, computed⟩ := returns values empty
    rw [computed]
    exact ⟨_, rfl⟩

theorem summarizeHostStats_returns (rows : List CsvRow) :
    ∃ summary, summarizeHostStats floats rows = .ok summary := by
  unfold summarizeHostStats
  by_cases empty : rows = []
  · rw [if_pos empty]
    exact ⟨none, rfl⟩
  · rw [if_neg empty]
    obtain ⟨cpu, cpuRead⟩ := columnValues_returns floats rows (str "cpu_percent")
    obtain ⟨memory, memoryRead⟩ := columnValues_returns floats rows (str "memory_percent")
    obtain ⟨load, loadRead⟩ := columnValues_returns floats rows (str "load_1m")
    have averages (values : List PyFloat) := statistic_returns (fun _ => mean_returns) values
    have maxima (values : List PyFloat) := statistic_returns (fun _ => maxFloat_returns) values
    obtain ⟨avgCpu, avgCpuIs⟩ := averages cpu
    obtain ⟨maxCpu, maxCpuIs⟩ := maxima cpu
    obtain ⟨avgMemory, avgMemoryIs⟩ := averages memory
    obtain ⟨maxMemory, maxMemoryIs⟩ := maxima memory
    obtain ⟨avgLoad, avgLoadIs⟩ := averages load
    obtain ⟨maxLoad, maxLoadIs⟩ := maxima load
    rw [cpuRead, memoryRead, loadRead]
    simp only [bind, Except.bind, avgCpuIs, maxCpuIs, avgMemoryIs, maxMemoryIs, avgLoadIs,
      maxLoadIs]
    exact ⟨_, rfl⟩

theorem summarizeHostStatsByNode_returns (rows : List CsvRow) :
    ∃ summary, summarizeHostStatsByNode floats rows = .ok summary := by
  apply Library.exists_mapM_ok
  intro group _
  obtain ⟨summary, summarized⟩ := summarizeHostStats_returns floats group.2
  rw [summarized]
  exact ⟨_, rfl⟩

end ImagePipeline.Benchmark
