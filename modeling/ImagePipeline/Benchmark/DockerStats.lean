/-
`docker_stats.csv`: what `DockerMonitor` takes from the output of `docker stats`,
and what `analyze_results.py` and `sweep_runner.py` make of the rows of a file.
-/

import ImagePipeline.Benchmark.ErrorTimeline
import ImagePipeline.Benchmark.HostStats
import Mathlib.Data.Finset.Card

namespace ImagePipeline.Benchmark

open Common
open Library (bind_ok_iff exists_mem_of_mem_right groupBy mapM_ok_iff)

/-! ### `_collect_docker_stats` -/

/-- `value.replace("%", "").strip()`. -/
def cleanPercent (value : Str) : Str := strip (value.filter (· ≠ codePoint '%'))

/-- The text before the first slash and the one behind it. -/
def splitPair (value : Str) : Str × Str :=
  if codePoint '/' ∈ value then
    (strip (value.takeWhile (· ≠ codePoint '/')),
      strip ((value.dropWhile (· ≠ codePoint '/')).tail))
  else (strip value, [])

/-- `clean_percent` and `split_pair` of what is no text: only lists and
dictionaries can be searched for a slash. -/
def textOf (searched : Bool) : Json → Except LogError Str
  | .str text => .ok text
  | .arr _ | .obj _ => .error .attributeError
  | _ => .error (if searched then .typeError else .attributeError)

/-- A row of `docker_stats.csv`, before its values are written as text. -/
structure DockerRow where
  timestamp : Str
  node : Str
  container : Json
  cpuPercent : Str
  memoryPercent : Str
  memory : Str × Str
  network : Str × Str
  block : Str × Str
  pids : Json

section Collecting

variable (runtime : LogRuntime)

def dockerRow (timestamp node : Str) (stats : Dict) : Except LogError DockerRow := do
  let blank : Json := .str []
  let memory ← textOf true (Dict.getD stats (str "MemUsage") blank)
  let network ← textOf true (Dict.getD stats (str "NetIO") blank)
  let block ← textOf true (Dict.getD stats (str "BlockIO") blank)
  let cpuPercent ← textOf false (Dict.getD stats (str "CPUPerc") blank)
  let memoryPercent ← textOf false (Dict.getD stats (str "MemPerc") blank)
  pure
    { timestamp
      node
      container := Dict.getD stats (str "Name") blank
      cpuPercent := cleanPercent cpuPercent
      memoryPercent := cleanPercent memoryPercent
      memory := splitPair memory
      network := splitPair network
      block := splitPair block
      pids := Dict.getD stats (str "PIDs") blank }

/-- The body of the loop over the lines of the output. -/
def dockerLine (timestamp node line : Str) : Except LogError (Option DockerRow) :=
  if strip line = [] then .ok none
  else do
    match ← loadPayload runtime line with
    | .notJson => pure none
    | .value (.obj stats) => pure (some (← dockerRow timestamp node stats))
    | .value _ => .error .attributeError

def collectDockerStats (timestamp node : Str) (returncode : Int) (stdout : Str) :
    Except LogError (List DockerRow) :=
  if returncode ≠ 0 then .ok []
  else do
    let rows ← (splitLines stdout).mapM (dockerLine runtime timestamp node)
    pure (rows.filterMap id)

/-- One sampling of the monitor: when it began, and what `docker stats` gave. -/
structure DockerSampling where
  timestamp : Str
  returncode : Int
  stdout : Str

def dockerRows (node : Str) : List DockerSampling → List DockerRow
  | [] => []
  | sampling :: rest =>
      match collectDockerStats runtime sampling.timestamp node sampling.returncode
          sampling.stdout with
      | .ok rows => rows ++ dockerRows node rest
      | .error _ => []

section Collected

variable {runtime} {timestamp node : Str} {row : DockerRow}

theorem dockerRow_node {stats : Dict}
    (collected : dockerRow timestamp node stats = .ok row) : row.node = node := by
  unfold dockerRow at collected
  obtain ⟨memory, _, collected⟩ := bind_ok_iff.mp collected
  obtain ⟨network, _, collected⟩ := bind_ok_iff.mp collected
  obtain ⟨block, _, collected⟩ := bind_ok_iff.mp collected
  obtain ⟨cpuPercent, _, collected⟩ := bind_ok_iff.mp collected
  obtain ⟨memoryPercent, _, collected⟩ := bind_ok_iff.mp collected
  cases collected
  rfl

theorem dockerLine_node {line : Str}
    (collected : dockerLine runtime timestamp node line = .ok (some row)) : row.node = node := by
  unfold dockerLine at collected
  by_cases blank : strip line = []
  · rw [if_pos blank] at collected
    cases collected
  · rw [if_neg blank] at collected
    obtain ⟨payload, _, collected⟩ := bind_ok_iff.mp collected
    cases payload with
    | notJson => cases collected
    | value payload =>
        cases payload with
        | obj stats =>
            obtain ⟨read, same, collected⟩ := bind_ok_iff.mp collected
            cases collected
            exact dockerRow_node same
        | _ => cases collected

theorem collectDockerStats_node {returncode : Int} {stdout : Str} {rows : List DockerRow}
    (collected : collectDockerStats runtime timestamp node returncode stdout = .ok rows)
    (member : row ∈ rows) : row.node = node := by
  unfold collectDockerStats at collected
  by_cases failed : returncode ≠ 0
  · rw [if_pos failed] at collected
    cases collected
    cases member
  · rw [if_neg failed] at collected
    obtain ⟨read, mapped, kept⟩ := bind_ok_iff.mp collected
    cases kept
    have inside : some row ∈ read := by simpa using member
    obtain ⟨line, _, same⟩ := exists_mem_of_mem_right (mapM_ok_iff.mp mapped) inside
    exact dockerLine_node same

/-- Every row that the monitor writes names its node. -/
theorem dockerRows_node {samplings : List DockerSampling}
    (member : row ∈ dockerRows runtime node samplings) : row.node = node := by
  induction samplings with
  | nil => cases member
  | cons sampling rest ih =>
      unfold dockerRows at member
      split at member
      · rename_i rows collected
        rcases List.mem_append.mp member with here | later
        · exact collectDockerStats_node collected here
        · exact ih later
      · cases member

end Collected

def DockerRow.cells (row : DockerRow) : List Str :=
  [row.timestamp, row.node, cellText runtime row.container, row.cpuPercent, row.memoryPercent,
    row.memory.1, row.memory.2, row.network.1, row.network.2, row.block.1, row.block.2,
    cellText runtime row.pids]

end Collecting

/-! ### The analyses -/

structure ContainerSummary where
  avgCpuPercent : Option PyFloat
  maxCpuPercent : Option PyFloat
  avgMemoryPercent : Option PyFloat
  maxMemoryPercent : Option PyFloat
  sampleCount : Nat

/-- `row.get("container", default)`. -/
def containerOf (default : Str) (row : CsvRow) : Str :=
  (row.lookup (str "container")).getD default

section Analyses

variable (floats : FloatText)

def summarizeContainer (rows : List CsvRow) : Except Exn ContainerSummary := do
  let cpuValues ← columnValues floats rows (str "cpu_percent")
  let memoryValues ← columnValues floats rows (str "memory_percent")
  let avgCpu ← statistic mean cpuValues
  let maxCpu ← statistic maxFloat cpuValues
  let avgMemory ← statistic mean memoryValues
  let maxMemory ← statistic maxFloat memoryValues
  pure
    { avgCpuPercent := avgCpu
      maxCpuPercent := maxCpu
      avgMemoryPercent := avgMemory
      maxMemoryPercent := maxMemory
      sampleCount := max cpuValues.length memoryValues.length }

def summarizeDockerStats (rows : List CsvRow) : Except Exn (List (Str × ContainerSummary)) :=
  (groupBy (containerOf (str "unknown")) rows).mapM (fun group => do
    let summary ← summarizeContainer floats group.2
    pure (group.1, summary))

def summarizeDockerStatsByNode (rows : List CsvRow) :
    Except Exn (List (Str × List (Str × ContainerSummary))) :=
  (groupRowsByNode rows).mapM (fun group => do
    let summary ← summarizeDockerStats floats group.2
    pure (group.1, summary))

def workerMarkers (workerType : Str) : List Str :=
  [str "worker-" ++ workerType, str "image-pipeline-worker-" ++ workerType,
    str "docker-worker-" ++ workerType]

def isMarked (markers : List Str) (container : Str) : Bool :=
  markers.any (fun marker => decide (marker <:+: container))

/-- The set `containers`. -/
def workerContainers (rows : List CsvRow) (workerType : Str) : Finset Str :=
  ((rows.map (containerOf [])).filter (isMarked (workerMarkers workerType))).toFinset

def countWorkerContainers (rows : List CsvRow) (workerType : Str) : Nat :=
  (workerContainers rows workerType).card

/-- `worker_cpu_metrics` of `sweep_runner.py`, which passes over blank values only. -/
def workerCpuMetrics (rows : List CsvRow) (workerType : Str) : Except Exn WorkerCpu := do
  let marker := str "worker-" ++ workerType
  let marked := rows.filter (fun row => decide (marker <:+: containerOf [] row) &&
    decide ((row.lookup (str "cpu_percent")).getD [] ≠ []))
  let cpuValues ← marked.mapM (fun row => do floats.float (← row.item (str "cpu_percent")))
  let average ← statistic mean cpuValues
  let maximum ← statistic maxFloat cpuValues
  pure
    { average
      maximum }

end Analyses

end ImagePipeline.Benchmark
