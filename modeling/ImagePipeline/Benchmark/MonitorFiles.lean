/-
The CSV files that the monitors and the timelines write: the field names of each
and its rows.
-/

import ImagePipeline.Benchmark.ClusterMain
import ImagePipeline.Benchmark.ClusterRunner
import ImagePipeline.Benchmark.CsvFiles
import ImagePipeline.Benchmark.DockerStats
import ImagePipeline.Benchmark.NodeConfig
import ImagePipeline.Benchmark.ThroughputTimeline

namespace ImagePipeline.Benchmark

open Common
open Library (setEntries setEntries_append lookup_setEntries_of_values)

def hostFieldnames : List Str :=
  [str "timestamp", str "node", str "cpu_percent", str "memory_percent", str "memory_used_bytes",
    str "memory_total_bytes", str "load_1m", str "load_5m", str "load_15m", str "disk_read_bytes",
    str "disk_write_bytes", str "network_bytes_sent", str "network_bytes_recv"]

def dockerFieldnames : List Str :=
  [str "timestamp", str "node", str "container", str "cpu_percent", str "memory_percent",
    str "memory_used", str "memory_limit", str "network_in", str "network_out", str "block_in",
    str "block_out", str "pids"]

def queueFieldnames : List Str :=
  [str "timestamp", str "node", str "default_queue_length", str "heavy_queue_length"]

def errorFieldnames : List Str :=
  [str "timestamp", str "node", str "container", str "event", str "job_id", str "message"]

def throughputFieldnames : List Str := [str "timestamp", str "completed_jobs"]

def hostTable (runtime : Runtime) (clock : Clock) (samples : List HostSample) : CsvTable :=
  { fieldnames := hostFieldnames
    rows := samples.map (fun sample => (sample.cells runtime clock).map Prod.snd)
    named := List.cons_ne_nil _ _
    distinct := by decide
    widths := by
      intro row member
      obtain ⟨sample, _, rfl⟩ := List.mem_map.mp member
      rfl }

def dockerTable (runtime : LogRuntime) (rows : List DockerRow) : CsvTable :=
  { fieldnames := dockerFieldnames
    rows := rows.map (DockerRow.cells runtime)
    named := List.cons_ne_nil _ _
    distinct := by decide
    widths := by
      intro row member
      obtain ⟨source, _, rfl⟩ := List.mem_map.mp member
      rfl }

def queueTable (clock : Clock) (samples : List Sample) : CsvTable :=
  { fieldnames := queueFieldnames
    rows := samples.map (fun sample =>
      (sample.row clock).timestamp :: (sample.row clock).columns.map Prod.snd)
    named := List.cons_ne_nil _ _
    distinct := by decide
    widths := by
      intro row member
      obtain ⟨sample, _, rfl⟩ := List.mem_map.mp member
      rfl }

def errorTable (runtime : LogRuntime) (rows : List ErrorRow) : CsvTable :=
  { fieldnames := errorFieldnames
    rows := rows.map (ErrorRow.cells runtime)
    named := List.cons_ne_nil _ _
    distinct := by decide
    widths := by
      intro row member
      obtain ⟨source, _, rfl⟩ := List.mem_map.mp member
      rfl }

def throughputTable (rows : List ThroughputRow) : CsvTable :=
  { fieldnames := throughputFieldnames
    rows := rows.map (fun row => [row.timestamp, natDigits row.completedJobs])
    named := List.cons_ne_nil _ _
    distinct := by decide
    widths := by
      intro row member
      obtain ⟨source, _, rfl⟩ := List.mem_map.mp member
      rfl }

/-! ### The monitors of a cluster -/

/-- What the monitors of the nodes find, by the name of the node. -/
structure Monitored where
  host : Str → List HostSample
  docker : Str → List DockerSampling
  queue : Str → List Sample

section Cluster

variable (runtime : Runtime) (logs : LogRuntime) (clock : Clock)

def Monitored.hostTable (monitored : Monitored) (name : Str) : CsvTable :=
  Benchmark.hostTable runtime clock
    ((monitored.host name).map (fun sample => { sample with node := name }))

def Monitored.dockerTable (monitored : Monitored) (name : Str) : CsvTable :=
  Benchmark.dockerTable logs (dockerRows logs name (monitored.docker name))

def Monitored.queueTable (monitored : Monitored) (name : Str) : CsvTable :=
  Benchmark.queueTable clock
    ((monitored.queue name).map (fun sample => { sample with node := name }))

/-- `run_dir / "nodes" / node.name / filename`. -/
def nodePath (runDir : Path) (name filename : Str) : Path :=
  ((runDir.join (str "nodes")).join name).join filename

/-- The directories of the nodes hold what their monitors have written. -/
structure Monitored.Downloaded (monitored : Monitored) (cluster : ClusterConfig) (runDir : Path)
    (files : Path → Option Str) : Prop where
  host : ∀ node ∈ cluster.nodes, files (nodePath runDir node.name (str "host_stats.csv")) =
    some (monitored.hostTable runtime clock node.name).text
  docker : ∀ node ∈ cluster.nodes, files (nodePath runDir node.name (str "docker_stats.csv")) =
    some (monitored.dockerTable logs node.name).text
  queue : ∀ node ∈ cluster.nodes, files (nodePath runDir node.name (str "queue_stats.csv")) =
    some (monitored.queueTable clock node.name).text

/-- The nodes hold what their monitors have written, by the names of the files. -/
structure Monitored.Written (monitored : Monitored) (cluster : ClusterConfig)
    (remote : Str → Str → Option Str) : Prop where
  host : ∀ node ∈ cluster.nodes, remote node.name (str "host_stats.csv") =
    some (monitored.hostTable runtime clock node.name).text
  docker : ∀ node ∈ cluster.nodes, remote node.name (str "docker_stats.csv") =
    some (monitored.dockerTable logs node.name).text
  queue : ∀ node ∈ cluster.nodes, remote node.name (str "queue_stats.csv") =
    some (monitored.queueTable clock node.name).text

end Cluster

/-- Nothing comes of it if a CSV file cannot be downloaded. -/
def downloadFile (remote : Str → Str → Option Str) (runDir : Path) (name : Str) (disk : Disk)
    (filename : Str) : Option Disk :=
  match remote name filename with
  | some text => some (disk.write (nodePath runDir name filename) text)
  | none => if (str ".csv").isSuffixOf filename then none else some disk

/-- The disk after `download_node_results`. -/
def downloadNodeResults (remote : Str → Str → Option Str) (cluster : ClusterConfig)
    (runDir : Path) (disk : Disk) : Option Disk :=
  cluster.nodes.foldlM (fun disk node =>
    ClusterMain.filenames.foldlM (downloadFile remote runDir node.name) disk) disk

/-- The files of a run that are merged from those of the nodes. -/
structure MetricFiles where
  hostStats : Str
  dockerStats : Str
  queueStats : Str

def nodeInputs (cluster : ClusterConfig) (runDir : Path) (files : Path → Option Str)
    (filename : Str) : List InputFile :=
  cluster.nodes.map (fun node =>
    { path := (nodePath runDir node.name filename).text
      text := files (nodePath runDir node.name filename) })

def mergeNodeResults (cluster : ClusterConfig) (runDir : Path) (files : Path → Option Str) :
    Except MergeError MetricFiles := do
  let inputs := nodeInputs cluster runDir files
  let hostStats ← mergeCsvFiles (inputs (str "host_stats.csv")) (str "host_stats.csv")
  let dockerStats ← mergeCsvFiles (inputs (str "docker_stats.csv")) (str "docker_stats.csv")
  let queueStats ← mergeCsvFiles (inputs (str "queue_stats.csv")) (str "queue_stats.csv")
  pure
    { hostStats
      dockerStats
      queueStats }

/-! ### What is downloaded is there -/

section Downloading

variable {remote : Str → Str → Option Str} {cluster : ClusterConfig} {runDir : Path} {disk : Disk}

/-- The files of a node that are there to be downloaded, by their places. -/
def downloads (remote : Str → Str → Option Str) (runDir : Path) (disk : Disk)
    (filenames : List Str) (name : Str) : List (List Str × Str) :=
  filenames.filterMap (fun filename => (remote name filename).map (fun text =>
    (disk.place (nodePath runDir name filename), text)))

theorem downloadFiles_eq {name : Str} {filenames : List Str}
    (complete : ∀ filename ∈ filenames, (str ".csv").isSuffixOf filename = true →
      (remote name filename).isSome = true) (files : List (List Str × Str)) :
    filenames.foldlM (downloadFile remote runDir name) { disk with files } =
      some { disk with
        files := setEntries (downloads remote runDir disk filenames name) files } := by
  induction filenames generalizing files with
  | nil => rfl
  | cons filename rest ih =>
      have later := ih fun other member => complete other (List.mem_cons_of_mem _ member)
      rw [List.foldlM_cons, downloads, List.filterMap_cons, downloadFile]
      cases found : remote name filename with
      | some text => exact later _
      | none =>
          have noCsv : ¬ (str ".csv").isSuffixOf filename = true := by
            intro csv
            have there := complete filename List.mem_cons_self csv
            rw [found] at there
            cases there
          dsimp only
          rw [if_neg noCsv]
          exact later files

theorem downloadNodeResults_eq
    (complete : ∀ node ∈ cluster.nodes, ∀ filename ∈ ClusterMain.filenames,
      (str ".csv").isSuffixOf filename = true → (remote node.name filename).isSome = true) :
    downloadNodeResults remote cluster runDir disk =
      some { disk with
        files := setEntries (cluster.nodes.flatMap (fun node =>
          downloads remote runDir disk ClusterMain.filenames node.name)) disk.files } := by
  have all (nodes : List NodeConfig) (subset : nodes ⊆ cluster.nodes)
      (files : List (List Str × Str)) :
      nodes.foldlM (fun disk node =>
        ClusterMain.filenames.foldlM (downloadFile remote runDir node.name) disk)
          { disk with files } =
      some { disk with
        files := setEntries (nodes.flatMap (fun node =>
          downloads remote runDir disk ClusterMain.filenames node.name)) files } := by
    induction nodes generalizing files with
    | nil => rfl
    | cons node rest ih =>
        rw [List.cons_subset] at subset
        have here : ClusterMain.filenames.foldlM (downloadFile remote runDir node.name)
            { disk with files } = some _ := downloadFiles_eq (complete node subset.1) files
        rw [List.foldlM_cons, here, List.flatMap_cons, setEntries_append]
        exact ih subset.2 _
  exact all cluster.nodes (List.Subset.refl _) disk.files

theorem place_nodePath {name filename : Str} (named : FileName name) (file : FileName filename) :
    disk.place (nodePath runDir name filename) =
      disk.place (runDir.join (str "nodes")) ++ [name, filename] := by
  unfold nodePath
  rw [file.place, named.place, List.append_assoc]
  rfl

theorem fileName_of_download : ∀ filename ∈ ClusterMain.filenames, FileName filename := by
  have all : ClusterMain.filenames.all (fun filename => filename ≠ [] ∧
      (filename ≠ str "." ∧ filename ≠ str "..") ∧ slash ∉ filename ∧
      codePoint '\x00' ∉ filename ∧ encodable filename = true ∧
      (encodeUtf8 filename).length ≤ 251) = true := by decide +kernel
  intro filename member
  obtain ⟨filled, proper, undivided, unterminated, encodes, short⟩ :=
    of_decide_eq_true (List.all_eq_true.mp all filename member)
  exact ⟨filled, proper, undivided, unterminated, encodes, short⟩

theorem read_downloaded {after : Disk} (names : ∀ node ∈ cluster.nodes, FileName node.name)
    (complete : ∀ node ∈ cluster.nodes, ∀ filename ∈ ClusterMain.filenames,
      (str ".csv").isSuffixOf filename = true → (remote node.name filename).isSome = true)
    (downloaded : downloadNodeResults remote cluster runDir disk = some after)
    {node : NodeConfig} (member : node ∈ cluster.nodes) {filename text : Str}
    (isFile : filename ∈ ClusterMain.filenames) (there : remote node.name filename = some text) :
    after.read (nodePath runDir node.name filename) = some text := by
  rw [downloadNodeResults_eq complete] at downloaded
  obtain rfl := Option.some.inj downloaded
  apply lookup_setEntries_of_values
  · refine List.mem_map.mpr ⟨(disk.place (nodePath runDir node.name filename), text), ?_, rfl⟩
    refine List.mem_flatMap.mpr ⟨node, member, List.mem_filterMap.mpr ⟨filename, isFile, ?_⟩⟩
    rw [there]
    rfl
  · intro file written same
    obtain ⟨other, otherMember, here⟩ := List.mem_flatMap.mp written
    obtain ⟨otherFilename, otherIsFile, found⟩ := List.mem_filterMap.mp here
    obtain ⟨otherText, otherThere, rfl⟩ := Option.map_eq_some_iff.mp found
    have places : disk.place (nodePath runDir other.name otherFilename) =
        disk.place (nodePath runDir node.name filename) := same
    rw [place_nodePath (names other otherMember) (fileName_of_download _ otherIsFile),
      place_nodePath (names node member) (fileName_of_download _ isFile)] at places
    have parts := List.append_cancel_left places
    rw [List.cons.injEq, List.singleton_inj] at parts
    rw [parts.1, parts.2, there] at otherThere
    exact (Option.some.inj otherThere).symm

end Downloading

end ImagePipeline.Benchmark
