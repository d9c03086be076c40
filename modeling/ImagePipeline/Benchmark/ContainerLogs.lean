/-
What the services print, and how it gets into the log files of a run: `log_event`
of the API and of the workers, the lines of `docker logs --timestamps`, and
`collect_remote_container_logs`.
-/

import ImagePipeline.Benchmark.CsvFiles
import ImagePipeline.Benchmark.LogLines
import ImagePipeline.Benchmark.RunDirectory
import ImagePipeline.Common.JsonLayout

namespace ImagePipeline.Benchmark

open Common
open Library (setEntries setEntries_append setEntries_of_fresh)

/-- What a container prints on one line: an event, or anything else. -/
inductive Output where
  | event (name : Str) (fields : Dict)
  | text (line : Str)

/-- `json.dumps({"event": event, **fields}, default=str)`. -/
def logEvent (runtime : Runtime) (event : Str) (fields : Dict) : Str :=
  JsonLayout.oneLine.dumps runtime (.obj ((str "event", .str event) :: fields))

def Output.line (runtime : Runtime) : Output → Str
  | .event name fields => logEvent runtime name fields
  | .text line => line

/-- A line with the time at which docker got it. -/
structure DockerLine where
  timestamp : Str
  output : Output

namespace DockerLine

variable (runtime : Runtime)

def text (line : DockerLine) : Str :=
  line.timestamp ++ codePoint ' ' :: line.output.line runtime

end DockerLine

/-- `docker logs --timestamps`. -/
def dockerLogs (runtime : Runtime) (lines : List DockerLine) : Str :=
  lines.flatMap (fun line => line.text runtime ++ [codePoint '\n'])

structure Container where
  name : Str
  stdout : List DockerLine
  stderr : List DockerLine

/-- A node of the cluster; without containers if `docker ps` fails there. -/
structure RemoteNode where
  name : Str
  containers : Option (List Container)

def shouldCollectContainerLogs (containerName : Str) : Bool :=
  (str "image-pipeline-").isPrefixOf containerName ||
    (str "docker-worker-").isPrefixOf containerName

/-- The containers of a node whose logs are collected. -/
def RemoteNode.collected (node : RemoteNode) : List Container :=
  match node.containers with
  | none => []
  | some containers => containers.filter (fun container =>
      shouldCollectContainerLogs (strip container.name))

def Container.log (runtime : Runtime) (container : Container) : Str :=
  dockerLogs runtime container.stdout ++ dockerLogs runtime container.stderr

/-- `run_dir / "nodes" / node.name / "logs" / f"{container}.log"`. -/
def logPath (runDir : Path) (node container : Str) : Path :=
  (((runDir.join (str "nodes")).join node).join (str "logs")).join (container ++ str ".log")

def collectRemoteContainerLogs (runtime : Runtime) (runDir : Path) (nodes : List RemoteNode)
    (disk : Disk) : Disk :=
  nodes.foldl (fun disk node => node.collected.foldl (fun disk container =>
    disk.write (logPath runDir node.name (strip container.name)) (container.log runtime)) disk) disk

/-- The files that are analysed are those that the timelines find, in the order in
which `glob` gives them. -/
structure RunLogs.Found (run : RunLogs) (disk : Disk) (runDir : Path) : Prop where
  logs : (run.logFiles.map (fun log => (log.node, log.container, log.content.text))).Perm
    ((disk.logFiles runDir).map (fun log => (log.1, log.2.1, excel.translated log.2.2)))
  k6 : run.k6Stdout.map FileText.text =
    (disk.read (runDir.join (str "k6_stdout.txt"))).map excel.translated

/-- The nodes have names of their own, as the configuration demands, and so have
the containers of a node, as docker demands; all are names of files. -/
structure Named (nodes : List RemoteNode) : Prop where
  distinct : (nodes.map RemoteNode.name).Nodup
  names : ∀ node ∈ nodes, FileName node.name
  containers : ∀ node ∈ nodes, (node.collected.map (fun container => strip container.name)).Nodup
  containerNames : ∀ node ∈ nodes, ∀ container ∈ node.collected, FileName (strip container.name)

/-- The logs of all nodes are collected in a directory without log files, and are
found there. -/
structure RunLogs.Collected (run : RunLogs) (runtime : Runtime) (nodes : List RemoteNode)
    (disk : Disk) (runDir : Path) : Prop where
  named : Named nodes
  fresh : disk.logFiles runDir = []
  found : run.Found (collectRemoteContainerLogs runtime runDir nodes disk) runDir

/-! ### What is collected is found -/

section Collecting

variable {runtime : Runtime} {runDir : Path} {nodes : List RemoteNode} {disk : Disk}

def RemoteNode.files (runtime : Runtime) (runDir : Path) (disk : Disk) (node : RemoteNode) :
    List (List Str × Str) :=
  node.collected.map (fun container =>
    (disk.place (logPath runDir node.name (strip container.name)), container.log runtime))

theorem collectRemoteContainerLogs_eq :
    collectRemoteContainerLogs runtime runDir nodes disk =
      { disk with
        files := setEntries (nodes.flatMap (RemoteNode.files runtime runDir disk)) disk.files } := by
  have oneNode (node : RemoteNode) (containers : List Container) (files : List (List Str × Str)) :
      containers.foldl (fun disk container => disk.write
        (logPath runDir node.name (strip container.name)) (container.log runtime))
        { disk with files } =
      { disk with
        files := setEntries (containers.map (fun container =>
          (disk.place (logPath runDir node.name (strip container.name)),
            container.log runtime))) files } := by
    induction containers generalizing files with
    | nil => rfl
    | cons container rest ih => exact ih _
  have all (files : List (List Str × Str)) :
      collectRemoteContainerLogs runtime runDir nodes { disk with files } =
        { disk with
          files := setEntries (nodes.flatMap (RemoteNode.files runtime runDir disk)) files } := by
    induction nodes generalizing files with
    | nil => rfl
    | cons node rest ih =>
        rw [List.flatMap_cons, setEntries_append]
        refine (congrArg (collectRemoteContainerLogs runtime runDir rest)
          (oneNode node node.collected files)).trans ?_
        exact ih _
  exact all disk.files

theorem place_nodes : disk.place (runDir.join (str "nodes")) = disk.place runDir ++ [str "nodes"] :=
  place_join (by decide) (by decide) (by decide)

theorem place_logPath {node container : Str} (named : FileName node)
    (containerNamed : FileName container) :
    disk.place (logPath runDir node container) = disk.place (runDir.join (str "nodes")) ++
      [node, str "logs", container ++ str ".log"] := by
  have logs : disk.place (((runDir.join (str "nodes")).join node).join (str "logs")) =
      disk.place ((runDir.join (str "nodes")).join node) ++ [str "logs"] :=
    place_join (by decide) (by decide) (by decide)
  unfold logPath
  rw [containerNamed.place_append (by decide) (by decide), logs, named.place, List.append_assoc,
    List.append_assoc]
  rfl

/-- A log file is found with its node and its container. -/
theorem nodeLog_place {node container text : Str} (named : FileName node)
    (containerNamed : FileName container) :
    disk.nodeLog runDir (disk.place (logPath runDir node container), text) =
      some (some node, container, text) := by
  unfold Disk.nodeLog
  rw [place_logPath named containerNamed, below_append]
  dsimp only
  rw [if_pos rfl, logStem_append containerNamed.filled]
  rfl

theorem localLog_place {node container text : Str} (named : FileName node)
    (containerNamed : FileName container) :
    disk.localLog runDir (disk.place (logPath runDir node container), text) = none := by
  have outside : below (disk.place (runDir.join (str "logs")))
      (disk.place (logPath runDir node container)) = none := by
    have logs : disk.place (runDir.join (str "logs")) = disk.place runDir ++ [str "logs"] :=
      place_join (by decide) (by decide) (by decide)
    rw [place_logPath named containerNamed, place_nodes, logs, List.append_assoc, below, if_neg]
    intro inside
    have same := List.cons_prefix_cons.mp ((List.prefix_append_right_inj _).mp inside)
    exact absurd same.1 (by decide)
  rw [Disk.localLog, outside]

theorem logPath_injective {node container other otherContainer : Str} (named : FileName node)
    (containerNamed : FileName container) (otherNamed : FileName other)
    (otherContainerNamed : FileName otherContainer)
    (same : disk.place (logPath runDir node container) =
      disk.place (logPath runDir other otherContainer)) :
    node = other ∧ container = otherContainer := by
  have found : disk.nodeLog runDir (disk.place (logPath runDir node container), []) =
      some (some node, container, []) := nodeLog_place named containerNamed
  rw [same, nodeLog_place otherNamed otherContainerNamed] at found
  simpa [eq_comm] using found

theorem places_nodup (named : Named nodes) :
    ((nodes.flatMap (RemoteNode.files runtime runDir disk)).map Prod.fst).Nodup := by
  rw [List.map_flatMap, List.nodup_flatMap]
  constructor
  · intro node member
    unfold RemoteNode.files
    rw [List.map_map, List.nodup_map_iff_inj_on (named.containers node member).of_map]
    intro container collected other otherCollected same
    refine List.inj_on_of_nodup_map (named.containers node member) collected otherCollected ?_
    exact (logPath_injective (named.names node member)
      (named.containerNames node member container collected) (named.names node member)
      (named.containerNames node member other otherCollected) same).2
  · refine (List.pairwise_map.mp named.distinct).imp_of_mem ?_
    intro node other member otherMember different place atNode atOther
    obtain ⟨file, here, rfl⟩ := List.mem_map.mp atNode
    obtain ⟨container, collected, rfl⟩ := List.mem_map.mp here
    obtain ⟨otherFile, there, same⟩ := List.mem_map.mp atOther
    obtain ⟨otherContainer, otherCollected, rfl⟩ := List.mem_map.mp there
    exact different (logPath_injective (named.names node member)
      (named.containerNames node member container collected) (named.names other otherMember)
      (named.containerNames other otherMember otherContainer otherCollected) same.symm).1

theorem logFiles_collected (named : Named nodes) (fresh : disk.logFiles runDir = []) :
    (collectRemoteContainerLogs runtime runDir nodes disk).logFiles runDir =
      nodes.flatMap (fun node => node.collected.map (fun container =>
        (some node.name, strip container.name, container.log runtime))) := by
  obtain ⟨noLocal, noNode⟩ := List.append_eq_nil_iff.mp fresh
  have files : (collectRemoteContainerLogs runtime runDir nodes disk).files =
      disk.files ++ nodes.flatMap (RemoteNode.files runtime runDir disk) := by
    rw [collectRemoteContainerLogs_eq]
    refine setEntries_of_fresh (places_nodup named) fun place new known => ?_
    obtain ⟨file, inFiles, rfl⟩ := List.mem_map.mp new
    obtain ⟨node, member, here⟩ := List.mem_flatMap.mp inFiles
    obtain ⟨container, collected, rfl⟩ := List.mem_map.mp here
    obtain ⟨⟨place, text⟩, old, same⟩ := List.mem_map.mp known
    have unfound := List.filterMap_eq_nil_iff.mp noNode _ old
    rw [show place = disk.place (logPath runDir node.name (strip container.name)) from same,
      nodeLog_place (named.names node member)
        (named.containerNames node member container collected)] at unfound
    cases unfound
  have locals : (nodes.flatMap (RemoteNode.files runtime runDir disk)).filterMap
      (disk.localLog runDir) = [] := by
    refine List.filterMap_eq_nil_iff.mpr fun file inFiles => ?_
    obtain ⟨node, member, here⟩ := List.mem_flatMap.mp inFiles
    obtain ⟨container, collected, rfl⟩ := List.mem_map.mp here
    exact localLog_place (named.names node member)
      (named.containerNames node member container collected)
  have found : (nodes.flatMap (RemoteNode.files runtime runDir disk)).filterMap
      (disk.nodeLog runDir) = nodes.flatMap (fun node => node.collected.map (fun container =>
        (some node.name, strip container.name, container.log runtime))) := by
    rw [List.filterMap_flatMap]
    refine List.flatMap_congr fun node member => ?_
    unfold RemoteNode.files
    rw [List.filterMap_map, ← List.filterMap_eq_map]
    refine List.filterMap_congr fun container collected => ?_
    exact nodeLog_place (named.names node member)
      (named.containerNames node member container collected)
  have sameLocal : (collectRemoteContainerLogs runtime runDir nodes disk).localLog runDir =
      disk.localLog runDir := by
    rw [collectRemoteContainerLogs_eq]
    rfl
  have sameNode : (collectRemoteContainerLogs runtime runDir nodes disk).nodeLog runDir =
      disk.nodeLog runDir := by
    rw [collectRemoteContainerLogs_eq]
    rfl
  unfold Disk.logFiles
  rw [sameLocal, sameNode, files, List.filterMap_append, List.filterMap_append, noLocal, noNode,
    locals, found]
  rfl

end Collecting

end ImagePipeline.Benchmark
