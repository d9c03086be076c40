/-
How the containers of the workers are found by their names, and how many of them
`count_worker_containers` counts over the nodes of a cluster.
-/

import ImagePipeline.Properties.NodeFiles
import Mathlib.Algebra.BigOperators.Group.List.Basic
import Mathlib.Algebra.GroupWithZero.Nat
import Mathlib.Data.List.Infix

namespace ImagePipeline.Properties.WorkerContainers

open Common Benchmark
open Library
open NodeFiles (Plain nodeFiles merged_file exists_downloaded labDocument labCluster labLogs
  labMonitored labRuntime labClock labRemote lab_names lab_written)
open ReadBack (plainName)

/-! ### Unions of sets -/

section Unions

variable {α : Type} [DecidableEq α]

def unionOf (sets : List (Finset α)) : Finset α := sets.foldr (fun set rest => set ∪ rest) ∅

theorem disjoint_unionOf {set : Finset α} {sets : List (Finset α)} :
    Disjoint set (unionOf sets) ↔ ∀ other ∈ sets, Disjoint set other := by
  induction sets with
  | nil => simp [unionOf]
  | cons first rest ih =>
      rw [unionOf, List.foldr_cons, Finset.disjoint_union_right, List.forall_mem_cons, ← ih]
      rfl

/-- A union is as large as its sets together, unless two of them overlap. -/
theorem card_unionOf (sets : List (Finset α)) :
    (unionOf sets).card ≤ (sets.map Finset.card).sum ∧
      ((unionOf sets).card = (sets.map Finset.card).sum ↔ sets.Pairwise Disjoint) := by
  induction sets with
  | nil => simp [unionOf]
  | cons set rest ih =>
      obtain ⟨bound, exactly⟩ := ih
      have union : (unionOf (set :: rest)).card ≤ set.card + (unionOf rest).card :=
        Finset.card_union_le set (unionOf rest)
      have separate : (unionOf (set :: rest)).card = set.card + (unionOf rest).card ↔
          Disjoint set (unionOf rest) := Finset.card_union_eq_card_add_card
      rw [List.map_cons, List.sum_cons, List.pairwise_cons, ← exactly, ← disjoint_unionOf,
        ← separate]
      omega

end Unions

/-! ### The names -/

/-- Two of the three markers add nothing. -/
theorem isMarked_eq (workerType container : Str) :
    isMarked (workerMarkers workerType) container =
      decide (str "worker-" ++ workerType <:+: container) := by
  have inside (front marker : Str) (found : front ++ marker <:+: container) :
      marker <:+: container := (List.suffix_append front marker).isInfix.trans found
  have image : str "image-pipeline-worker-" ++ workerType =
      str "image-pipeline-" ++ (str "worker-" ++ workerType) := rfl
  have docker : str "docker-worker-" ++ workerType =
      str "docker-" ++ (str "worker-" ++ workerType) := rfl
  rw [Bool.eq_iff_iff, decide_eq_true_iff, isMarked, List.any_eq_true]
  constructor
  · intro ⟨marker, member, found⟩
    have found := of_decide_eq_true found
    simp only [workerMarkers, List.mem_cons, List.not_mem_nil, or_false] at member
    rcases member with rfl | rfl | rfl
    · exact found
    · exact inside _ _ (image ▸ found)
    · exact inside _ _ (docker ▸ found)
  · intro found
    exact ⟨_, List.mem_cons_self, decide_eq_true found⟩

theorem workerContainers_append (first second : List CsvRow) (workerType : Str) :
    workerContainers (first ++ second) workerType =
      workerContainers first workerType ∪ workerContainers second workerType := by
  unfold workerContainers
  rw [List.map_append, List.filter_append, List.toFinset_append]

theorem workerContainers_flatMap {α : Type} (rows : α → List CsvRow) (sources : List α)
    (workerType : Str) :
    workerContainers (sources.flatMap rows) workerType =
      unionOf (sources.map (fun source => workerContainers (rows source) workerType)) := by
  induction sources with
  | nil => rfl
  | cons source rest ih =>
      rw [List.flatMap_cons, workerContainers_append, ih]
      rfl

theorem mem_workerContainers {rows : List CsvRow} {workerType name : Str} :
    name ∈ workerContainers rows workerType ↔
      str "worker-" ++ workerType <:+: name ∧ name ∈ rows.map (containerOf []) := by
  rw [workerContainers, List.mem_toFinset, List.mem_filter, isMarked_eq, decide_eq_true_iff,
    and_comm]

theorem disjoint_workerContainers {first second : List CsvRow} {workerType : Str} :
    Disjoint (workerContainers first workerType) (workerContainers second workerType) ↔
      ∀ name : Str, str "worker-" ++ workerType <:+: name →
        name ∈ first.map (containerOf []) → name ∉ second.map (containerOf []) := by
  rw [Finset.disjoint_left]
  constructor
  · intro apart name marked inFirst inSecond
    exact apart (mem_workerContainers.mpr ⟨marked, inFirst⟩)
      (mem_workerContainers.mpr ⟨marked, inSecond⟩)
  · intro apart name inFirst inSecond
    obtain ⟨marked, inFirst⟩ := mem_workerContainers.mp inFirst
    exact apart name marked inFirst (mem_workerContainers.mp inSecond).2

/-! ### The workers of a cluster -/

def dockerRowsOf (logs : LogRuntime) (monitored : Monitored) (node : NodeConfig) : List CsvRow :=
  (monitored.dockerTable logs node.name).dicts

/-- Containers of the same name on two nodes are counted once: the count over the
merged file is the sum over the nodes only if no two nodes share a name. -/
theorem worker_count_of_merged_file {runtime : Runtime} {logs : LogRuntime} {clock : Clock}
    {monitored : Monitored} {document : Json} {cluster : ClusterConfig}
    (loaded : parseCluster document = .ok cluster) {runDir : Path}
    {files : Path → Option Str}
    (downloaded : monitored.Downloaded runtime logs clock cluster runDir files)
    (plain : ∀ node ∈ cluster.nodes, Plain (monitored.dockerTable logs node.name))
    (workerType : Str) :
    ∃ output dockerRows,
      mergeCsvFiles (nodeInputs cluster runDir files (str "docker_stats.csv"))
        (str "docker_stats.csv") = .ok output ∧
      loadCsv (some output) = .ok (dockerRows.map fullRow) ∧
      countWorkerContainers dockerRows workerType ≤
        (cluster.nodes.map (fun node =>
          countWorkerContainers (dockerRowsOf logs monitored node) workerType)).sum ∧
      (countWorkerContainers dockerRows workerType =
          (cluster.nodes.map (fun node =>
            countWorkerContainers (dockerRowsOf logs monitored node) workerType)).sum ↔
        cluster.nodes.Pairwise (fun node other => ∀ name : Str,
          str "worker-" ++ workerType <:+: name →
          name ∈ (dockerRowsOf logs monitored node).map (containerOf []) →
          name ∉ (dockerRowsOf logs monitored other).map (containerOf []))) := by
  obtain ⟨_, valid⟩ := parseCluster_ok.mp loaded
  obtain ⟨output, merged, read⟩ := merged_file (monitored.dockerTable logs) valid.some
    (fun _ => rfl) (by decide : ∀ name ∈ dockerFieldnames, plainName name = true) plain
    downloaded.docker
  have union : workerContainers ((nodeFiles cluster (monitored.dockerTable logs)).flatMap
      (fun file => file.2.dicts)) workerType =
        unionOf (cluster.nodes.map (fun node =>
          workerContainers (dockerRowsOf logs monitored node) workerType)) := by
    rw [workerContainers_flatMap, nodeFiles, List.map_map]
    rfl
  obtain ⟨bound, exactly⟩ := card_unionOf (cluster.nodes.map (fun node =>
    workerContainers (dockerRowsOf logs monitored node) workerType))
  rw [List.map_map] at bound exactly
  refine ⟨output, _, merged, read, ?_, ?_⟩
  · rw [countWorkerContainers, union]
    exact bound
  · rw [countWorkerContainers, union]
    refine exactly.trans ?_
    rw [List.pairwise_map]
    exact List.Pairwise.iff fun _ _ => disjoint_workerContainers

/-- Both nodes call their container the same. -/
theorem two_nodes_counted_once :
    parseCluster labDocument = .ok labCluster ∧
    (labCluster.nodes.map (fun node =>
      countWorkerContainers (dockerRowsOf labLogs labMonitored node) (str "heavy"))).sum = 2 ∧
    ∃ (after : Disk) (output : Str) (dockerRows : List CsvRow),
      downloadNodeResults labRemote labCluster (Path.ofStr (str "run")) ⟨[], []⟩ = some after ∧
      mergeCsvFiles (nodeInputs labCluster (Path.ofStr (str "run")) after.read
        (str "docker_stats.csv")) (str "docker_stats.csv") = .ok output ∧
      loadCsv (some output) = .ok (dockerRows.map fullRow) ∧
      countWorkerContainers dockerRows (str "heavy") < 2 := by
  have loaded : parseCluster labDocument = .ok labCluster := rfl
  have plain : ∀ node ∈ labCluster.nodes, Plain (labMonitored.dockerTable labLogs node.name) := by
    unfold Plain
    decide +kernel
  have sum : (labCluster.nodes.map (fun node =>
      countWorkerContainers (dockerRowsOf labLogs labMonitored node) (str "heavy"))).sum = 2 := by
    decide +kernel
  obtain ⟨after, fetched, downloaded⟩ :=
    exists_downloaded lab_names lab_written (Path.ofStr (str "run")) ⟨[], []⟩
  obtain ⟨output, dockerRows, merged, read, bound, exactly⟩ :=
    worker_count_of_merged_file loaded downloaded plain (str "heavy")
  refine ⟨loaded, sum, after, output, dockerRows, fetched, merged, read, ?_⟩
  rw [sum] at bound exactly
  refine lt_of_le_of_ne bound fun same => ?_
  have apart := List.rel_of_pairwise_cons (exactly.mp same) List.mem_cons_self
    (str "docker-worker-heavy-1") (by decide +kernel)
  exact apart (by decide +kernel) (by decide +kernel)

end ImagePipeline.Properties.WorkerContainers
