/-
The name of a run, its `config.json` and the name of the sweep it belongs to
agree on the number of workers, because a document that is accepted has one main
node and workers otherwise.
-/

import ImagePipeline.Benchmark.WorkerTotals

namespace ImagePipeline.Properties.WorkerTotals

open Common Benchmark

variable (runtime : Runtime) (naming : Naming) (run : RunArgs) (sweep : SweepArgs)

/-- What `config.json` says of the totals is what both names are made from. -/
structure ConfigAgrees (cluster : ClusterConfig) (config : RunConfig) : Prop where
  inRun : runDirectoryTotals run cluster = ⟨config.defaultWorkers, config.heavyWorkers⟩
  inSweep : sweepTotals sweep cluster = ⟨config.defaultWorkers, config.heavyWorkers⟩
  total : config.totalWorkers = config.defaultWorkers + config.heavyWorkers
  runNamed : createRunDirectory runtime naming run cluster =
    buildRunName runtime naming (str "gcp") run config.totalNodes
      ⟨config.defaultWorkers, config.heavyWorkers⟩
  sweepNamed : sweepName runtime naming sweep cluster =
    buildSweepName runtime naming sweep config.totalNodes
      ⟨config.defaultWorkers, config.heavyWorkers⟩

structure TotalsAgree (cluster : ClusterConfig) : Prop where
  oneMain : ∃ main, cluster.nodes.filter isMain = [main] ∧ mainNode cluster = .ok main
  configured : ∃ config, writeConfig run cluster = .ok config ∧
    ConfigAgrees runtime naming run sweep cluster config

variable {run sweep}

theorem worker_totals_agree {document : Json} {cluster : ClusterConfig}
    (loaded : parseCluster document = .ok cluster)
    (same : run.toWorkerArgs = sweep.toWorkerArgs) :
    TotalsAgree runtime naming run sweep cluster := by
  have valid := (parseCluster_ok.mp loaded).2
  obtain ⟨main, only, found⟩ := valid.mainNode_eq
  have counted : runDirectoryTotals run cluster =
      run.totals ((cluster.nodes.filter isWorker).length : Int) := by
    rw [runDirectoryTotals, valid.workers_eq]
  have swept : sweepTotals sweep cluster = runDirectoryTotals run cluster := by
    unfold sweepTotals runDirectoryTotals
    rw [same]
  have written : ∃ config, writeConfig run cluster = .ok config ∧
      config.totalNodes = cluster.nodes.length ∧
      (⟨config.defaultWorkers, config.heavyWorkers⟩ : Benchmark.WorkerTotals) =
        run.totals ((cluster.nodes.filter isWorker).length : Int) ∧
      config.totalWorkers = config.defaultWorkers + config.heavyWorkers := by
    unfold writeConfig
    rw [found]
    exact ⟨_, rfl, rfl, rfl, rfl⟩
  obtain ⟨config, returned, nodes, totals, total⟩ := written
  refine ⟨⟨main, only, found⟩, config, returned, ?_⟩
  rw [← totals] at counted
  have names := swept.trans counted
  constructor
  · exact counted
  · exact names
  · exact total
  · rw [createRunDirectory, counted, nodes]
  · rw [sweepName, names, nodes]

/-- A main node with one worker node, in a document with the worker first. -/
def twoNodes : Json :=
  let node (name role : String) : Json :=
    .obj [(str "name", .str (str name)), (str "role", .str (str role)),
      (str "host", .str (str "10.0.0.1")), (str "ssh_user", .str (str "bench"))]
  .obj [(str "name", .str (str "lab")), (str "api_url", .str (str "http://10.0.0.1:8000")),
    (str "nodes", .arr [node "w1" "worker", node "m1" " main "])]

def twoNodeRun : RunArgs :=
  { mainNodeDefaultWorkers := 2
    mainNodeHeavyWorkers := 1
    workerNodeDefaultWorkers := 3
    workerNodeHeavyWorkers := 0
    profile := str "light_only"
    rate := .finite 10
    duration := str "1m" }

theorem worker_totals_agree_two : ∃ cluster, parseCluster twoNodes = .ok cluster ∧
    TotalsAgree ⟨fun _ => none, fun _ => [], fun _ => []⟩ ⟨str "now", str "id"⟩ twoNodeRun
      ⟨twoNodeRun.toWorkerArgs, [.finite 10], str "light_only", str "1m"⟩ cluster :=
  ⟨_, rfl, worker_totals_agree _ _ (show parseCluster twoNodes = .ok _ from rfl) rfl⟩

end ImagePipeline.Properties.WorkerTotals
