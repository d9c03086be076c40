/-
`config.json` of a cluster run. `write_config` prints it, `update_config_file`
reads it again, sets the start of the run and prints it anew, and the analysis,
the plots, the report and the sweep read it.
-/

import ImagePipeline.Benchmark.WorkerTotals
import ImagePipeline.Common.JsonLayout

namespace ImagePipeline.Benchmark

open Common

/-- The options of `cluster_runner.py` that are kept with the run. -/
structure ClusterArgs extends RunArgs where
  pollResult : Str
  pollIntervalSeconds : PyFloat
  pollTimeoutSeconds : PyFloat
  monitorIntervalSeconds : PyFloat
  monitorWarmupSeconds : PyFloat
  monitorCooldownSeconds : PyFloat
  notes : Str

def nodeDict (node : NodeConfig) : Dict :=
  [(str "name", .str node.name), (str "role", .str node.role), (str "host", .str node.host)]

/-- The dictionary that `write_config` prints. -/
def RunConfig.dict (config : RunConfig) (timestamp : Str) (args : ClusterArgs)
    (cluster : ClusterConfig) : Dict :=
  [(str "timestamp", .str timestamp),
    (str "base_url", .str cluster.apiUrl),
    (str "profile", .str args.profile),
    (str "rate", .float args.rate),
    (str "duration", .str args.duration),
    (str "poll_result", .str args.pollResult),
    (str "poll_interval_seconds", .float args.pollIntervalSeconds),
    (str "poll_timeout_seconds", .float args.pollTimeoutSeconds),
    (str "environment", .str (str "gcp")),
    (str "setup", .str config.setup),
    (str "total_nodes", .int config.totalNodes),
    (str "worker_nodes", .int config.workerNodes),
    (str "workers_per_node", .null),
    (str "main_node_default_workers", .int config.mainNodeDefaultWorkers),
    (str "main_node_heavy_workers", .int config.mainNodeHeavyWorkers),
    (str "worker_node_default_workers", .int config.workerNodeDefaultWorkers),
    (str "worker_node_heavy_workers", .int config.workerNodeHeavyWorkers),
    (str "default_workers", .int config.defaultWorkers),
    (str "heavy_workers", .int config.heavyWorkers),
    (str "total_workers", .int config.totalWorkers),
    (str "main_node", .str config.mainNode),
    (str "monitor_interval_seconds", .float args.monitorIntervalSeconds),
    (str "monitor_warmup_seconds", .float args.monitorWarmupSeconds),
    (str "monitor_cooldown_seconds", .float args.monitorCooldownSeconds),
    (str "nodes", .arr (cluster.nodes.map (fun node => .obj (nodeDict node)))),
    (str "notes", .str args.notes)]

inductive ConfigFileError where
  | loads (raised : LoadsError)
  /-- The document is no dictionary. -/
  | attributeError

section Files

variable (runtime : Runtime) (decoder : JsonDecoder)

/-- The text of the file, with the time that `write_config` takes for `timestamp`. -/
def writeConfigFile (timestamp : Str) (args : ClusterArgs) (cluster : ClusterConfig) :
    Except StopIteration Str := do
  let config ← writeConfig args.toRunArgs cluster
  pure (JsonLayout.indented.dumps runtime (.obj (config.dict timestamp args cluster)))

def updateConfigFile (text : Str) (updates : Dict) : Except ConfigFileError Str :=
  match jsonLoads decoder text with
  | .ok (.obj config) => .ok (JsonLayout.indented.dumps runtime (.obj (Dict.update config updates)))
  | .ok _ => .error .attributeError
  | .error raised => .error (.loads raised)

end Files

end ImagePipeline.Benchmark
