/-
`cluster_runner.main` as the source writes it: what it does to the cluster and
to the run directory, one action after the other, with one `try … finally`
around the load. Every action may end in any way, also by Ctrl-C, and how it
ends may depend on all that happened before.
-/

import ImagePipeline.Benchmark.ContainerLogs
import ImagePipeline.Benchmark.NodeConfig
import ImagePipeline.Library.Stateful

namespace ImagePipeline.Benchmark.ClusterMain

open Common

inductive RunError where
  | calledProcessError
  /-- Any other subclass of `Exception`. -/
  | exception
  | systemExit (code : Int)
  | keyboardInterrupt
  deriving DecidableEq

/-- `except Exception`. -/
def RunError.isException : RunError → Bool
  | .calledProcessError | .exception => true
  | _ => false

inductive Action where
  | createRunDirectory
  | writeConfig
  /-- With the check of the exit code of `curl`. -/
  | checkApiHealth
  | checkConnection (node : Str)
  | remoteCleanup (command : Str)
  | updateConfigFile
  | createDirectory (node : Str)
  | startBackground (node : Str)
  | sleepWarmup
  | runK6
  | makeRunDirectory
  | writeK6Stdout
  | sleepCooldown
  | stopProcess (node : Str) (pid : Nat)
  | sleepAfterStop
  | makeNodeDirectory (node : Str)
  | downloadFile (node filename : Str)
  | makeLogsDirectory (node : Str)
  | listContainers (node : Str)
  | collectLog (node container : Str)
  | mergeNodeResults
  | generateErrorTimeline
  | generateThroughputTimeline
  | generateTimelinePlots
  | analyzeRun
  | generateReport
  | updateLatest

/-- What an action returns. `docker ps` may fail without raising. -/
def Action.Result : Action → Type
  | .checkConnection _ => Bool
  | .startBackground _ => Nat
  | .runK6 => Int
  | .listContainers _ => Option (List Str)
  | _ => Unit

structure Event where
  action : Action
  outcome : Except RunError action.Result

/-- What happened so far, and the two locals that outlive the `try`. -/
structure World where
  trace : List Event
  monitorPids : List (Str × Nat)
  k6Result : Option Int

def World.after (world : World) (event : Event) : World :=
  { world with trace := world.trace ++ [event] }

/-- How actions end. -/
abbrev Surroundings : Type := List Event → (action : Action) → Except RunError action.Result

abbrev Main : Type → Type := EStateM RunError World

section Parts

variable (surroundings : Surroundings)

def perform (action : Action) : Main action.Result :=
  fun world =>
    match surroundings world.trace action with
    | .ok value => .ok value (world.after ⟨action, .ok value⟩)
    | .error raised => .error raised (world.after ⟨action, .error raised⟩)

/-- The commands of `cleanup_remote_node`, in their order. -/
def cleanupCommands : List Str :=
  [str "docker exec image-pipeline-redis redis-cli FLUSHDB",
    str ("docker exec image-pipeline-postgres psql -U postgres -d image_pipeline " ++
      "-c 'TRUNCATE TABLE jobs;'"),
    str ("docker exec image-pipeline-minio mc alias set local http://localhost:9000 " ++
      "minioadmin minioadmin"),
    str "docker exec image-pipeline-minio mc rm --recursive --force local/image-pipeline/",
    str "docker exec image-pipeline-minio mc mb --ignore-existing local/image-pipeline"]

def cleanupRemoteNode : Main Unit :=
  cleanupCommands.forM (fun command => perform surroundings (.remoteCleanup command))

def checkSshConnections (nodes : List NodeConfig) : Main Unit :=
  nodes.forM (fun node => do
    let connected : Bool ← perform surroundings (.checkConnection node.name)
    if connected then pure () else throw .exception)

/-- `start_remote_monitors`; no two nodes have one name. -/
def startRemoteMonitors (nodes : List NodeConfig) : Main (List (Str × Nat)) :=
  nodes.mapM (fun node => do
    perform surroundings (.createDirectory node.name)
    let pid ← perform surroundings (.startBackground node.name)
    pure (node.name, pid))

def stopRemoteMonitors (pids : List (Str × Nat)) (nodes : List NodeConfig) : Main Unit :=
  nodes.forM (fun node =>
    match pids.lookup node.name with
    | none => pure ()
    | some pid =>
        tryCatch (perform surroundings (.stopProcess node.name pid)) fun error =>
          if error.isException then pure () else throw error)

def filenames : List Str :=
  [str "monitor_stdout.log", str "monitor_stderr.log", str "host_stats.csv",
    str "docker_stats.csv", str "queue_stats.csv"]

def downloadNodeResults (nodes : List NodeConfig) : Main Unit :=
  nodes.forM (fun node => do
    perform surroundings (.makeNodeDirectory node.name)
    filenames.forM (fun filename =>
      tryCatch (perform surroundings (.downloadFile node.name filename)) fun error =>
        if error = .calledProcessError ∧ (str ".csv").isSuffixOf filename = false then pure ()
        else throw error))

def collectRemoteContainerLogs (nodes : List NodeConfig) : Main Unit :=
  nodes.forM (fun node => do
    perform surroundings (.makeLogsDirectory node.name)
    let containers : Option (List Str) ← perform surroundings (.listContainers node.name)
    match containers with
    | none => pure ()
    | some names =>
        ((names.map strip).filter shouldCollectContainerLogs).forM
          (fun container => perform surroundings (.collectLog node.name container)))

def checkReturncode (returncode : Int) : Main Unit :=
  if returncode ≠ 0 then throw (.systemExit returncode) else pure ()

/-- The body of the `try`. -/
def load (nodes : List NodeConfig) : Main Unit := do
  let pids ← startRemoteMonitors surroundings nodes
  modify (fun world => { world with monitorPids := pids })
  perform surroundings .sleepWarmup
  let returncode : Int ← perform surroundings .runK6
  modify (fun world => { world with k6Result := some returncode })
  perform surroundings .makeRunDirectory
  perform surroundings .writeK6Stdout
  checkReturncode returncode
  perform surroundings .sleepCooldown

/-- What is fetched from the nodes, if the monitors have been started. -/
def collect (pids : List (Str × Nat)) (nodes : List NodeConfig) : Main Unit :=
  if pids = [] then pure ()
  else do
    downloadNodeResults surroundings nodes
    collectRemoteContainerLogs surroundings nodes

/-- The `finally` block. -/
def afterLoad (nodes : List NodeConfig) : Main Unit := do
  let world ← get
  stopRemoteMonitors surroundings world.monitorPids nodes
  perform surroundings .sleepAfterStop
  collect surroundings world.monitorPids nodes

/-- `next(node for node in cluster.nodes if node.role == "main")`. -/
def findMainNode (nodes : List NodeConfig) : Main Unit :=
  if nodes.any isMain then pure () else throw .exception

def cleanup (cleanupBeforeRun : Bool) : Main Unit :=
  if cleanupBeforeRun then cleanupRemoteNode surroundings else pure ()

/-- Up to the `try`. -/
def prepare (cluster : ClusterConfig) (cleanupBeforeRun : Bool) : Main Unit := do
  perform surroundings .createRunDirectory
  perform surroundings .writeConfig
  perform surroundings .checkApiHealth
  checkSshConnections surroundings cluster.nodes
  findMainNode cluster.nodes
  cleanup surroundings cleanupBeforeRun
  perform surroundings .updateConfigFile

/-- What is left once the load is over. -/
def evaluate : Main Unit := do
  perform surroundings .mergeNodeResults
  perform surroundings .generateErrorTimeline
  perform surroundings .generateThroughputTimeline
  perform surroundings .generateTimelinePlots
  perform surroundings .analyzeRun
  perform surroundings .generateReport
  perform surroundings .updateLatest

def checkK6Started : Main Unit := do
  let world ← get
  if world.k6Result = none then throw .exception else pure ()

def main (cluster : ClusterConfig) (cleanupBeforeRun : Bool) : Main Unit := do
  prepare surroundings cluster cleanupBeforeRun
  tryFinally (load surroundings cluster.nodes) (afterLoad surroundings cluster.nodes)
  checkK6Started
  evaluate surroundings

end Parts

end ImagePipeline.Benchmark.ClusterMain
