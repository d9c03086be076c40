/-
How many workers a cluster run has, as `cluster_runner.py` puts it into the name
of the run and into `config.json`, and `sweep_runner.py` into the name of a
sweep. Both programs get the same four counts and the same cluster document.
-/

import ImagePipeline.Benchmark.NodeConfig
import ImagePipeline.Library.Readable

namespace ImagePipeline.Benchmark

open Common
open Library (joinWith)

structure WorkerArgs where
  mainNodeDefaultWorkers : Int
  mainNodeHeavyWorkers : Int
  workerNodeDefaultWorkers : Int
  workerNodeHeavyWorkers : Int

structure RunArgs extends WorkerArgs where
  profile : Str
  rate : PyFloat
  duration : Str

structure SweepArgs extends WorkerArgs where
  rates : List PyFloat
  profile : Str
  duration : Str

structure WorkerTotals where
  default : Int
  heavy : Int
  deriving DecidableEq

/-- The totals with so many nodes beside the main one. -/
def WorkerArgs.totals (args : WorkerArgs) (workerNodes : Int) : WorkerTotals :=
  { default := args.mainNodeDefaultWorkers + workerNodes * args.workerNodeDefaultWorkers
    heavy := args.mainNodeHeavyWorkers + workerNodes * args.workerNodeHeavyWorkers }

/-- `text.replace(".", "p")`. -/
def dotsToP (text : Str) : Str :=
  text.map (fun letter => if letter = codePoint '.' then codePoint 'p' else letter)

/-- `rate.is_integer()`, with the integer. -/
def wholeRate : PyFloat → Option Int
  | .finite value => if value.den = 1 then some value.num else none
  | .negativeZero => some 0
  | .nan | .infinity _ => none

def formatRate (runtime : Runtime) (rate : PyFloat) : Str :=
  match wholeRate rate with
  | some value => intRepr value
  | none => dotsToP (runtime.scalarText (.float rate))

/-- The runs and the sweeps of a cluster are named after the time, and a run
after an id of its own as well. -/
structure Naming where
  timestamp : Str
  runId : Str

def dash : CodePoint := codePoint '-'

def buildRunName (runtime : Runtime) (naming : Naming) (environment : Str) (args : RunArgs)
    (totalNodes : Int) (totals : WorkerTotals) : Str :=
  joinWith dash
    ([intRepr totalNodes ++ str "-node", environment, intRepr totals.heavy ++ str "h",
      intRepr totals.default ++ str "d-worker", formatRate runtime args.rate ++ str "rps",
      args.duration, args.profile, naming.timestamp] ++
      (if naming.runId = [] then [] else [naming.runId]))

/-- The totals of `create_run_directory`. -/
def runDirectoryTotals (args : RunArgs) (cluster : ClusterConfig) : WorkerTotals :=
  args.totals (max ((cluster.nodes.length : Int) - 1) 0)

def createRunDirectory (runtime : Runtime) (naming : Naming) (args : RunArgs)
    (cluster : ClusterConfig) : Str :=
  buildRunName runtime naming (str "gcp") args cluster.nodes.length (runDirectoryTotals args cluster)

inductive StopIteration where
  | stopIteration

/-- `next(node for node in cluster.nodes if node.role == "main")`. -/
def mainNode (cluster : ClusterConfig) : Except StopIteration NodeConfig :=
  match cluster.nodes.filter isMain with
  | node :: _ => .ok node
  | [] => .error .stopIteration

/-- What `config.json` says about the nodes and the workers. -/
structure RunConfig where
  setup : Str
  totalNodes : Int
  workerNodes : Int
  mainNodeDefaultWorkers : Int
  mainNodeHeavyWorkers : Int
  workerNodeDefaultWorkers : Int
  workerNodeHeavyWorkers : Int
  defaultWorkers : Int
  heavyWorkers : Int
  totalWorkers : Int
  mainNode : Str

def writeConfig (args : RunArgs) (cluster : ClusterConfig) : Except StopIteration RunConfig := do
  let workerNodes := cluster.nodes.filter isWorker
  let main ← mainNode cluster
  let totals := args.totals workerNodes.length
  pure
    { setup := cluster.name
      totalNodes := cluster.nodes.length
      workerNodes := workerNodes.length
      mainNodeDefaultWorkers := args.mainNodeDefaultWorkers
      mainNodeHeavyWorkers := args.mainNodeHeavyWorkers
      workerNodeDefaultWorkers := args.workerNodeDefaultWorkers
      workerNodeHeavyWorkers := args.workerNodeHeavyWorkers
      defaultWorkers := totals.default
      heavyWorkers := totals.heavy
      totalWorkers := totals.default + totals.heavy
      mainNode := main.name }

/-- The totals of `sweep_runner.main` in cluster mode. -/
def sweepTotals (args : SweepArgs) (cluster : ClusterConfig) : WorkerTotals :=
  let totalNodes : Int := cluster.nodes.length
  args.totals (max (totalNodes - 1) 0)

def buildSweepName (runtime : Runtime) (naming : Naming) (args : SweepArgs) (totalNodes : Int)
    (totals : WorkerTotals) : Str :=
  let rateLabel := joinWith dash (args.rates.map (formatRate runtime))
  str "sweep-" ++ intRepr totalNodes ++ str "-node-gcp-" ++ intRepr totals.heavy ++ str "h-" ++
    intRepr totals.default ++ str "d-worker-" ++ rateLabel ++ str "rps-" ++ args.duration ++
    str "-" ++ args.profile ++ str "-" ++ naming.timestamp

/-- The name that `sweep_runner.main` gives a sweep in cluster mode. -/
def sweepName (runtime : Runtime) (naming : Naming) (args : SweepArgs) (cluster : ClusterConfig) :
    Str :=
  buildSweepName runtime naming args cluster.nodes.length (sweepTotals args cluster)

/-! ### One main node, and all others are workers -/

theorem isWorker_eq {port : Json → Prop} {node : NodeConfig} (valid : ValidNode port node) :
    isWorker node = !isMain node := by
  unfold isWorker isMain
  rcases valid.known with main | worker
  · rw [main]
    decide
  · rw [worker]
    decide

theorem workers_length {nodes : List NodeConfig} {port : Json → Prop}
    (valid : ∀ node ∈ nodes, ValidNode port node) :
    (nodes.filter isMain).length + (nodes.filter isWorker).length = nodes.length := by
  have others : nodes.filter isWorker = nodes.filter (fun node => !isMain node) :=
    List.filter_congr fun node member => isWorker_eq (valid node member)
  rw [others]
  exact (List.length_eq_length_filter_add isMain).symm

theorem ValidCluster.workers_eq {port : Json → Prop} {cluster : ClusterConfig}
    (valid : ValidCluster port cluster) :
    ((cluster.nodes.filter isWorker).length : Int) = max ((cluster.nodes.length : Int) - 1) 0 := by
  have all := workers_length valid.nodes
  have oneMain := valid.oneMain
  omega

theorem ValidCluster.mainNode_eq {port : Json → Prop} {cluster : ClusterConfig}
    (valid : ValidCluster port cluster) :
    ∃ main, cluster.nodes.filter isMain = [main] ∧ mainNode cluster = .ok main := by
  obtain ⟨main, only⟩ := List.length_eq_one_iff.mp valid.oneMain
  refine ⟨main, only, ?_⟩
  unfold mainNode
  rw [only]

end ImagePipeline.Benchmark
