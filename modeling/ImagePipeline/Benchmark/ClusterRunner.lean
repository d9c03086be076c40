/-
`cluster_runner.py` from `run_started_at` to the end of the load, as the clock
sees it, and the rows that the queue monitors write meanwhile. Every call takes
its own time; times are in microseconds.
-/

import ImagePipeline.Benchmark.QueueDrain
import Mathlib.Algebra.BigOperators.Group.List.Basic

namespace ImagePipeline.Benchmark

open Common

structure ClusterRun where
  now : Int
  configTime : Nat
  monitorTimes : List Nat
  monitorWarmup : Nat
  /-- The option that is passed to k6 and stored in the configuration. -/
  duration : Str
  submissionTime : Nat

structure Timeline where
  runStartedAt : Int
  monitorsStarted : Int
  k6Started : Int
  submissionStopped : Int

def startRemoteMonitors : List Nat → Int → Int
  | [], now => now
  | took :: rest, now => startRemoteMonitors rest (now + took)

/-- `main` up to the end of `run_k6`. -/
def ClusterRun.main (run : ClusterRun) : Timeline :=
  let runStartedAt := run.now
  let configUpdated := runStartedAt + run.configTime
  let monitorsStarted := startRemoteMonitors run.monitorTimes configUpdated
  let k6Started := monitorsStarted + run.monitorWarmup
  { runStartedAt := runStartedAt
    monitorsStarted := monitorsStarted
    k6Started := k6Started
    submissionStopped := k6Started + run.submissionTime }

theorem startRemoteMonitors_eq (times : List Nat) (now : Int) :
    startRemoteMonitors times now = now + times.sum := by
  induction times generalizing now with
  | nil => exact (add_zero now).symm
  | cons took rest ih =>
      rw [startRemoteMonitors, ih, List.sum_cons]
      push_cast
      omega

/-- All that `main` waits for between `run_started_at` and k6. -/
def ClusterRun.waits (run : ClusterRun) : Nat :=
  run.configTime + run.monitorTimes.sum + run.monitorWarmup

theorem ClusterRun.submissionStopped_eq (run : ClusterRun) :
    run.main.submissionStopped = run.now + run.waits + run.submissionTime := by
  unfold main waits
  simp only [startRemoteMonitors_eq]
  push_cast
  omega

/-- One round of `QueueMonitor._run`; without lengths where Redis failed. -/
structure Sample where
  time : Int
  node : Str
  lengths : Option (Nat × Nat)

def Sample.row (clock : Clock) (sample : Sample) : QueueRow :=
  { timestamp := clock.isoFormat sample.time
    columns :=
      [(str "node", sample.node),
        (str "default_queue_length", (sample.lengths.map (fun both => natDigits both.1)).getD []),
        (str "heavy_queue_length", (sample.lengths.map (fun both => natDigits both.2)).getD [])] }

end ImagePipeline.Benchmark
