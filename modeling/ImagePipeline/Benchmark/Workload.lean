/-
`summarize_workload` of `analyze_results.py`: what the analysis makes of the
counts for each task that the load script has written.
-/

import ImagePipeline.Common.Doubles
import ImagePipeline.Loadtest.Jobs

namespace ImagePipeline.Benchmark

open Common
open Loadtest (WorkloadSummary)

def taskLabel (taskName : Str) : Str :=
  if taskName = str "light_grayscale_small" then str "Grayscale S"
  else if taskName = str "light_rotate_small" then str "Rotate S"
  else if taskName = str "light_region_blur_medium" then str "Region Blur M"
  else if taskName = str "medium_thumbnail_medium" then str "Thumbnail M"
  else if taskName = str "medium_edge_detect_medium" then str "Edge Detect M"
  else if taskName = str "heavy_blur_repeat_medium" then str "Blur Repeat M"
  else if taskName = str "heavy_mixed_pipeline_medium" then str "Mixed Heavy M"
  else taskName

structure TaskShare where
  submitted : Nat
  completed : Nat
  submittedPercent : PyFloat
  label : Str

structure WorkloadReport where
  totalSubmitted : Nat
  totalCompleted : Nat
  taskDistribution : List (Str × TaskShare)

def percentageOf (count total : Nat) : PyFloat :=
  if total = 0 then .finite 0
  else (PyFloat.ofRat ((count : Rat) / (total : Rat))).mul (.finite 100)

def summarizeWorkload (summary : WorkloadSummary) : WorkloadReport :=
  let submitted := summary.submittedByTask
  let completed := summary.completedByTask
  let totalSubmitted := (submitted.map Prod.snd).sum
  { totalSubmitted := totalSubmitted
    totalCompleted := (completed.map Prod.snd).sum
    taskDistribution := submitted.map (fun entry =>
      (entry.1,
        { submitted := entry.2
          completed := (completed.lookup entry.1).getD 0
          submittedPercent := (percentageOf entry.2 totalSubmitted).round 2
          label := taskLabel entry.1 })) }

end ImagePipeline.Benchmark
