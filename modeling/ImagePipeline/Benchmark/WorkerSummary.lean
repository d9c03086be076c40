/-
The lines about workers in the report on a run, `build_worker_summary_lines` of
`report_generator.py`.
-/

import ImagePipeline.Common.JsonPrinter

namespace ImagePipeline.Benchmark

open Common
open Library (Stops run_reads)

/-- What `run.get` gives for the fields that count workers; `none` also where
the field is absent. -/
structure WorkerFields where
  mainNodeDefaultWorkers : Option Nat
  mainNodeHeavyWorkers : Option Nat
  workerNodes : Option Nat
  workersPerNode : Option Nat
  workerNodeDefaultWorkers : Option Nat
  workerNodeHeavyWorkers : Option Nat
  defaultWorkers : Option Nat
  heavyWorkers : Option Nat
  totalWorkers : Option Nat

def summaryLine (label : String) (value : Str) : Str :=
  str "- " ++ (str label ++ (str ": `" ++ (value ++ str "`")))

/-- `f"{value}"`. -/
def optionText (value : Option Nat) : Str :=
  match value with
  | some value => natDigits value
  | none => str "None"

/-- `value or 0`. -/
def orZero (value : Option Nat) : Nat := value.getD 0

/-- What `default_workers` or `heavy_workers` is after the missing one has been
computed from the nodes. -/
def derivedTotal (total main workerNodes each : Option Nat) : Option Nat :=
  match total, main with
  | none, some main => some (main + orZero workerNodes * orZero each)
  | total, _ => total

def buildWorkerSummaryLines (run : WorkerFields) : List Str :=
  if run.mainNodeDefaultWorkers = none ∧ run.mainNodeHeavyWorkers = none ∧
      run.workerNodeDefaultWorkers = none ∧ run.workerNodeHeavyWorkers = none then
    if run.defaultWorkers ≠ none ∨ run.heavyWorkers ≠ none then
      let totalWorkers :=
        run.totalWorkers.getD (orZero run.defaultWorkers + orZero run.heavyWorkers)
      [summaryLine "Default workers" (natDigits (orZero run.defaultWorkers)),
        summaryLine "Heavy workers" (natDigits (orZero run.heavyWorkers)),
        summaryLine "Total workers" (natDigits totalWorkers)]
    else
      [summaryLine "Worker nodes" (optionText run.workerNodes),
        summaryLine "Workers per node" (optionText run.workersPerNode)]
  else
    let totalWorkers := run.totalWorkers.getD (orZero run.defaultWorkers + orZero run.heavyWorkers)
    let defaultWorkers := derivedTotal run.defaultWorkers run.mainNodeDefaultWorkers
      run.workerNodes run.workerNodeDefaultWorkers
    let heavyWorkers := derivedTotal run.heavyWorkers run.mainNodeHeavyWorkers
      run.workerNodes run.workerNodeHeavyWorkers
    [summaryLine "Main node default workers" (natDigits (orZero run.mainNodeDefaultWorkers)),
      summaryLine "Main node heavy workers" (natDigits (orZero run.mainNodeHeavyWorkers)),
      summaryLine "Worker nodes" (natDigits (orZero run.workerNodes)),
      summaryLine "Worker node default workers each"
        (natDigits (orZero run.workerNodeDefaultWorkers)),
      summaryLine "Worker node heavy workers each" (natDigits (orZero run.workerNodeHeavyWorkers)),
      summaryLine "Total default workers" (natDigits (orZero defaultWorkers)),
      summaryLine "Total heavy workers" (natDigits (orZero heavyWorkers)),
      summaryLine "Total workers" (natDigits totalWorkers)]

/-- A label ends at its colon, so a line says what it is about. -/
theorem summaryLine_inj {left right : String} {value other : Str}
    (labelLeft : codePoint ':' ∉ str left) (labelRight : codePoint ':' ∉ str right) :
    summaryLine left value = summaryLine right other ↔ left = right ∧ value = other := by
  constructor
  · intro same
    have labels := List.append_cancel_left same
    have stops (rest : Str) : Stops (fun letter => letter = codePoint ':') (str ": `" ++ rest) :=
      Stops.cons rfl
    have runs {label : String} (named : codePoint ':' ∉ str label) :
        ∀ letter ∈ str label, ¬ letter = codePoint ':' := by
      rintro letter member rfl
      exact named member
    obtain ⟨sameLabel, values⟩ := run_reads (runs labelLeft) (runs labelRight) (stops _) (stops _)
      labels
    have ended := List.append_cancel_left values
    exact ⟨(str_inj left right).mp sameLabel, List.append_cancel_right ended⟩
  · rintro ⟨rfl, rfl⟩
    rfl

theorem orZero_derivedTotal (total main workerNodes each : Option Nat) :
    orZero (derivedTotal total main workerNodes each) = orZero total +
      (if total = none then
        (main.map (fun main => main + orZero workerNodes * orZero each)).getD 0 else 0) := by
  cases total with
  | none => cases main <;> simp [derivedTotal, orZero]
  | some total => rfl

end ImagePipeline.Benchmark
