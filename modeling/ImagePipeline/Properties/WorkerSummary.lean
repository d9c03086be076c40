/-
The total of the report on a run is computed before the two numbers that it
should be the sum of.
-/

import ImagePipeline.Benchmark.WorkerSummary

namespace ImagePipeline.Properties.WorkerSummary

open Common Benchmark

/-- One of the labels stands in front of the value. -/
def Prints (lines : List Str) (labels : List String) (value : Nat) : Prop :=
  ∃ label ∈ labels, summaryLine label (natDigits value) ∈ lines

/-- Where a summary has a total for both kinds of workers and one for all of
them, that one is the sum. -/
def AddsUp (lines : List Str) : Prop :=
  ∀ default heavy total,
    Prints lines ["Default workers", "Total default workers"] default →
    Prints lines ["Heavy workers", "Total heavy workers"] heavy →
    Prints lines ["Total workers"] total → total = default + heavy

/-- The report does not have to compute the total of one kind of workers, or
computes that there are none. -/
def NotDerived (total main workerNodes each : Option Nat) : Prop :=
  total ≠ none ∨ ∀ count, main = some count → count + orZero workerNodes * orZero each = 0

theorem orZero_derivedTotal_iff {total main workerNodes each : Option Nat} :
    orZero (derivedTotal total main workerNodes each) = orZero total ↔
      NotDerived total main workerNodes each := by
  rw [orZero_derivedTotal]
  unfold NotDerived
  cases total with
  | none => cases main <;> simp
  | some total => simp

theorem orZero_le_derivedTotal (total main workerNodes each : Option Nat) :
    orZero total ≤ orZero (derivedTotal total main workerNodes each) := by
  rw [orZero_derivedTotal]
  omega

theorem addsUp_iff {lines : List Str} {default heavy total : Nat}
    (atDefault : ∀ value,
      Prints lines ["Default workers", "Total default workers"] value ↔ value = default)
    (atHeavy : ∀ value,
      Prints lines ["Heavy workers", "Total heavy workers"] value ↔ value = heavy)
    (atTotal : ∀ value, Prints lines ["Total workers"] value ↔ value = total) :
    AddsUp lines ↔ total = default + heavy := by
  constructor
  · intro addsUp
    exact addsUp default heavy total ((atDefault default).mpr rfl) ((atHeavy heavy).mpr rfl)
      ((atTotal total).mpr rfl)
  · intro sum first second whole printedDefault printedHeavy printedTotal
    rw [(atDefault first).mp printedDefault, (atHeavy second).mp printedHeavy,
      (atTotal whole).mp printedTotal, sum]

theorem natDigits_inj {left right : Nat} : natDigits left = natDigits right ↔ left = right :=
  ⟨natDigits_injective, congrArg natDigits⟩

theorem addsUp_totals (default heavy total : Nat) :
    AddsUp [summaryLine "Default workers" (natDigits default),
      summaryLine "Heavy workers" (natDigits heavy),
      summaryLine "Total workers" (natDigits total)] ↔ total = default + heavy := by
  apply addsUp_iff <;> intro value <;>
    simp (disch := decide) [Prints, summaryLine_inj, natDigits_inj]

theorem addsUp_nodes (workerNodes workersPerNode : Str) :
    AddsUp [summaryLine "Worker nodes" workerNodes,
      summaryLine "Workers per node" workersPerNode] := by
  intro default heavy total printed
  simp (disch := decide) [Prints, summaryLine_inj] at printed

theorem addsUp_perNode (mainDefault mainHeavy workerNodes eachDefault eachHeavy : Str)
    (default heavy total : Nat) :
    AddsUp [summaryLine "Main node default workers" mainDefault,
      summaryLine "Main node heavy workers" mainHeavy,
      summaryLine "Worker nodes" workerNodes,
      summaryLine "Worker node default workers each" eachDefault,
      summaryLine "Worker node heavy workers each" eachHeavy,
      summaryLine "Total default workers" (natDigits default),
      summaryLine "Total heavy workers" (natDigits heavy),
      summaryLine "Total workers" (natDigits total)] ↔ total = default + heavy := by
  apply addsUp_iff <;> intro value <;>
    simp (disch := decide) [Prints, summaryLine_inj, natDigits_inj]

/-- With no total for all workers given, the printed totals add up if and only
if the two others are not derived from the nodes. -/
theorem summary_adds_up_iff (run : WorkerFields) (absent : run.totalWorkers = none) :
    AddsUp (buildWorkerSummaryLines run) ↔
      NotDerived run.defaultWorkers run.mainNodeDefaultWorkers run.workerNodes
        run.workerNodeDefaultWorkers ∧
      NotDerived run.heavyWorkers run.mainNodeHeavyWorkers run.workerNodes
        run.workerNodeHeavyWorkers := by
  unfold buildWorkerSummaryLines
  rw [absent]
  split
  · rename_i noNodes
    obtain ⟨noDefault, noHeavy, _, _⟩ := noNodes
    have fine (total each : Option Nat) : NotDerived total none run.workerNodes each := by
      refine .inr fun count impossible => ?_
      cases impossible
    rw [noDefault, noHeavy]
    refine iff_of_true ?_ ⟨fine _ _, fine _ _⟩
    split
    · exact (addsUp_totals _ _ _).mpr rfl
    · exact addsUp_nodes _ _
  · refine (addsUp_perNode _ _ _ _ _ _ _ _).trans ?_
    rw [← orZero_derivedTotal_iff, ← orZero_derivedTotal_iff]
    have default := orZero_le_derivedTotal run.defaultWorkers run.mainNodeDefaultWorkers
      run.workerNodes run.workerNodeDefaultWorkers
    have heavy := orZero_le_derivedTotal run.heavyWorkers run.mainNodeHeavyWorkers
      run.workerNodes run.workerNodeHeavyWorkers
    rw [Option.getD_none]
    omega

/-- Three workers on the main node, and nothing else is known. -/
def mainOnly : WorkerFields :=
  { mainNodeDefaultWorkers := some 3
    mainNodeHeavyWorkers := none
    workerNodes := none
    workersPerNode := none
    workerNodeDefaultWorkers := none
    workerNodeHeavyWorkers := none
    defaultWorkers := none
    heavyWorkers := none
    totalWorkers := none }

theorem mainOnly_not_summed :
    summaryLine "Total default workers" (str "3") ∈ buildWorkerSummaryLines mainOnly ∧
    summaryLine "Total heavy workers" (str "0") ∈ buildWorkerSummaryLines mainOnly ∧
    summaryLine "Total workers" (str "0") ∈ buildWorkerSummaryLines mainOnly ∧
    ¬ AddsUp (buildWorkerSummaryLines mainOnly) := by
  have default : summaryLine "Total default workers" (str "3") ∈
      buildWorkerSummaryLines mainOnly := by decide +kernel
  have heavy : summaryLine "Total heavy workers" (str "0") ∈
      buildWorkerSummaryLines mainOnly := by decide +kernel
  have total : summaryLine "Total workers" (str "0") ∈
      buildWorkerSummaryLines mainOnly := by decide +kernel
  refine ⟨default, heavy, total, fun addsUp => ?_⟩
  have sum := addsUp 3 0 0 ⟨_, by decide, default⟩ ⟨_, by decide, heavy⟩ ⟨_, by decide, total⟩
  omega

theorem summary_adds_up_iff_given :
    AddsUp (buildWorkerSummaryLines { mainOnly with defaultWorkers := some 3 }) :=
  (summary_adds_up_iff _ rfl).mpr
    ⟨.inl (by decide), .inr fun _ impossible => by cases impossible⟩

end ImagePipeline.Properties.WorkerSummary
