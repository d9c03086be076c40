/-
The comparison of sweeps. The pass that plots the efficiencies reads a key that
only the next pass sets, so that `main` ends there on every list of sweeps.
-/

import ImagePipeline.Properties.Stability

namespace ImagePipeline.Properties.SweepComparison

open Common Benchmark
open Benchmark.CompareSweeps
open Library (mapM_map_ok mapM_cons_ok mapM_cons_error)
open Stability (sweepRuntime sweepFloats smoothRun)

/-- A sweep with its rows as they were written. -/
structure Sweep where
  label : Str
  nodeCount : Int
  rows : List SweepRow

section Definitions

variable (runtime : Runtime) (floats : FloatText) (files : Str → Option (List CsvRow))

/-- The entry of the command line is one for the sweep. -/
structure Names (entry : Str) (sweep : Sweep) : Prop where
  nodes : 1 ≤ sweep.nodeCount
  parsed : ∃ path, parseEntry runtime entry = .ok (sweep.label, sweep.nodeCount, path) ∧
    files path = some (sweep.rows.map (SweepRow.cells runtime))
  readable : ∀ row ∈ sweep.rows, row.ReadsBack runtime floats

/-- Throughput, speedup and efficiency as the comparison has to report them. -/
structure Reports (baseline : PyFloat) (sweep : Sweep) (summary : Dict) : Prop where
  throughput : summary.get? (str "stable_throughput") =
    some (.float (stableThroughput sweep.rows))
  speedup : summary.get? (str "speedup_vs_baseline") =
    some (if baseline.isZero then .null
      else .float ((stableThroughput sweep.rows).div baseline))
  efficiency : summary.get? (str "scaling_efficiency_percent") =
    some (if baseline.isZero then .null
      else .float ((((stableThroughput sweep.rows).div baseline).div
        (.ofRat sweep.nodeCount)).mul (.finite 100)))

/-- `main` completes, and has a right summary for each sweep; the first sweep is
the baseline. -/
def Compares (entries : List Str) (sweeps : List Sweep) : Prop :=
  ∃ comparison, main runtime floats files entries = .ok comparison ∧
    ∀ first ∈ sweeps.head?,
      List.Forall₂ (Reports (stableThroughput first.rows)) sweeps comparison.summaries

end Definitions

variable {runtime : Runtime} {floats : FloatText} {files : Str → Option (List CsvRow)}

/-- The summary that the first pass makes of the sweep. -/
def Sweep.collected (sweep : Sweep) : Dict :=
  CompareSweeps.collected sweep.label sweep.nodeCount sweep.rows

theorem Names.collect_eq {entry : Str} {sweep : Sweep}
    (names : Names runtime floats files entry sweep) :
    collect runtime floats files entry = .ok sweep.collected := by
  obtain ⟨path, parsed, found⟩ := names.parsed
  unfold collect
  rw [parsed]
  dsimp only [bind, Except.bind]
  rw [found]
  exact summarize_eq names.readable sweep.label sweep.nodeCount

theorem collect_all {entries : List Str} {sweeps : List Sweep}
    (named : List.Forall₂ (Names runtime floats files) entries sweeps) :
    entries.mapM (collect runtime floats files) = .ok (sweeps.map Sweep.collected) := by
  induction named with
  | nil => rfl
  | cons names _ ih =>
      rw [mapM_cons_ok names.collect_eq, ih]
      rfl

/-- After the first pass no summary has the key that the second one reads. -/
theorem plotEfficiencies_collected {sweeps : List Sweep} (some : sweeps ≠ []) :
    plotEfficiencies (sweeps.map Sweep.collected) = .error .keyError := by
  cases sweeps with
  | nil => exact absurd rfl some
  | cons first rest =>
      have nodes : ((first :: rest).map Sweep.collected).mapM (fun summary =>
          item summary (str "node_count")) =
            .ok ((first :: rest).map (fun sweep => .int sweep.nodeCount)) :=
        mapM_map_ok (fun sweep _ => rfl)
      have efficiencies : ((first :: rest).map Sweep.collected).mapM (fun summary =>
          item summary (str "scaling_efficiency_percent")) = .error .keyError :=
        mapM_cons_error rfl
      rw [plotEfficiencies, nodes, efficiencies]
      rfl

theorem main_raises {entries : List Str} {sweeps : List Sweep} (some : sweeps ≠ [])
    (named : List.Forall₂ (Names runtime floats files) entries sweeps) :
    main runtime floats files entries = .error .keyError := by
  rw [main, collect_all named]
  dsimp only [bind, Except.bind]
  rw [plotEfficiencies_collected some]

theorem not_compares {entries : List Str} {sweeps : List Sweep} {raised : Exn}
    (failed : main runtime floats files entries = .error raised) :
    ¬ Compares runtime floats files entries sweeps := by
  intro compares
  obtain ⟨comparison, completed, _⟩ := compares
  rw [failed] at completed
  cases completed

/-- On no sweeps does `main` do what it is for. -/
theorem main_never_compares {entries : List Str} {sweeps : List Sweep} (some : sweeps ≠ [])
    (named : List.Forall₂ (Names runtime floats files) entries sweeps) :
    main runtime floats files entries = .error .keyError ∧
    ¬ Compares runtime floats files entries sweeps := by
  have raised := main_raises some named
  exact ⟨raised, not_compares raised⟩

/-! ### One node and two -/

def oneNode : Sweep := ⟨str "one", 1, [smoothRun 10 10]⟩

/-- Not a row of this sweep is stable. -/
def twoNodes : Sweep := ⟨str "two", 2, [smoothRun 20 10]⟩

def sweepFiles (path : Str) : Option (List CsvRow) :=
  if path = str "one.csv" then some (oneNode.rows.map (SweepRow.cells sweepRuntime))
  else if path = str "two.csv" then some (twoNodes.rows.map (SweepRow.cells sweepRuntime))
  else none

theorem oneNode_named :
    Names sweepRuntime sweepFloats sweepFiles (str "one:1=one.csv") oneNode :=
  ⟨by decide, ⟨str "one.csv", by decide +kernel, rfl⟩, by decide +kernel⟩

theorem twoNodes_named :
    Names sweepRuntime sweepFloats sweepFiles (str "two:2=two.csv") twoNodes :=
  ⟨by decide, ⟨str "two.csv", by decide +kernel, rfl⟩, by decide +kernel⟩

/-- A single sweep with a stable row is enough. -/
theorem oneNode_raises :
    main sweepRuntime sweepFloats sweepFiles [str "one:1=one.csv"] = .error .keyError ∧
    ¬ Compares sweepRuntime sweepFloats sweepFiles [str "one:1=one.csv"] [oneNode] := by
  have raised : main sweepRuntime sweepFloats sweepFiles [str "one:1=one.csv"] =
      .error .keyError := main_raises (List.cons_ne_nil oneNode []) (.cons oneNode_named .nil)
  exact ⟨raised, not_compares raised⟩

theorem main_never_compares_two :
    main sweepRuntime sweepFloats sweepFiles [str "one:1=one.csv", str "two:2=two.csv"] =
      .error .keyError ∧
    ¬ Compares sweepRuntime sweepFloats sweepFiles [str "one:1=one.csv", str "two:2=two.csv"]
      [oneNode, twoNodes] :=
  main_never_compares (List.cons_ne_nil _ _)
    (.cons oneNode_named (.cons twoNodes_named .nil))

/-! ### The passes that are not reached -/

def speedupOf (baseline : PyFloat) (sweep : Sweep) : Json :=
  if baseline.isZero then .null else .float ((stableThroughput sweep.rows).div baseline)

def efficiencyOf (baseline : PyFloat) (sweep : Sweep) : Json :=
  if baseline.isZero then .null
  else .float ((((stableThroughput sweep.rows).div baseline).div
    (.ofRat sweep.nodeCount)).mul (.finite 100))

def derived (baseline : PyFloat) (sweep : Sweep) : Dict :=
  sweep.collected ++
    [(str "speedup_vs_baseline", speedupOf baseline sweep),
      (str "scaling_efficiency_percent", efficiencyOf baseline sweep)]

/-- The third pass would derive what has to be reported, if `float` takes the
number of nodes. -/
theorem derive_collected {sweep : Sweep} (baseline : PyFloat)
    (convertible : operand (.int sweep.nodeCount) = .ok (.ofRat sweep.nodeCount))
    (nodes : (PyFloat.ofRat sweep.nodeCount).isZero = false) :
    derive (.float baseline) sweep.collected = .ok (derived baseline sweep) ∧
      Reports baseline sweep (derived baseline sweep) := by
  refine ⟨?_, rfl, rfl, rfl⟩
  have throughput : item sweep.collected (str "stable_throughput") =
      .ok (.float (stableThroughput sweep.rows)) := rfl
  have nodeCount : item sweep.collected (str "node_count") = .ok (.int sweep.nodeCount) := rfl
  unfold derive
  rw [throughput, nodeCount, truth_float]
  unfold derived speedupOf efficiencyOf
  cases zero : baseline.isZero with
  | true => rfl
  | false =>
      dsimp only [bind, Except.bind]
      rw [divide_ok rfl rfl zero]
      dsimp only
      rw [divide_ok rfl convertible nodes]
      rfl

theorem peakThroughput_operand (rows : List SweepRow) :
    ∃ peak, operand (peakThroughput rows) = .ok peak := by
  unfold peakThroughput
  cases PyFloat.maximum? (rows.map SweepRow.throughput) with
  | none => exact ⟨.finite 0, by decide +kernel⟩
  | some peak => exact ⟨peak, rfl⟩

/-- The last pass would have no text for a speedup that is not available. -/
theorem tableLine_null {baseline : PyFloat} (zero : baseline.isZero = true) (sweep : Sweep) :
    tableLine runtime floats (derived baseline sweep) = .error .typeError := by
  obtain ⟨peak, isPeak⟩ := peakThroughput_operand sweep.rows
  have speedup : item (derived baseline sweep) (str "speedup_vs_baseline") = .ok .null := by
    rw [derived, speedupOf, zero]
    rfl
  have peakItem : item (derived baseline sweep) (str "peak_throughput") =
      .ok (peakThroughput sweep.rows) := rfl
  unfold tableLine
  rw [speedup, peakItem]
  dsimp only [bind, Except.bind]
  rw [fixed, fixed, isPeak]
  rfl

end ImagePipeline.Properties.SweepComparison
