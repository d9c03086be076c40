/-
The two judgements of stability. The report on a sweep wants 95 percent of the
offered rate, the comparison of sweeps is content with 90, so they part on the
rows in between.
-/

import ImagePipeline.Benchmark.SweepReport
import ImagePipeline.Benchmark.CompareSweeps

namespace ImagePipeline.Properties.Stability

open Common Benchmark

/-- The row meets all the other conditions, and its throughput only one of the
two thresholds. -/
def Between (row : SweepRow) : Prop :=
  row.clean = true ∧ row.reaches (.literal 90 100) ≠ row.reaches (.literal 95 100)

instance (row : SweepRow) : Decidable (Between row) := inferInstanceAs (Decidable (_ ∧ _))

/-- Both accept the same rows of the file, and the largest stable rate of the
report is the one that the comparison lists. -/
structure JudgedTheSame (runtime : Runtime) (floats : FloatText) (link : Str → Str) (label : Str)
    (nodeCount : Int) (rows : List SweepRow) : Prop where
  accepted : ∀ row ∈ rows, SweepReport.isStable runtime floats (row.cells runtime) =
    CompareSweeps.isStable runtime floats (row.cells runtime)
  maximum : ∃ rate : Option PyFloat,
    (SweepReport.generateSweepReport runtime floats link
      (rows.map (SweepRow.cells runtime))).map SweepReport.Report.maxStableRate = .ok rate ∧
    (CompareSweeps.summarize runtime floats label nodeCount
      (rows.map (SweepRow.cells runtime))).map
        (fun summary => summary.get? (str "max_stable_rate")) = .ok (some (orNone .float rate))

variable {runtime : Runtime} {floats : FloatText} {rows : List SweepRow}

theorem stable_eq_iff (row : SweepRow) :
    SweepReport.stable row = CompareSweeps.stable row ↔ ¬ Between row := by
  unfold SweepReport.stable CompareSweeps.stable Between
  cases row.clean <;> cases row.reaches (.literal 90 100) <;>
    cases row.reaches (.literal 95 100) <;> decide

theorem between_iff {row : SweepRow} (nonneg : row.rate.isNegative = false) :
    Between row ↔ row.clean = true ∧ row.reaches (.literal 90 100) = true ∧
      row.reaches (.literal 95 100) = false := by
  have ninety : PyFloat.literal 90 100 = .finite (8106479329266893 / 9007199254740992) := by
    decide +kernel
  have ninetyFive : PyFloat.literal 95 100 = .finite (4278419646001971 / 4503599627370496) := by
    decide +kernel
  have lower (reached : row.reaches (.literal 95 100) = true) :
      row.reaches (.literal 90 100) = true := by
    unfold SweepRow.reaches at reached ⊢
    rw [ninetyFive] at reached
    rw [ninety]
    exact PyFloat.mul_le_of_le nonneg (by norm_num) (by norm_num) reached
  unfold Between
  cases reached : row.reaches (.literal 95 100) with
  | true => simp [lower reached]
  | false => simp

theorem stable_of_stable {row : SweepRow} (nonneg : row.rate.isNegative = false)
    (stable : SweepReport.stable row = true) : CompareSweeps.stable row = true := by
  by_contra unstable
  have between : Between row := by
    by_contra outside
    exact unstable (((stable_eq_iff row).mpr outside).symm.trans stable)
  have short := ((between_iff nonneg).mp between).2.2
  rw [SweepReport.stable, short] at stable
  cases stable

theorem accepted_iff (reads : ∀ row ∈ rows, row.ReadsBack runtime floats) :
    (∀ row ∈ rows, SweepReport.isStable runtime floats (row.cells runtime) =
      CompareSweeps.isStable runtime floats (row.cells runtime)) ↔
    ∀ row ∈ rows, ¬ Between row := by
  constructor
  · intro accepted row member
    have same := accepted row member
    rw [SweepReport.isStable_eq (reads row member), CompareSweeps.isStable_eq (reads row member)]
      at same
    exact (stable_eq_iff row).mp (Except.ok.inj same)
  · intro outside row member
    rw [SweepReport.isStable_eq (reads row member), CompareSweeps.isStable_eq (reads row member),
      (stable_eq_iff row).mpr (outside row member)]

/-- The two agree on a file exactly if none of its rows is between the
thresholds. -/
theorem judged_the_same_iff (reads : ∀ row ∈ rows, row.ReadsBack runtime floats)
    (link : Str → Str) (label : Str) (nodeCount : Int) :
    JudgedTheSame runtime floats link label nodeCount rows ↔ ∀ row ∈ rows, ¬ Between row := by
  constructor
  · intro same
    exact (accepted_iff reads).mp same.accepted
  · intro outside
    have filtered : rows.filter SweepReport.stable = rows.filter CompareSweeps.stable :=
      List.filter_congr (fun row member => (stable_eq_iff row).mpr (outside row member))
    constructor
    · exact (accepted_iff reads).mpr outside
    · refine ⟨_, SweepReport.generateSweepReport_ok reads link, ?_⟩
      rw [CompareSweeps.summarize_eq reads, filtered]
      rfl

/-! ### A sweep with a row at 92.5 percent -/

/-- The doubles of the sweep as Python prints them. -/
def printedDoubles : List (Rat × Str) :=
  [(0, str "0.0"), (10, str "10.0"), (37 / 2, str "18.5"), (39 / 2, str "19.5"), (20, str "20.0")]

def sweepRuntime : Runtime :=
  { intOfStr := fun text =>
      if text = str "0" then some 0 else if text = str "1" then some 1
      else if text = str "2" then some 2 else none
    floatRepr := fun value =>
      ((printedDoubles.find? (fun entry => .finite entry.1 = value)).map Prod.snd).getD []
    sha256 := fun _ => [] }

def sweepFloats : FloatText :=
  { floatOfStr := fun text =>
      if text = str "0" then some (.finite 0)
      else (printedDoubles.find? (fun entry => entry.2 = text)).map (fun entry => .finite entry.1)
    fixed := fun _ _ => [] }

/-- A run without failures and without a queue. -/
def smoothRun (rate throughput : Rat) : SweepRow :=
  { rate := .finite rate
    analysis :=
      { submittedJobs := some 0
        completedJobs := some 0
        completedJobsPerSecond := some (.float (.finite throughput))
        failedJobs := some 0
        rejectedJobs := some 0
        endToEndP95Ms := none
        avgCpuPercent := none
        maxCpuPercent := none }
    queues := ⟨0, 0, 0, some (.finite 0), some (.finite 0), some (.finite 0)⟩
    defaultWorkerCpu := ⟨none, none⟩
    heavyWorkerCpu := ⟨none, none⟩
    errorCount := 0
    runDir := str "runs/1" }

def nearRows : List SweepRow := [smoothRun 10 10, smoothRun 20 (37 / 2)]

/-- The report has 10 jobs a second as the largest stable rate, the comparison 20. -/
theorem nearRows_judged :
    (SweepReport.generateSweepReport sweepRuntime sweepFloats id
      (nearRows.map (SweepRow.cells sweepRuntime))).map SweepReport.Report.maxStableRate =
        .ok (some (.finite 10)) ∧
    (CompareSweeps.summarize sweepRuntime sweepFloats (str "one") 1
      (nearRows.map (SweepRow.cells sweepRuntime))).map
        (fun summary => summary.get? (str "max_stable_rate")) =
        .ok (some (.float (.finite 20))) ∧
    ¬ JudgedTheSame sweepRuntime sweepFloats id (str "one") 1 nearRows := by
  have reads : ∀ row ∈ nearRows, row.ReadsBack sweepRuntime sweepFloats := by decide +kernel
  have reported : PyFloat.maximum? ((nearRows.filter SweepReport.stable).map SweepRow.rate) =
      some (.finite 10) := by decide +kernel
  have listed : CompareSweeps.maxStableRate nearRows = some (.finite 20) := by decide +kernel
  refine ⟨?_, ?_, fun same => ?_⟩
  · rw [SweepReport.generateSweepReport_ok reads, reported]
  · rw [CompareSweeps.summarize_eq reads, CompareSweeps.collected, listed]
    rfl
  · have between : Between (smoothRun 20 (37 / 2)) := by decide +kernel
    exact (accepted_iff reads).mp same.accepted _ (by simp [nearRows]) between

theorem judged_the_same_iff_above :
    JudgedTheSame sweepRuntime sweepFloats id (str "one") 1
      [smoothRun 10 10, smoothRun 20 (39 / 2)] :=
  (judged_the_same_iff (by decide +kernel) id (str "one") 1).mpr (by decide +kernel)

end ImagePipeline.Properties.Stability
