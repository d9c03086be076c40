/-
The throughput over time from the logs of the workers to its plot: the points of
the plot are the seconds in which jobs were finished, each with how many.
-/

import ImagePipeline.Benchmark.JsonTokens
import ImagePipeline.Benchmark.ThroughputTimeline
import ImagePipeline.Properties.ContainerLogs
import ImagePipeline.Properties.NodeFiles

namespace ImagePipeline.Properties.ThroughputPlot

open Common Benchmark
open Library (mapM_map_ok)
open Properties.ContainerLogs
open Properties.LogAnalysis (finishedSeconds lineSecond sortFields_completedPerSecond_rows)
open Properties.NodeFiles (Plain loadCsv_plain)
open Properties.ReadBack (plainName)

/-! ### Rows that can be plotted -/

def rowAt (clock : Clock) (second : Int) (jobs : Nat) : ThroughputRow :=
  ⟨clock.isoFormat second, jobs⟩

/-- The same row as a reader gets it. -/
def rowRead (clock : Clock) (second : Int) (jobs : Nat) : DictRow :=
  fullRow (throughputFieldnames.zip [clock.isoFormat second, natDigits jobs])

/-- Python reads the texts of a second and of a number as it printed them. -/
structure Plottable (reader : Runtime) (clock : Clock) (second : Int) (jobs : Nat) : Prop where
  parsed : (clock.parseTime (clock.isoFormat second)).map DateTime.instant = .ok second
  plain : plainName (clock.isoFormat second) = true
  short : (natDigits jobs).length ≤ maxStrDigits
  integer : reader.intOfStr (natDigits jobs) = some (jobs : Int)

theorem natDigits_plain {value : Nat} (short : (natDigits value).length ≤ maxStrDigits) :
    plainName (natDigits value) = true := by
  have digits : codePoint '\r' ∉ natDigits value := by
    intro member
    have digit := List.all_eq_true.mp (natDigits_isDigit value) _ member
    exact absurd digit (by decide)
  have limit : maxStrDigits ≤ excel.fieldLimit := by decide
  exact Bool.and_eq_true_iff.mpr ⟨decide_eq_true digits, decide_eq_true (short.trans limit)⟩

section Points

variable {reader : Runtime} {clock : Clock} {seconds : List Int} {jobs : Int → Nat}

theorem plottedTime_rowRead {second : Int} {jobs : Nat}
    (readable : Plottable reader clock second jobs) :
    plottedTime clock (rowRead clock second jobs) = .ok second := by
  have item : (rowRead clock second jobs).item (str "timestamp") =
      .ok (some (clock.isoFormat second)) := rfl
  have back := readable.parsed
  unfold plottedTime
  rw [item]
  cases parsed : clock.parseTime (clock.isoFormat second) with
  | error raised =>
      rw [parsed] at back
      cases back
  | ok time =>
      rw [parsed] at back
      simp only [bind, Except.bind, parsed]
      exact congrArg Except.ok (Except.ok.inj back)

theorem plottedJobs_rowRead {second : Int} {jobs : Nat}
    (readable : Plottable reader clock second jobs) :
    plottedJobs reader (rowRead clock second jobs) = .ok (jobs : Int) := by
  have item : (rowRead clock second jobs).item (str "completed_jobs") =
      .ok (some (natDigits jobs)) := rfl
  unfold plottedJobs
  rw [item]
  simp only [bind, Except.bind, readable.integer]
  rfl

theorem throughputTable_plain
    (plottable : ∀ second ∈ seconds, Plottable reader clock second (jobs second)) :
    Plain (throughputTable (seconds.map (fun second => rowAt clock second (jobs second)))) := by
  intro row member
  obtain ⟨source, inside, rfl⟩ := List.mem_map.mp member
  obtain ⟨second, present, rfl⟩ := List.mem_map.mp inside
  have readable := plottable second present
  exact List.forall_mem_cons.mpr
    ⟨readable.plain, List.forall_mem_singleton.mpr (natDigits_plain readable.short)⟩

theorem throughputPoints_eq
    (plottable : ∀ second ∈ seconds, Plottable reader clock second (jobs second)) :
    throughputPoints reader clock
        (some (throughputTable
          (seconds.map (fun second => rowAt clock second (jobs second)))).text) =
      .ok (seconds.map (fun second => (second, (jobs second : Int)))) := by
  have names : ∀ name ∈ throughputFieldnames, plainName name = true := by decide
  have loaded := loadCsv_plain
    (throughputTable (seconds.map (fun second => rowAt clock second (jobs second)))) names
    (throughputTable_plain plottable)
  have rows : (throughputTable
      (seconds.map (fun second => rowAt clock second (jobs second)))).dicts.map fullRow =
        seconds.map (fun second => rowRead clock second (jobs second)) := by
    simp only [CsvTable.dicts, throughputTable, List.map_map]
    rfl
  have times : (seconds.map (fun second => rowRead clock second (jobs second))).mapM
      (plottedTime clock) = .ok (seconds.map (fun second => second)) :=
    mapM_map_ok fun second member => plottedTime_rowRead (plottable second member)
  have counts : (seconds.map (fun second => rowRead clock second (jobs second))).mapM
      (plottedJobs reader) = .ok (seconds.map (fun second => (jobs second : Int))) :=
    mapM_map_ok fun second member => plottedJobs_rowRead (plottable second member)
  unfold throughputPoints
  rw [loaded, rows]
  dsimp only
  rw [times, counts]
  exact congrArg Except.ok (List.zip_map' ..)

end Points

/-! ### The plot of a run -/

/-- The texts of the seconds of the lines sort in the order of time, and Python reads
them and the number of the lines, as it does every smaller one, as it printed them. -/
structure PlottableRun (reader : Runtime) (clock : Clock) (nodes : List RemoteNode) : Prop where
  plottable : ∀ line ∈ collectedLines nodes, ∀ second, secondOf clock line.2.2 = some second →
    ∀ jobs ≤ (collectedLines nodes).length, Plottable reader clock second jobs
  chronological : ∀ line ∈ collectedLines nodes, ∀ left, secondOf clock line.2.2 = some left →
    ∀ other ∈ collectedLines nodes, ∀ right, secondOf clock other.2.2 = some right →
      Str.le (clock.isoFormat left) (clock.isoFormat right) = true → left ≤ right

section Runs

variable {runtime reader : Runtime} {log : LogRuntime} {clock : Clock} {run : RunLogs}
  {nodes : List RemoteNode} {disk : Disk} {runDir : Path}

/-- The jobs that were logged to be finished in a second. -/
def finishedIn (clock : Clock) (nodes : List RemoteNode) (second : Int) : Nat :=
  (collectedLines nodes).countP (fun line =>
    isFinishedLine line.2.2 && secondOf clock line.2.2 = some second)

theorem count_finishedSeconds (collected : run.Collected runtime nodes disk runDir)
    (legible : ∀ line ∈ collectedLines nodes, Legible runtime log clock line.2.2)
    (second : Int) :
    (finishedSeconds log clock run).count second = finishedIn clock nodes second := by
  rw [(finishedSeconds_perm collected legible).count_eq, List.count, List.countP_filterMap]
  apply List.countP_congr
  intro line member
  obtain ⟨known, inSecond, atLine⟩ := lineSecond_eq (legible line member)
  rw [atLine, inSecond]
  cases isFinishedLine line.2.2 <;> simp

theorem mem_finishedSeconds (collected : run.Collected runtime nodes disk runDir)
    (legible : ∀ line ∈ collectedLines nodes, Legible runtime log clock line.2.2)
    {second : Int} : second ∈ finishedSeconds log clock run ↔
      ∃ line ∈ collectedLines nodes, isFinishedLine line.2.2 = true ∧
        secondOf clock line.2.2 = some second := by
  rw [← List.count_pos_iff, count_finishedSeconds collected legible, finishedIn,
    List.countP_pos_iff]
  simp only [Bool.and_eq_true, decide_eq_true_eq]

end Runs

/-! ### The plot of a pixel -/

open Properties.LogAnalysis (logRuntime logClock)

/-- It reads no number but those up to the four of the lines. -/
def pixelReader : Runtime :=
  { zeroRuntime with
    intOfStr := fun text => ([0, 1, 2, 3, 4] : List Nat).findSome? (fun value =>
      if text = natDigits value then some (value : Int) else none) }

theorem pixel_second : ∀ line ∈ collectedLines pixelNodes,
    secondOf logClock line.2.2 = some 1767225601000000 := by decide +kernel

theorem pixel_plottable : PlottableRun pixelReader logClock pixelNodes where
  plottable line member second atLine jobs bound := by
    rw [pixel_second line member] at atLine
    cases atLine
    have few : jobs < 5 := Nat.lt_succ_of_le bound
    have short : ∀ jobs < 5, (natDigits jobs).length ≤ maxStrDigits := by decide
    have integers : ∀ jobs < 5, pixelReader.intOfStr (natDigits jobs) = some (jobs : Int) := by
      decide
    exact
      { parsed := by decide
        plain := by decide
        short := short jobs few
        integer := integers jobs few }
  chronological line member left atLeft other present right atRight _ := by
    rw [pixel_second line member] at atLeft
    rw [pixel_second other present] at atRight
    cases atLeft
    cases atRight
    exact le_rfl

end ImagePipeline.Properties.ThroughputPlot
