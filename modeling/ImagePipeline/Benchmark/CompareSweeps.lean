/-
`compare_sweeps.py`: several sweeps against the first of them. A summary is a
dictionary that `main` goes over again and again: it collects the values of each
sweep, plots the efficiencies, derives speedup and efficiency, and writes a table
and a report. What matplotlib draws is left out.
-/

import ImagePipeline.Benchmark.SweepRows
import ImagePipeline.Library.Itemwise

namespace ImagePipeline.Benchmark.CompareSweeps

open Common
open Library (mapM_map_ok)

/-- `text.split(separator, 1)` into two; `none` if there is no separator. -/
def splitFirst (separator : CodePoint) (text : Str) : Option (Str × Str) :=
  match text.dropWhile (fun letter => letter ≠ separator) with
  | [] => none
  | _ :: rest => some (text.takeWhile (fun letter => letter ≠ separator), rest)

/-- `text.rsplit(separator, 1)` into two. -/
def splitLast (separator : CodePoint) (text : Str) : Option (Str × Str) :=
  (splitFirst separator text.reverse).map (fun parts => (parts.2.reverse, parts.1.reverse))

/-- `dict[key]`. -/
def item (dict : Dict) (key : Str) : Except Exn Json :=
  match dict.get? key with
  | some value => .ok value
  | none => .error .keyError

/-- `dict[key] = value`. -/
def setItem : Dict → Str → Json → Dict
  | [], key, value => [(key, value)]
  | field :: rest, key, value =>
      if field.1 = key then (key, value) :: rest else field :: setItem rest key value

/-- A number as the operand of a float operation. -/
def operand : Json → Except Exn PyFloat
  | .float value => .ok value
  | .int value =>
      match PyFloat.ofRat value with
      | .infinity _ => .error .overflowError
      | double => .ok double
  | _ => .error .typeError

/-- `left / right`, one of them a float. -/
def divide (left right : Json) : Except Exn PyFloat := do
  let left ← operand left
  let right ← operand right
  if right.isZero then .error .other else pure (left.div right)

/-- `bool(value)` of a number or `None`. -/
def truth : Json → Bool
  | .float value => !value.isZero
  | .int value => value ≠ 0
  | _ => false

section Main

variable (runtime : Runtime) (floats : FloatText)

def isStable (row : CsvRow) : Except Exn Bool := do
  let rate ← rateOf floats row
  let throughput ← throughputOf floats row
  if !(rate.mul (.literal 90 100)).le throughput then pure false
  else if (← countOf runtime row (str "failed_jobs")) ≠ 0 then pure false
  else if (← countOf runtime row (str "rejected_jobs")) ≠ 0 then pure false
  else if (← countOf runtime row (str "error_count")) ≠ 0 then pure false
  else pure ((← countOf runtime row (str "max_queue_length")) = 0)

/-- The label, the number of nodes and the path of an entry of `--sweeps`. -/
def parseEntry (entry : Str) : Except Exn (Str × Int × Str) :=
  match splitFirst (codePoint '=') entry with
  | none => .error .valueError
  | some (labelNodes, path) =>
      match splitLast (codePoint ':') labelNodes with
      | none => .error .valueError
      | some (label, nodeCount) =>
          match runtime.intOfStr nodeCount with
          | some nodes => .ok (label, nodes, path)
          | none => .error .valueError

def stableRows : List CsvRow → Except Exn (List CsvRow)
  | [] => pure []
  | row :: rest => do
      let stable ← isStable runtime floats row
      let others ← stableRows rest
      pure (if stable then row :: others else others)

/-- `max(read(row) for row in rows) if rows else default`. -/
def maximumOf (read : CsvRow → Except Exn PyFloat) (default : Json) (rows : List CsvRow) :
    Except Exn Json := do
  let values ← rows.mapM read
  pure (((PyFloat.maximum? values).map .float).getD default)

/-- The summary that the first pass appends for the rows of a sweep. -/
def summarize (label : Str) (nodeCount : Int) (rows : List CsvRow) : Except Exn Dict := do
  let _ ← rows.mapM (rateOf floats)
  let throughputs ← rows.mapM (throughputOf floats)
  let stable ← stableRows runtime floats rows
  let stableThroughput ← maximumOf (throughputOf floats) (.float (.finite 0)) stable
  let maxStableRate ← maximumOf (rateOf floats) .null stable
  let peakThroughput := ((PyFloat.maximum? throughputs).map Json.float).getD (.int 0)
  pure
    [(str "setup", .str label), (str "node_count", .int nodeCount),
      (str "max_stable_rate", maxStableRate), (str "stable_throughput", stableThroughput),
      (str "peak_throughput", peakThroughput)]

/-- One round of the first pass; a missing file is a `FileNotFoundError`. -/
def collect (files : Str → Option (List CsvRow)) (entry : Str) : Except Exn Dict := do
  let (label, nodeCount, path) ← parseEntry runtime entry
  match files path with
  | none => .error .other
  | some rows => summarize runtime floats label nodeCount rows

/-- The second pass: the points of the plot of the efficiencies. -/
def plotEfficiencies (summaries : List Dict) : Except Exn (List (Json × Json)) := do
  let nodes ← summaries.mapM (fun summary => item summary (str "node_count"))
  let efficiencies ← summaries.mapM (fun summary =>
    item summary (str "scaling_efficiency_percent"))
  pure (nodes.zip efficiencies)

def baselineOf : List Dict → Except Exn Json
  | [] => pure (.int 0)
  | first :: _ => item first (str "stable_throughput")

/-- One round of the third pass. -/
def derive (baseline : Json) (summary : Dict) : Except Exn Dict := do
  if truth baseline then
    let speedup ← divide (← item summary (str "stable_throughput")) baseline
    let share ← divide (.float speedup) (← item summary (str "node_count"))
    pure (setItem (setItem summary (str "speedup_vs_baseline") (.float speedup))
      (str "scaling_efficiency_percent") (.float (share.mul (.finite 100))))
  else
    pure (setItem (setItem summary (str "speedup_vs_baseline") .null)
      (str "scaling_efficiency_percent") .null)

def fieldnames : List Str :=
  [str "setup", str "node_count", str "max_stable_rate", str "stable_throughput",
    str "peak_throughput", str "speedup_vs_baseline", str "scaling_efficiency_percent"]

/-- `csv.DictWriter.writerow`: a key that is not among the fields is a `ValueError`. -/
def writeRow (summary : Dict) : Except Exn (List Str) :=
  if summary.all (fun field => fieldnames.contains field.1) then
    .ok (fieldnames.map (fun field => csvCell runtime (summary.getD field .null)))
  else .error .valueError

/-- `f"{value:.{digits}f}"`. -/
def fixed (digits : Nat) (value : Json) : Except Exn Str :=
  (operand value).map (floats.fixed digits)

/-- One round of the last pass. -/
def tableLine (summary : Dict) : Except Exn Str := do
  let speedup ← item summary (str "speedup_vs_baseline")
  let efficiency ← item summary (str "scaling_efficiency_percent")
  let setup ← item summary (str "setup")
  let nodeCount ← item summary (str "node_count")
  let maxStableRate ← item summary (str "max_stable_rate")
  let stableThroughput ← fixed floats 3 (← item summary (str "stable_throughput"))
  let peakThroughput ← fixed floats 3 (← item summary (str "peak_throughput"))
  let speedup ← fixed floats 2 speedup
  let efficiency ← fixed floats 2 efficiency
  pure (str "| " ++ runtime.scalarText setup ++ str " | " ++ runtime.scalarText nodeCount ++
    str " | " ++
    (match maxStableRate with
      | .null => str "n/a"
      | rate => runtime.scalarText rate) ++ str " | " ++ stableThroughput ++ str " | " ++
    peakThroughput ++ str " | " ++ speedup ++ str "x | " ++ efficiency ++ str "% |")

structure Comparison where
  summaries : List Dict
  table : List (List Str)
  lines : List Str

def heading : List Str :=
  [str "# Sweep Comparison", [],
    str "| Setup | Nodes | Max Stable Rate | Stable Throughput | Peak Throughput | Speedup | " ++
      str "Efficiency |",
    str "| --- | ---: | ---: | ---: | ---: | ---: | ---: |"]

def main (files : Str → Option (List CsvRow)) (sweeps : List Str) : Except Exn Comparison := do
  let collected ← sweeps.mapM (collect runtime floats files)
  let _ ← plotEfficiencies collected
  let baseline ← baselineOf collected
  let summaries ← collected.mapM (derive baseline)
  let table ← summaries.mapM (writeRow runtime)
  let lines ← summaries.mapM (tableLine runtime floats)
  pure
    { summaries := summaries
      table := fieldnames :: table
      lines := heading ++ lines ++
        [[], str "## Plots", [], str "- `throughput_comparison.png`",
          str "- `scaling_efficiency.png`"] }

end Main

theorem truth_float (value : PyFloat) : truth (.float value) = !value.isZero := rfl

theorem divide_ok {left right : Json} {dividend divisor : PyFloat}
    (atLeft : operand left = .ok dividend) (atRight : operand right = .ok divisor)
    (nonzero : divisor.isZero = false) : divide left right = .ok (dividend.div divisor) := by
  simp [divide, atLeft, atRight, nonzero, bind, Except.bind, pure, Except.pure]

/-! ### The first pass on written rows -/

variable {runtime : Runtime} {floats : FloatText} {row : SweepRow} {rows : List SweepRow}

def stable (row : SweepRow) : Bool := row.reaches (.literal 90 100) && row.clean

theorem isStable_eq (reads : row.ReadsBack runtime floats) :
    isStable runtime floats (row.cells runtime) = .ok (stable row) := by
  simp only [isStable, reads.rateOf_eq, reads.throughputOf_eq, reads.failed_eq, reads.rejected_eq,
    reads.errors_eq, reads.maxQueue_eq, bind, Except.bind, pure, Except.pure, stable,
    SweepRow.reaches, SweepRow.clean]
  cases (row.rate.mul (.literal 90 100)).le row.throughput with
  | false => rfl
  | true =>
      -- the comparison stops at the first count that is not 0
      by_cases failed : row.analysis.failedJobs.getD 0 = 0
      · by_cases rejected : row.analysis.rejectedJobs.getD 0 = 0
        · by_cases errors : row.errorCount = 0
          · simp [failed, rejected, errors]
          · simp [failed, rejected, errors]
        · simp [failed, rejected]
      · simp [failed]

theorem stableRows_eq (reads : ∀ row ∈ rows, row.ReadsBack runtime floats) :
    stableRows runtime floats (rows.map (SweepRow.cells runtime)) =
      .ok ((rows.filter stable).map (SweepRow.cells runtime)) := by
  induction rows with
  | nil => rfl
  | cons row rest ih =>
      have later := ih (fun other member => reads other (List.mem_cons_of_mem _ member))
      rw [List.map_cons, stableRows, isStable_eq (reads row List.mem_cons_self), later,
        List.filter_cons]
      cases stable row <;> rfl

def stableThroughput (rows : List SweepRow) : PyFloat :=
  (PyFloat.maximum? ((rows.filter stable).map SweepRow.throughput)).getD (.finite 0)

def maxStableRate (rows : List SweepRow) : Option PyFloat :=
  PyFloat.maximum? ((rows.filter stable).map SweepRow.rate)

def peakThroughput (rows : List SweepRow) : Json :=
  ((PyFloat.maximum? (rows.map SweepRow.throughput)).map Json.float).getD (.int 0)

theorem maximumOf_eq {read : CsvRow → Except Exn PyFloat} {value : SweepRow → PyFloat}
    (reads : ∀ row ∈ rows, read (row.cells runtime) = .ok (value row)) (default : Json) :
    maximumOf read default (rows.map (SweepRow.cells runtime)) =
      .ok (((PyFloat.maximum? (rows.map value)).map .float).getD default) := by
  rw [maximumOf, mapM_map_ok reads]
  rfl

def collected (label : Str) (nodeCount : Int) (rows : List SweepRow) : Dict :=
  [(str "setup", .str label), (str "node_count", .int nodeCount),
    (str "max_stable_rate", orNone .float (maxStableRate rows)),
    (str "stable_throughput", .float (stableThroughput rows)),
    (str "peak_throughput", peakThroughput rows)]

theorem summarize_eq (reads : ∀ row ∈ rows, row.ReadsBack runtime floats) (label : Str)
    (nodeCount : Int) :
    summarize runtime floats label nodeCount (rows.map (SweepRow.cells runtime)) =
      .ok (collected label nodeCount rows) := by
  have known {row : SweepRow} (member : row ∈ rows.filter stable) : row.ReadsBack runtime floats :=
    reads row (List.mem_of_mem_filter member)
  have throughput : ((PyFloat.maximum? ((rows.filter stable).map SweepRow.throughput)).map
      Json.float).getD (.float (.finite 0)) = .float (stableThroughput rows) := by
    unfold stableThroughput
    cases PyFloat.maximum? ((rows.filter stable).map SweepRow.throughput) <;> rfl
  rw [summarize, mapM_map_ok (fun row member => (reads row member).rateOf_eq),
    mapM_map_ok (fun row member => (reads row member).throughputOf_eq), stableRows_eq reads]
  simp only [bind, Except.bind, pure, Except.pure,
    maximumOf_eq (fun row member => (known member).throughputOf_eq),
    maximumOf_eq (fun row member => (known member).rateOf_eq), throughput]
  rfl

end ImagePipeline.Benchmark.CompareSweeps
