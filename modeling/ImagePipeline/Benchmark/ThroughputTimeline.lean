/-
`generate_throughput_timeline`: how many jobs were finished in each second, and the
points that `generate_timeline_plots` draws of the file.
-/

import ImagePipeline.Benchmark.CsvFiles
import ImagePipeline.Benchmark.ErrorTimeline
import ImagePipeline.Benchmark.QueueDrain
import ImagePipeline.Library.Groups

namespace ImagePipeline.Benchmark

open Common
open Library (groupBy CsvDialect)

structure ThroughputRow where
  timestamp : Str
  completedJobs : Nat

section Timeline

variable (runtime : LogRuntime) (clock : Clock)

/-- `replace(microsecond=0)`. -/
def wholeSecond (instant : Int) : Int := instant - instant % 1000000

/-- `parse_time(text).astimezone(timezone.utc).replace(microsecond=0)`. -/
def Clock.second (text : Str) : Except LogError Int :=
  match clock.parseTime text with
  | .error _ => .error .valueError
  | .ok timestamp =>
      match clock.toUtc timestamp with
      | .error _ => .error .overflowError
      | .ok instant => .ok (wholeSecond instant)

/-- `payload.get("event") != "job_finished"`, negated. -/
def isFinished (payload : Dict) : Bool :=
  match Dict.get? payload (str "event") with
  | some (.str event) => event = str "job_finished"
  | _ => false

/-- The body of the loop over the lines: the second that is counted. -/
def finishedSecond (line : LogLine) : Except LogError (Option Int) :=
  match matchTimestamp line.line with
  | none => .ok none
  | some (timestampText, payloadText) => do
      match ← loadPayload runtime payloadText with
      | .notJson => pure none
      | .value (.obj payload) =>
          if isFinished payload then (clock.second timestampText).map some else pure none
      | .value _ => .error .attributeError

def completedPerSecond (seconds : List Int) : List (Str × Nat) :=
  (groupBy clock.isoFormat seconds).map (fun group => (group.1, group.2.length))

def generateThroughputTimeline (run : RunLogs) : Except LogError (List ThroughputRow) := do
  let seconds ← run.logLines.mapM (finishedSecond runtime clock)
  pure ((sortFields (completedPerSecond clock (seconds.filterMap id))).map
    (fun entry => ⟨entry.1, entry.2⟩))

end Timeline

/-! ### `generate_timeline_plots` -/

inductive PlotError where
  | csv (raised : CsvDialect.ReadError)
  | keyError
  | attributeError
  | typeError
  | valueError
  deriving DecidableEq

/-- `row[key]`; nothing stands for the `None` of a short row. -/
def DictRow.item (row : DictRow) (key : Str) : Except PlotError (Option Str) :=
  match row.cells.lookup key with
  | some value => .ok value
  | none => .error .keyError

/-- `parse_time(row["timestamp"])`, which is drawn at its instant. -/
def plottedTime (clock : Clock) (row : DictRow) : Except PlotError Int := do
  match ← row.item (str "timestamp") with
  | none => .error .attributeError
  | some text =>
      match clock.parseTime text with
      | .ok time => pure time.instant
      | .error _ => .error .valueError

/-- `int(row["completed_jobs"])`. -/
def plottedJobs (runtime : Runtime) (row : DictRow) : Except PlotError Int := do
  match ← row.item (str "completed_jobs") with
  | none => .error .typeError
  | some text =>
      match runtime.intOfStr text with
      | some value => pure value
      | none => .error .valueError

def throughputPoints (runtime : Runtime) (clock : Clock) (file : Option Str) :
    Except PlotError (List (Int × Int)) :=
  match loadCsv file with
  | .error raised => .error (.csv raised)
  | .ok rows => do
      let times ← rows.mapM (plottedTime clock)
      let jobs ← rows.mapM (plottedJobs runtime)
      pure (times.zip jobs)

end ImagePipeline.Benchmark
