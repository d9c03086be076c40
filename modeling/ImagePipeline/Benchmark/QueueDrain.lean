/-
When the queues were empty again after the load: `analyze_results.py`,
`sweep_runner.py` and `timeline_report.py` each compute the end of the
submission from the run's start and its duration. The trace records every row
that one of the loops takes to be from after that end.
-/

import ImagePipeline.Benchmark.DateTimes
import ImagePipeline.Common.Text
import ImagePipeline.Library.Traced

namespace ImagePipeline.Benchmark

open Common
open Library (Traced)

/-- A row of `queue_stats.csv` as `csv.DictReader` yields it. -/
structure QueueRow where
  timestamp : Str
  columns : List (Str × Str)

/-- `not value` of a text that may be missing. -/
def isMissing (value : Option Str) : Bool := value.getD [] = []

section Analyses

variable (runtime : Runtime) (clock : Clock)

def parseDurationSeconds (value : Str) : Except Exn PyFloat :=
  let value := clock.lower (strip value)
  if (str "ms").isSuffixOf value then
    (clock.float (value.dropLast.dropLast)).map (fun number => number.div (.finite 1000))
  else if (str "s").isSuffixOf value then clock.float value.dropLast
  else if (str "m").isSuffixOf value then
    (clock.float value.dropLast).map (fun number => number.mul (.finite 60))
  else .error .valueError

/-- `timedelta(seconds=parse_duration_seconds(duration))`. -/
def loadTime (duration : Str) : Except Exn Int :=
  match parseDurationSeconds clock duration with
  | .error raised => .error raised
  | .ok seconds => timedelta seconds

/-- The `submission_end` of the drain computations. -/
def submissionEnd (runStartedAt duration : Str) : Except Exn DateTime :=
  match clock.parseTime runStartedAt with
  | .error raised => .error raised
  | .ok start =>
      match loadTime clock duration with
      | .error raised => .error raised
      | .ok delta => start.add delta

/-- `int(row.get(field) or 0)`. -/
def queueLength (row : QueueRow) (field : Str) : Except Exn Int :=
  match row.columns.lookup field with
  | none | some [] => .ok 0
  | some text =>
      match runtime.intOfStr text with
      | some value => .ok value
      | none => .error .valueError

/-- `sorted(rows, key=lambda row: row["timestamp"])`. -/
def sortRows (rows : List QueueRow) : List QueueRow :=
  (sortFields (rows.map (fun row => (row.timestamp, row)))).map Prod.snd

structure DrainState where
  maxQueue : Int
  firstNonzeroAfterEnd : Option DateTime
  drainedAt : Option DateTime

def firstNonzero (first : Option DateTime) (timestamp : DateTime) (queueLength : Int) :
    Option DateTime :=
  if 0 < queueLength ∧ first = none then some timestamp else first

def summarizeLoop (submissionEnd : DateTime) :
    DrainState → List QueueRow → Traced Int Exn DrainState
  | state, [] => pure state
  | state, row :: rest => do
      let timestamp ← Traced.ofExcept (clock.parseTime row.timestamp)
      let defaultLength ← Traced.ofExcept (queueLength runtime row (str "default_queue_length"))
      let heavyLength ← Traced.ofExcept (queueLength runtime row (str "heavy_queue_length"))
      let totalQueue := defaultLength + heavyLength
      let maxQueue := max state.maxQueue totalQueue
      let early ← Traced.ofExcept (timestamp.lt submissionEnd)
      if early then summarizeLoop submissionEnd { state with maxQueue := maxQueue } rest
      else do
        Traced.record timestamp.instant
        let first := firstNonzero state.firstNonzeroAfterEnd timestamp totalQueue
        if first ≠ none ∧ totalQueue = 0 then
          pure
            { maxQueue := maxQueue
              firstNonzeroAfterEnd := first
              drainedAt := some timestamp }
        else
          summarizeLoop submissionEnd
            { state with
              maxQueue := maxQueue
              firstNonzeroAfterEnd := first } rest

structure QueueSummary where
  maxQueueLength : Int
  queueDrainSeconds : Option PyFloat
  queueDrained : Bool
  deriving DecidableEq

def secondsAfter (submissionEnd drainedAt : DateTime) : Except Exn (Option PyFloat) :=
  (drainedAt.sub submissionEnd).map (fun delta => some (roundedSeconds delta))

def drainSecondsOf (submissionEnd : DateTime) (state : DrainState) :
    Except Exn (Option PyFloat) :=
  if state.maxQueue = 0 then .ok (some (.finite 0))
  else if state.firstNonzeroAfterEnd = none then .ok (some (.finite 0))
  else
    match state.drainedAt with
    | none => .ok none
    | some drainedAt => secondsAfter submissionEnd drainedAt

/-- What follows the loop. -/
def summaryOf (submissionEnd : DateTime) (state : DrainState) : Except Exn QueueSummary :=
  (drainSecondsOf submissionEnd state).map (fun seconds =>
    { maxQueueLength := state.maxQueue
      queueDrainSeconds := seconds
      queueDrained := state.drainedAt.isSome || state.maxQueue = 0 })

/-- `none` is the empty dictionary. -/
def summarizeQueueDrain (rows : List QueueRow) (runStartedAt duration : Option Str) :
    Traced Int Exn (Option QueueSummary) :=
  if rows.isEmpty || isMissing runStartedAt || isMissing duration then pure none
  else do
    let stop ← Traced.ofExcept (submissionEnd clock (runStartedAt.getD []) (duration.getD []))
    let state ← summarizeLoop runtime clock stop ⟨0, none, none⟩ (sortRows rows)
    let summary ← Traced.ofExcept (summaryOf stop state)
    pure (some summary)

def totalLength (row : QueueRow) : List Str → Except Exn Int
  | [] => .ok 0
  | field :: rest =>
      match queueLength runtime row field with
      | .error raised => .error raised
      | .ok length => (totalLength row rest).map (fun others => length + others)

def calculateLoop (queueFields : List Str) (submissionEnd : DateTime) :
    Option DateTime → List QueueRow → Traced Int Exn (Option PyFloat)
  | first, [] => pure (if first = none then some (.finite 0) else none)
  | first, row :: rest => do
      let timestamp ← Traced.ofExcept (clock.parseTime row.timestamp)
      let early ← Traced.ofExcept (timestamp.lt submissionEnd)
      if early then calculateLoop queueFields submissionEnd first rest
      else do
        Traced.record timestamp.instant
        let queueLength ← Traced.ofExcept (totalLength runtime row queueFields)
        let next := firstNonzero first timestamp queueLength
        if next ≠ none ∧ queueLength = 0 then
          Traced.ofExcept (secondsAfter submissionEnd timestamp)
        else calculateLoop queueFields submissionEnd next rest

def calculateDrainSeconds (rows : List QueueRow) (queueFields : List Str)
    (runStartedAt duration : Option Str) : Traced Int Exn (Option PyFloat) :=
  if rows.isEmpty || isMissing runStartedAt || isMissing duration then pure none
  else do
    let stop ← Traced.ofExcept (submissionEnd clock (runStartedAt.getD []) (duration.getD []))
    calculateLoop runtime clock queueFields stop none (sortRows rows)

/-- Where the timelines draw "End of load injection". -/
def getLoadEndTime (runStartedAt duration : Option Str) : Except Exn (Option DateTime) :=
  if isMissing runStartedAt || isMissing duration then .ok none
  else (submissionEnd clock (runStartedAt.getD []) (duration.getD [])).map some

end Analyses

end ImagePipeline.Benchmark
