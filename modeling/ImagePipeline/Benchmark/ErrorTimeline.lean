/-
`generate_error_timeline`: the rows that the lines of the logs and of k6's output
give, sorted by their timestamps and written in UTF-8.
-/

import ImagePipeline.Benchmark.LogLines
import ImagePipeline.Benchmark.QueueDrain
import ImagePipeline.Common.Doubles
import ImagePipeline.Common.UnicodeEscape
import ImagePipeline.Library.RaisingSort
import Mathlib.Data.List.Infix

namespace ImagePipeline.Benchmark

open Common
open Library (raisingSort)

inductive LogError where
  | attributeError
  | overflowError
  | recursionError
  | typeError
  | unicodeEncodeError
  | valueError
  deriving DecidableEq

/-- What the timelines take from Python. -/
structure LogRuntime where
  decoder : JsonDecoder
  characterNames : Str → Option CodePoint
  /-- `str(value)` of a list or a dictionary. -/
  containerText : Json → Str
  /-- `str(value)` of a finite float. -/
  floatRepr : PyFloat → Str
  /-- `left < right` of two lists. -/
  listLess : List Json → List Json → Except LogError Bool

structure ErrorRow where
  timestamp : Json
  node : Str
  container : Str
  event : Json
  jobId : Json
  message : Json

def errorEvents : List Str :=
  [str "job_failed", str "retry", str "timeout", str "rejected", str "error"]

/-- `payload_text.lower()` as far as it matters for a search for `error`: no
letter beyond ASCII has one of its letters in lower case. -/
def lowerAscii (text : Str) : Str :=
  text.map (fun letter => if 0x41 ≤ letter.val ∧ letter.val ≤ 0x5A then pointOf (letter.val + 0x20)
    else letter)

def mentionsError (text : Str) : Bool := decide (str "error" <:+: lowerAscii text)

/-- What a text is to a reader that catches `json.JSONDecodeError`. -/
inductive Payload where
  | notJson
  | value (json : Json)

section Timeline

variable (runtime : LogRuntime)

/-- `str(value)`. -/
def pyText : Json → Str
  | .null => str "None"
  | .bool true => str "True"
  | .bool false => str "False"
  | .int value => intRepr value
  | .float .nan => str "nan"
  | .float (.infinity false) => str "inf"
  | .float (.infinity true) => str "-inf"
  | .float value => runtime.floatRepr value
  | .str text => text
  | .arr items => runtime.containerText (.arr items)
  | .obj fields => runtime.containerText (.obj fields)

/-- What `csv.DictWriter` writes for a value. -/
def cellText : Json → Str
  | .null => []
  | value => pyText runtime value

def loadPayload (text : Str) : Except LogError Payload :=
  match jsonLoads runtime.decoder text with
  | .ok json => .ok (.value json)
  | .error .jsonDecodeError => .ok .notJson
  | .error .recursionError => .error .recursionError
  | .error .valueError => .error .valueError

def unstructuredRow (line : LogLine) (timestamp payloadText : Str) : Option ErrorRow :=
  if mentionsError payloadText then
    some
      { timestamp := .str timestamp
        node := line.node
        container := line.container
        event := .str (str "unstructured_error")
        jobId := .str []
        message := .str payloadText }
  else none

/-- `payload.get(key) is not None`. -/
def isGiven (payload : Dict) (key : Str) : Bool :=
  match Dict.get? payload key with
  | none | some .null => false
  | some _ => true

def isError (payload : Dict) : Bool :=
  decide (pyText runtime (Dict.getD payload (str "event") (.str [])) ∈ errorEvents) ||
    decide (pyText runtime (Dict.getD payload (str "status") (.str [])) = str "FAILED") ||
    isGiven payload (str "error")

def structuredRow (line : LogLine) (timestamp : Str) (payload : Dict) : Option ErrorRow :=
  let event := pyText runtime (Dict.getD payload (str "event") (.str []))
  if isError runtime payload then
    some
      { timestamp := .str timestamp
        node := line.node
        container := line.container
        event := .str (if event = [] then str "error" else event)
        jobId := Dict.getD payload (str "job_id") (.str [])
        message := Dict.getD payload (str "error") (Dict.getD payload (str "message") (.str [])) }
  else none

/-- The body of the loop over the lines of a log file. -/
def errorRow (line : LogLine) : Except LogError (Option ErrorRow) :=
  match matchTimestamp line.line with
  | none => .ok none
  | some (timestamp, payloadText) => do
      match ← loadPayload runtime payloadText with
      | .notJson => pure (unstructuredRow line timestamp payloadText)
      | .value (.obj payload) => pure (structuredRow runtime line timestamp payload)
      | .value _ => .error .attributeError

/-- `bytes(escaped_payload, "utf-8").decode("unicode_escape")`. -/
def unescapeMessage (escaped : Str) : Except Unit Str :=
  decodeUnicodeEscape runtime.characterNames (encodeUtf8 escaped)

def k6ObjectRow (payload : Dict) : Option ErrorRow :=
  match Dict.get? payload (str "source") with
  | some (.str source) =>
      if source = str "k6" then
        some
          { timestamp := Dict.getD payload (str "timestamp") (.str [])
            node := str "load-generator"
            container := str "k6"
            event := Dict.getD payload (str "event") (.str (str "k6_error"))
            jobId := Dict.getD payload (str "job_id") (.str [])
            message := Dict.getD payload (str "message")
              (Dict.getD payload (str "response_body") (.str [])) }
      else none
  | _ => none

/-- The body of the loop over the lines of `k6_stdout.txt`. -/
def k6Row (line : Str) : Except LogError (Option ErrorRow) :=
  match searchMessage line with
  | none => .ok none
  | some escaped =>
      match unescapeMessage runtime escaped with
      | .error () => .ok none
      | .ok payloadText => do
          match ← loadPayload runtime payloadText with
          | .notJson => pure none
          | .value (.obj payload) => pure (k6ObjectRow payload)
          | .value _ => .error .attributeError

def numberValue : Json → Option PyFloat
  | .bool value => some (.finite (if value then 1 else 0))
  | .int value => some (.finite value)
  | .float value => some value
  | _ => none

/-- `left < right`. -/
def jsonLess (left right : Json) : Except LogError Bool :=
  match numberValue left, numberValue right with
  | some left, some right => .ok (left.lt right)
  | _, _ =>
      match left, right with
      | .str left, .str right => .ok (!Str.le right left)
      | .arr left, .arr right => runtime.listLess left right
      | _, _ => .error .typeError

def ErrorRow.cells (row : ErrorRow) : List Str :=
  [cellText runtime row.timestamp, row.node, row.container, cellText runtime row.event,
    cellText runtime row.jobId, cellText runtime row.message]

def ErrorRow.encodable (row : ErrorRow) : Bool := (row.cells runtime).all Common.encodable

/-- The rows in the order in which they are written. -/
def generateErrorTimeline (run : RunLogs) : Except LogError (List ErrorRow) := do
  let logRows ← run.logLines.mapM (errorRow runtime)
  let k6Rows ← run.k6Lines.mapM (k6Row runtime)
  let rows ← raisingSort (fun left right => jsonLess runtime left.timestamp right.timestamp)
    (logRows.filterMap id ++ k6Rows.filterMap id)
  if rows.all (ErrorRow.encodable runtime) then pure rows else .error .unicodeEncodeError

end Timeline

end ImagePipeline.Benchmark
