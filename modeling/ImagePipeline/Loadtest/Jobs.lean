/-
`loadtests/jobs.js`, the script that k6 runs again and again during a load test.
An iteration leaves the samples it adds to the metrics and the lines it logs; an
exception ends it, but not the test. k6 sums the samples of all iterations, in
whatever order its users take turns.
-/

import ImagePipeline.Common.Json
import ImagePipeline.Library.Traced

namespace ImagePipeline.Loadtest

open Common
open Library (Traced)

/-- The keys of `TASKS`. -/
inductive Task where
  | lightGrayscaleSmall
  | lightRotateSmall
  | lightRegionBlurMedium
  | mediumThumbnailMedium
  | mediumEdgeDetectMedium
  | heavyBlurRepeatMedium
  | heavyMixedPipelineMedium
  | mediumEdgeDetectLarge
  | heavyBlurRepeatLarge
  | heavyMixedPipelineLarge
  deriving DecidableEq

def Task.name : Task → Str
  | .lightGrayscaleSmall => str "light_grayscale_small"
  | .lightRotateSmall => str "light_rotate_small"
  | .lightRegionBlurMedium => str "light_region_blur_medium"
  | .mediumThumbnailMedium => str "medium_thumbnail_medium"
  | .mediumEdgeDetectMedium => str "medium_edge_detect_medium"
  | .heavyBlurRepeatMedium => str "heavy_blur_repeat_medium"
  | .heavyMixedPipelineMedium => str "heavy_mixed_pipeline_medium"
  | .mediumEdgeDetectLarge => str "medium_edge_detect_large"
  | .heavyBlurRepeatLarge => str "heavy_blur_repeat_large"
  | .heavyMixedPipelineLarge => str "heavy_mixed_pipeline_large"

/-- `Object.keys(TASKS)`. -/
def taskNames : List Task :=
  [.lightGrayscaleSmall, .lightRotateSmall, .lightRegionBlurMedium, .mediumThumbnailMedium,
    .mediumEdgeDetectMedium, .heavyBlurRepeatMedium, .heavyMixedPipelineMedium,
    .mediumEdgeDetectLarge, .heavyBlurRepeatLarge, .heavyMixedPipelineLarge]

inductive Kind where
  | submitted
  | completed
  | failed
  | rejected
  deriving DecidableEq

def Kind.name : Kind → Str
  | .submitted => str "submitted"
  | .completed => str "completed"
  | .failed => str "failed"
  | .rejected => str "rejected"

/-- A counter of the script: one of all jobs, or one of `taskMetrics`. -/
inductive Counter where
  | jobs (kind : Kind)
  | task (task : Task) (kind : Kind)
  deriving DecidableEq

/-- The name under which k6 knows the counter. -/
def Counter.name : Counter → Str
  | .jobs kind => kind.name ++ str "_jobs"
  | .task owner kind => str "task_" ++ owner.name ++ str "_" ++ kind.name

inductive Event where
  /-- `counter.add(1)`. -/
  | add (counter : Counter)
  /-- `trend.add(value)`. -/
  | sample (trend : Str) (value : Int)
  /-- `logK6Error(event, details)`. -/
  | log (event : Str) (details : Dict)

/-- What ends an iteration before its time. -/
inductive Thrown where
  | syntaxError
  | typeError

abbrev Script := Traced Event Thrown

structure Response where
  status : Int
  body : Str
  /-- The value of `response.json()`; `none` if the body is not JSON. -/
  json : Option Json

/-- A poll that is made before the deadline, with the time since the start as
the two trends see it if the job is done. -/
structure Poll where
  response : Response
  elapsed : Int
  taskElapsed : Int

/-- What one iteration meets: the answers to its polls are there up to the
deadline, also those after the one that ends the polling. -/
structure Iteration where
  task : Task
  submit : Response
  polls : List Poll

/-- The settings that the script reads from its environment. -/
structure Settings where
  profile : Str
  rate : PyFloat
  duration : Str
  pollResult : Bool
  pollTimeoutSeconds : PyFloat

/-- `response.json()`. -/
def Response.parse (response : Response) : Except Thrown Json :=
  match response.json with
  | some value => .ok value
  | none => .error .syntaxError

/-- `value.key`, without a value for `undefined`. -/
def property (value : Json) (key : Str) : Except Thrown (Option Json) :=
  match value with
  | .null => .error .typeError
  | .obj fields => .ok (Dict.get? fields key)
  | _ => .ok none

/-- `value === text`. -/
def isText (value : Option Json) (text : Str) : Bool :=
  match value with
  | some (.str found) => found = text
  | _ => false

/-- `left || right`. -/
def orElse (left : Option Json) (right : Option Json) : Option Json :=
  match left with
  | none | some .null | some (.bool false) | some (.int 0) | some (.str [])
  | some (.float .nan) | some (.float .negativeZero) => right
  | some (.float (.finite value)) => if value = 0 then right else left
  | some value => some value

/-- The details of a log line, without those that are `undefined`. -/
def details (entries : List (Str × Option Json)) : Dict :=
  entries.filterMap (fun entry => entry.2.map (fun value => (entry.1, value)))

def add (counter : Counter) : Script Unit := Traced.record (.add counter)

def sample (trend : Str) (value : Int) : Script Unit := Traced.record (.sample trend value)

def logK6Error (event : Str) (entries : List (Str × Option Json)) : Script Unit :=
  Traced.record (.log event (details entries))

section Script

variable (settings : Settings)

/-- The loop after `made` polls, and what follows it. -/
def pollUntilDone (jobId : Option Json) (task : Task) : (made : Nat) → List Poll → Script Unit
  | made, [] => do
      logK6Error (str "poll_timeout")
        [(str "job_id", jobId), (str "timeout_seconds", some (.float settings.pollTimeoutSeconds)),
          (str "polls", some (.int made))]
      add (.jobs .failed)
      sample (str "poll_count") made
      add (.task task .failed)
  | made, poll :: rest => do
      let polls := made + 1
      if poll.response.status ≠ 200 then do
        logK6Error (str "poll_http_error")
          [(str "job_id", jobId), (str "status_code", some (.int poll.response.status))]
        add (.jobs .failed)
        sample (str "poll_count") polls
      else do
        let body ← Traced.ofExcept poll.response.parse
        let status ← Traced.ofExcept (property body (str "status"))
        if isText status (str "DONE") then do
          add (.jobs .completed)
          sample (str "end_to_end_time_ms") poll.elapsed
          sample (str "poll_count") polls
          add (.task task .completed)
          sample (str "task_" ++ task.name ++ str "_end_to_end_time_ms") poll.taskElapsed
        else if isText status (str "FAILED") then do
          let error ← Traced.ofExcept (property body (str "error"))
          let message ← Traced.ofExcept (property body (str "message"))
          logK6Error (str "job_failed")
            [(str "job_id", jobId),
              (str "message", orElse error (orElse message (some (.str []))))]
          add (.jobs .failed)
          sample (str "poll_count") polls
          add (.task task .failed)
        else pollUntilDone jobId task polls rest

/-- The default function. -/
def iteration (iteration : Iteration) : Script Unit := do
  let task := iteration.task
  let response := iteration.submit
  if response.status ≠ 200 then do
    logK6Error (if response.status = 429 then str "job_rejected" else str "submit_http_error")
      [(str "status_code", some (.int response.status)), (str "task", some (.str task.name)),
        (str "response_body", some (.str response.body))]
    if response.status = 429 then do
      add (.jobs .rejected)
      add (.task task .rejected)
    else do
      add (.jobs .failed)
      add (.task task .failed)
  else do
    add (.jobs .submitted)
    add (.task task .submitted)
    let body ← Traced.ofExcept response.parse
    if settings.pollResult then do
      let jobId ← Traced.ofExcept (property body (str "job_id"))
      pollUntilDone settings jobId task 0 iteration.polls
    else pure ()

/-- What a single iteration leaves behind. -/
def events (entry : Iteration) : List Event := (iteration settings entry []).2

/-- What all the iterations of a test leave behind. -/
def testEvents (iterations : List Iteration) : List Event := iterations.flatMap (events settings)

end Script

def Event.counter? : Event → Option Counter
  | .add counter => some counter
  | .sample _ _ | .log _ _ => none

/-- The counters that are added to, once for each time. -/
def added (events : List Event) : List Counter := events.filterMap Event.counter?

/-- `data.metrics[name]?.values?.count || 0` at the end of the test. -/
def metricCount (events : List Event) (name : Str) : Nat :=
  ((added events).map Counter.name).count name

/-- The part of `workload_summary.json` that the script computes. -/
structure WorkloadSummary where
  profile : Str
  rate : PyFloat
  duration : Str
  pollResult : Bool
  submittedByTask : List (Str × Nat)
  completedByTask : List (Str × Nat)
  failedByTask : List (Str × Nat)
  rejectedByTask : List (Str × Nat)

def countByTask (events : List Event) (kind : Kind) : List (Str × Nat) :=
  taskNames.map (fun task => (task.name, metricCount events (Counter.task task kind).name))

def handleSummary (settings : Settings) (events : List Event) : WorkloadSummary :=
  { profile := settings.profile
    rate := settings.rate
    duration := settings.duration
    pollResult := settings.pollResult
    submittedByTask := countByTask events .submitted
    completedByTask := countByTask events .completed
    failedByTask := countByTask events .failed
    rejectedByTask := countByTask events .rejected }

def WorkloadSummary.byTask (summary : WorkloadSummary) : Kind → List (Str × Nat)
  | .submitted => summary.submittedByTask
  | .completed => summary.completedByTask
  | .failed => summary.failedByTask
  | .rejected => summary.rejectedByTask

end ImagePipeline.Loadtest
