/-
What each line of the logs of a run is to be in the two timelines, and what the
code that reads it makes of it.
-/

import ImagePipeline.Benchmark.ThroughputTimeline

namespace ImagePipeline.Properties.LogAnalysis

open Common Benchmark
open Library (bind_ok_iff)

section Accounts

variable (runtime : LogRuntime) (clock : Clock)

/-- What a log line is to be in the error timeline. -/
def accountedLine (line : LogLine) : Option ErrorRow :=
  match matchTimestamp line.line with
  | none => none
  | some (timestamp, payloadText) =>
      match jsonLoads runtime.decoder payloadText with
      | .ok (.obj payload) => structuredRow runtime line timestamp payload
      | .error .jsonDecodeError => unstructuredRow line timestamp payloadText
      | _ => none

/-- What a line of k6 is to be in the error timeline. -/
def accountedMessage (line : Str) : Option ErrorRow :=
  match searchMessage line with
  | none => none
  | some escaped =>
      match unescapeMessage runtime escaped with
      | .error () => none
      | .ok payloadText =>
          match jsonLoads runtime.decoder payloadText with
          | .ok (.obj payload) => k6ObjectRow payload
          | _ => none

def accounted (run : RunLogs) : List ErrorRow :=
  run.logLines.filterMap (accountedLine runtime) ++ run.k6Lines.filterMap (accountedMessage runtime)

/-- The payload is an object with the event `job_finished`. -/
def finishedLine (line : LogLine) : Bool :=
  match matchTimestamp line.line with
  | none => false
  | some (_, payloadText) =>
      match jsonLoads runtime.decoder payloadText with
      | .ok (.obj payload) => isFinished payload
      | _ => false

def lineSecond (line : LogLine) : Option Int :=
  if finishedLine runtime line then
    (matchTimestamp line.line).bind (fun groups => (clock.second groups.1).toOption)
  else none

def finishedSeconds (run : RunLogs) : List Int := run.logLines.filterMap (lineSecond runtime clock)

/-- What is read with `json.loads` is an object, or no JSON. -/
def Skippable (text : Str) : Prop :=
  jsonLoads runtime.decoder text = .error .jsonDecodeError ∨
    ∃ payload, jsonLoads runtime.decoder text = .ok (.obj payload)

def LineFine (line : LogLine) : Prop :=
  ∀ groups, matchTimestamp line.line = some groups → Skippable runtime groups.2

def MessageFine (line : Str) : Prop :=
  ∀ escaped text, searchMessage line = some escaped →
    unescapeMessage runtime escaped = .ok text → Skippable runtime text

/-- A log line that reports an error with an object. -/
def LineObject (line : LogLine) (timestamp : Str) (payload : Dict) : Prop :=
  ∃ payloadText, matchTimestamp line.line = some (timestamp, payloadText) ∧
    jsonLoads runtime.decoder payloadText = .ok (.obj payload) ∧ isError runtime payload = true

/-- A log line that is no JSON and mentions an error. -/
def LineText (line : LogLine) (timestamp : Str) : Prop :=
  ∃ payloadText, matchTimestamp line.line = some (timestamp, payloadText) ∧
    jsonLoads runtime.decoder payloadText = .error .jsonDecodeError ∧
      mentionsError payloadText = true

/-- A log line that reports an error; the timestamp is its first word. -/
def LineReports (line : LogLine) (timestamp : Str) : Prop :=
  LineText runtime line timestamp ∨ ∃ payload, LineObject runtime line timestamp payload

/-- A line of k6 whose message is an object of the load test. -/
def MessageReports (line : Str) (payload : Dict) : Prop :=
  ∃ escaped text, searchMessage line = some escaped ∧
    unescapeMessage runtime escaped = .ok text ∧
      jsonLoads runtime.decoder text = .ok (.obj payload) ∧
        Dict.get? payload (str "source") = some (.str (str "k6"))

def messageStamp (payload : Dict) : Json := Dict.getD payload (str "timestamp") (.str [])

/-- What is written of an object that a service has logged. -/
def payloadTexts (payload : Dict) : List Str :=
  [pyText runtime (Dict.getD payload (str "event") (.str [])),
    cellText runtime (Dict.getD payload (str "job_id") (.str [])),
    cellText runtime
      (Dict.getD payload (str "error") (Dict.getD payload (str "message") (.str [])))]

/-- What is written of an object that k6 has printed. -/
def messageTexts (payload : Dict) : List Str :=
  [cellText runtime (messageStamp payload),
    cellText runtime (Dict.getD payload (str "event") (.str (str "k6_error"))),
    cellText runtime (Dict.getD payload (str "job_id") (.str [])),
    cellText runtime
      (Dict.getD payload (str "message") (Dict.getD payload (str "response_body") (.str [])))]

end Accounts

section Lines

variable {runtime : LogRuntime} {clock : Clock} {run : RunLogs}

theorem loadPayload_object {text : Str} {payload : Dict}
    (loaded : jsonLoads runtime.decoder text = .ok (.obj payload)) :
    loadPayload runtime text = .ok (.value (.obj payload)) := by
  unfold loadPayload
  rw [loaded]

theorem loadPayload_notJson {text : Str}
    (failed : jsonLoads runtime.decoder text = .error .jsonDecodeError) :
    loadPayload runtime text = .ok .notJson := by
  unfold loadPayload
  rw [failed]

/-- Whoever takes only objects and texts that are no JSON raises on all others. -/
theorem skippable_of_ok {α : Type} {text : Str} {onText : Except LogError α}
    {onObject : Dict → Except LogError α} {result : α}
    (returned : (do
      match ← loadPayload runtime text with
      | .notJson => onText
      | .value (.obj payload) => onObject payload
      | .value _ => .error .attributeError) = .ok result) : Skippable runtime text := by
  obtain ⟨payload, loaded, taken⟩ := bind_ok_iff.mp returned
  unfold loadPayload at loaded
  unfold Skippable
  cases known : jsonLoads runtime.decoder text with
  | error raised =>
      cases raised with
      | jsonDecodeError => exact .inl rfl
      | recursionError | valueError =>
          rw [known] at loaded
          cases loaded
  | ok json =>
      rw [known] at loaded
      cases loaded
      cases json with
      | obj payload => exact .inr ⟨payload, rfl⟩
      | null | bool | int | float | str | arr => cases taken

theorem lineFine_of_ok {line : LogLine} {row : Option ErrorRow}
    (returned : errorRow runtime line = .ok row) : LineFine runtime line := by
  intro groups found
  unfold errorRow at returned
  rw [found] at returned
  exact skippable_of_ok returned

theorem errorRow_eq {line : LogLine} (fine : LineFine runtime line) :
    errorRow runtime line = .ok (accountedLine runtime line) := by
  unfold errorRow accountedLine
  cases found : matchTimestamp line.line with
  | none => rfl
  | some groups =>
      obtain ⟨timestamp, payloadText⟩ := groups
      rcases fine _ found with failed | ⟨payload, loaded⟩
      · simp only at failed
        simp only [loadPayload_notJson failed, failed]
        rfl
      · simp only at loaded
        simp only [loadPayload_object loaded, loaded]
        rfl

theorem messageFine_of_ok {line : Str} {row : Option ErrorRow}
    (returned : k6Row runtime line = .ok row) : MessageFine runtime line := by
  intro escaped text found unescaped
  unfold k6Row at returned
  rw [found] at returned
  simp only [unescaped] at returned
  exact skippable_of_ok returned

theorem k6Row_eq {line : Str} (fine : MessageFine runtime line) :
    k6Row runtime line = .ok (accountedMessage runtime line) := by
  unfold k6Row accountedMessage
  cases found : searchMessage line with
  | none => rfl
  | some escaped =>
      cases unescaped : unescapeMessage runtime escaped with
      | error failed => simp only [unescaped]
      | ok payloadText =>
          rcases fine escaped payloadText found unescaped with failed | ⟨payload, loaded⟩
          · simp only [unescaped, loadPayload_notJson failed, failed]
            rfl
          · simp only [unescaped, loadPayload_object loaded, loaded]
            rfl

theorem finishedSecond_eq {line : LogLine} (fine : LineFine runtime line)
    (timed : finishedLine runtime line = true → (lineSecond runtime clock line).isSome = true) :
    finishedSecond runtime clock line = .ok (lineSecond runtime clock line) := by
  unfold lineSecond finishedLine at timed
  unfold finishedSecond lineSecond finishedLine
  cases found : matchTimestamp line.line with
  | none => rfl
  | some groups =>
      obtain ⟨timestamp, payloadText⟩ := groups
      rw [found] at timed
      rcases fine _ found with failed | ⟨payload, loaded⟩
      · simp only at failed
        simp only [loadPayload_notJson failed, failed]
        rfl
      · simp only at loaded
        simp only [loaded] at timed
        simp only [loadPayload_object loaded, loaded]
        by_cases finished : isFinished payload = true
        · cases parsed : clock.second timestamp with
          | ok second =>
              simp only [bind, Except.bind, if_pos finished, Option.bind_some, parsed]
              rfl
          | error raised =>
              have impossible := timed finished
              simp only [if_pos finished, Option.bind_some, parsed] at impossible
              cases impossible
        · simp only [bind, Except.bind, if_neg finished]
          rfl

/-! ### From lines to rows -/

theorem encodable_part {part whole : Str} (scalar : encodable whole = true)
    (among : ∀ letter ∈ part, letter ∈ whole) : encodable part = true :=
  List.all_eq_true.mpr fun letter member =>
    List.all_eq_true.mp scalar letter (among letter member)

theorem mem_splitLinesFrom {begun text line : Str} (member : line ∈ splitLinesFrom begun text) :
    ∀ letter ∈ line, letter ∈ begun ++ text := by
  fun_induction splitLinesFrom begun text with
  | case1 => cases member
  | case2 begun some =>
      rw [List.mem_singleton.mp member, List.append_nil]
      exact fun _ => id
  | case3 begun letter rest pair ih =>
      intro other inLine
      have known := ih member other inLine
      rw [List.mem_append] at known ⊢
      exact known.imp id (List.mem_cons_of_mem _)
  | case4 begun letter rest pair ends ih =>
      intro other inLine
      rw [List.mem_append]
      rcases List.mem_cons.mp member with rfl | later
      · exact .inl inLine
      · exact .inr (List.mem_cons_of_mem _ (ih later other inLine))
  | case5 begun letter rest pair inside ih =>
      intro other inLine
      have known := ih member other inLine
      rwa [List.append_assoc] at known

theorem encodable_logLine {line : LogLine} (member : line ∈ run.logLines) :
    encodable line.node = true ∧ encodable line.container = true ∧ encodable line.line = true := by
  obtain ⟨file, _, inFile⟩ := List.mem_flatMap.mp member
  obtain ⟨text, inText, rfl⟩ := List.mem_map.mp inFile
  refine ⟨?_, file.names.2, encodable_part file.content.decoded ?_⟩
  · cases given : file.node with
    | none =>
        change encodable (str "local") = true
        decide
    | some name =>
        have named := file.names.1
        rw [given] at named
        exact named
  · intro letter inLine
    exact mem_splitLinesFrom inText letter inLine

theorem matchTimestamp_encodable {line timestamp payloadText : Str}
    (found : matchTimestamp line = some (timestamp, payloadText))
    (scalar : encodable line = true) :
    encodable timestamp = true ∧ encodable payloadText = true := by
  unfold matchTimestamp at found
  dsimp only at found
  split at found
  · cases found
  · obtain ⟨rfl, rfl⟩ := Prod.mk.inj (Option.some.inj found)
    constructor
    · exact encodable_part scalar (fun letter member =>
        (List.takeWhile_sublist _).mem member)
    · exact encodable_part scalar (fun letter member =>
        (List.dropWhile_sublist _).mem ((List.dropWhile_sublist _).mem member))

theorem encodable_iff {row : ErrorRow} : row.encodable runtime = true ↔
    ∀ text ∈ row.cells runtime, encodable text = true := List.all_eq_true

theorem accountedLine_object {line : LogLine} {timestamp : Str} {payload : Dict}
    (reported : LineObject runtime line timestamp payload) :
    ∃ row, accountedLine runtime line = some row ∧ row.timestamp = .str timestamp ∧
      row.cells runtime = timestamp :: line.node :: line.container ::
        (if pyText runtime (Dict.getD payload (str "event") (.str [])) = [] then str "error"
          else pyText runtime (Dict.getD payload (str "event") (.str []))) ::
        (payloadTexts runtime payload).tail := by
  obtain ⟨payloadText, found, loaded, isReport⟩ := reported
  unfold accountedLine
  rw [found]
  simp only [loaded, structuredRow, isReport, if_true]
  exact ⟨_, rfl, rfl, rfl⟩

theorem accountedLine_text {line : LogLine} {timestamp : Str}
    (reported : LineText runtime line timestamp) :
    ∃ row payloadText, accountedLine runtime line = some row ∧ row.timestamp = .str timestamp ∧
      matchTimestamp line.line = some (timestamp, payloadText) ∧
        row.cells runtime = [timestamp, line.node, line.container, str "unstructured_error", [],
          payloadText] := by
  obtain ⟨payloadText, found, failed, mentions⟩ := reported
  unfold accountedLine
  rw [found]
  simp only [failed, unstructuredRow, mentions, if_true]
  exact ⟨_, payloadText, rfl, rfl, rfl, rfl⟩

theorem reports_of_row {line : LogLine} {row : ErrorRow}
    (accounted : accountedLine runtime line = some row) :
    ∃ timestamp, LineReports runtime line timestamp := by
  unfold accountedLine at accounted
  cases found : matchTimestamp line.line with
  | none =>
      rw [found] at accounted
      cases accounted
  | some groups =>
      obtain ⟨timestamp, payloadText⟩ := groups
      rw [found] at accounted
      dsimp only at accounted
      split at accounted
      · rename_i payload loaded
        unfold structuredRow at accounted
        split at accounted
        · rename_i isReport
          exact ⟨timestamp, .inr ⟨payload, payloadText, found, loaded, isReport⟩⟩
        · cases accounted
      · rename_i failed
        unfold unstructuredRow at accounted
        split at accounted
        · rename_i mentions
          exact ⟨timestamp, .inl ⟨payloadText, found, failed, mentions⟩⟩
        · cases accounted
      · cases accounted

/-- A line that reports has one row, with its first word as the timestamp. -/
theorem accountedLine_reports {line : LogLine} {timestamp : Str}
    (reports : LineReports runtime line timestamp) :
    ∃ row, accountedLine runtime line = some row ∧ row.timestamp = .str timestamp := by
  rcases reports with plain | ⟨payload, object⟩
  · obtain ⟨row, _, accounted, stamp, _⟩ := accountedLine_text plain
    exact ⟨row, accounted, stamp⟩
  · obtain ⟨row, accounted, stamp, _⟩ := accountedLine_object object
    exact ⟨row, accounted, stamp⟩

theorem row_of_line {line : LogLine} {row : ErrorRow}
    (accounted : accountedLine runtime line = some row) :
    ∃ timestamp, LineReports runtime line timestamp ∧ row.timestamp = .str timestamp := by
  obtain ⟨timestamp, reports⟩ := reports_of_row accounted
  obtain ⟨other, accountedOther, stamp⟩ := accountedLine_reports reports
  rw [accounted] at accountedOther
  cases accountedOther
  exact ⟨timestamp, reports, stamp⟩

/-- Of a line only an object can have what is not written in UTF-8. -/
theorem encodable_line_iff {line : LogLine} (member : line ∈ run.logLines) {row : ErrorRow}
    (accounted : accountedLine runtime line = some row) :
    row.encodable runtime = true ↔
      ∀ timestamp payload, LineObject runtime line timestamp payload →
        ∀ text ∈ payloadTexts runtime payload, encodable text = true := by
  obtain ⟨node, container, scalar⟩ := encodable_logLine member
  rw [encodable_iff]
  constructor
  · intro written timestamp payload object
    obtain ⟨other, accountedOther, _, cells⟩ := accountedLine_object object
    rw [accounted] at accountedOther
    cases accountedOther
    rw [cells] at written
    rw [payloadTexts, List.tail_cons] at written
    rw [payloadTexts, List.forall_mem_cons]
    simp only [List.forall_mem_cons] at written
    obtain ⟨_, _, _, event, rest⟩ := written
    refine ⟨?_, by simpa using rest⟩
    split at event
    · rename_i blank
      rw [blank]
      rfl
    · exact event
  · intro written
    obtain ⟨timestamp, reports⟩ := reports_of_row accounted
    rcases reports with plain | ⟨payload, object⟩
    · obtain ⟨other, payloadText, accountedOther, _, found, cells⟩ := accountedLine_text plain
      rw [accounted] at accountedOther
      cases accountedOther
      obtain ⟨stamp, rest⟩ := matchTimestamp_encodable found scalar
      rw [cells]
      simp only [List.forall_mem_cons]
      exact ⟨stamp, node, container, by decide, by decide, rest, by simp⟩
    · obtain ⟨other, accountedOther, _, cells⟩ := accountedLine_object object
      rw [accounted] at accountedOther
      cases accountedOther
      have texts := written timestamp payload object
      rw [payloadTexts, List.forall_mem_cons] at texts
      obtain ⟨payloadText, found, _⟩ := object
      obtain ⟨stamp, _⟩ := matchTimestamp_encodable found scalar
      rw [cells, payloadTexts, List.tail_cons]
      simp only [List.forall_mem_cons] at texts ⊢
      refine ⟨stamp, node, container, ?_, texts.2⟩
      split
      · decide
      · exact texts.1

theorem accountedMessage_reports {line : Str} {payload : Dict}
    (reports : MessageReports runtime line payload) :
    ∃ row, accountedMessage runtime line = some row ∧ row.timestamp = messageStamp payload ∧
      (row.encodable runtime = true ↔
        ∀ text ∈ messageTexts runtime payload, encodable text = true) := by
  obtain ⟨escaped, text, found, unescaped, loaded, source⟩ := reports
  unfold accountedMessage
  rw [found]
  simp only [unescaped, loaded, k6ObjectRow, source, if_true]
  refine ⟨_, rfl, rfl, ?_⟩
  have node : encodable (str "load-generator") = true := by decide
  have container : encodable (str "k6") = true := by decide
  rw [encodable_iff]
  simp only [ErrorRow.cells, messageTexts, messageStamp, List.forall_mem_cons, node, container,
    true_and]

theorem message_of_row {line : Str} {row : ErrorRow}
    (accounted : accountedMessage runtime line = some row) :
    ∃ payload, MessageReports runtime line payload ∧ row.timestamp = messageStamp payload := by
  unfold accountedMessage at accounted
  cases found : searchMessage line with
  | none =>
      rw [found] at accounted
      cases accounted
  | some escaped =>
      rw [found] at accounted
      dsimp only at accounted
      cases unescaped : unescapeMessage runtime escaped with
      | error failed =>
          rw [unescaped] at accounted
          cases accounted
      | ok text =>
          rw [unescaped] at accounted
          dsimp only at accounted
          split at accounted
          · rename_i payload loaded
            unfold k6ObjectRow at accounted
            split at accounted
            · rename_i source given
              split at accounted
              · rename_i isK6
                cases accounted
                exact ⟨payload, ⟨escaped, text, found, unescaped, loaded, isK6 ▸ given⟩, rfl⟩
              · cases accounted
            · cases accounted
          · cases accounted

theorem mem_accounted {row : ErrorRow} : row ∈ accounted runtime run ↔
    (∃ line ∈ run.logLines, accountedLine runtime line = some row) ∨
      ∃ line ∈ run.k6Lines, accountedMessage runtime line = some row := by
  rw [accounted, List.mem_append, List.mem_filterMap, List.mem_filterMap]

end Lines

end ImagePipeline.Properties.LogAnalysis
