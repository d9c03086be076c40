/-
What the services log is what the timelines count: an event is printed as JSON,
stamped by docker, collected in a file, cut into lines, found by a pattern and
read back, and none is lost on the way, made up or changed.
-/

import ImagePipeline.Benchmark.ContainerLogs
import ImagePipeline.Benchmark.JsonFiles
import ImagePipeline.Properties.LogAnalysis
import ImagePipeline.Properties.PrintedLogs
import ImagePipeline.Properties.ReadBack
import ImagePipeline.Properties.RequestHash

namespace ImagePipeline.Properties.ContainerLogs

open Common Benchmark
open Properties.LogAnalysis
open Properties.ReadBack (translated_of_not_mem)

variable {runtime : Runtime} {log : LogRuntime} {clock : Clock}

/-- The object that `log_event` prints. -/
def payload (name : Str) (fields : Dict) : Dict := (str "event", .str name) :: fields

/-- The printed line can be read: JSON within the limits of the reader, or a line
that is no JSON at all. -/
def LegibleOutput (runtime : Runtime) (log : LogRuntime) : Output → Prop
  | .event name fields =>
      Readable runtime log.decoder log.decoder.recursionLimit (.obj (payload name fields))
  | .text line =>
      (∀ letter ∈ line, isLineBreak letter = false) ∧
        jsonLoads log.decoder (line.dropWhile isSpace) = .error .jsonDecodeError

/-- A legible line with a timestamp as docker writes it. -/
structure Legible (runtime : Runtime) (log : LogRuntime) (clock : Clock) (line : DockerLine) :
    Prop where
  stamped : line.timestamp ≠ []
  unspaced : ∀ letter ∈ line.timestamp, isSpace letter = false
  timed : ∃ second, clock.second line.timestamp = .ok second
  output : LegibleOutput runtime log line.output

/-- The row of the error timeline for what a container has printed. -/
def rowOf (log : LogRuntime) (node container : Str) (line : DockerLine) : Option ErrorRow :=
  match line.output with
  | .event name fields =>
      structuredRow log ⟨node, container, []⟩ line.timestamp (payload name fields)
  | .text text => unstructuredRow ⟨node, container, []⟩ line.timestamp (text.dropWhile isSpace)

def isFinishedLine (line : DockerLine) : Bool :=
  match line.output with
  | .event name _ => name = str "job_finished"
  | .text _ => false

/-- All lines of the collected containers, each with its node and container. -/
def collectedLines (nodes : List RemoteNode) : List (Str × Str × DockerLine) :=
  nodes.flatMap (fun node => node.collected.flatMap (fun container =>
    (container.stdout ++ container.stderr).map (fun line =>
      (node.name, strip container.name, line))))

def logLine (runtime : Runtime) (line : Str × Str × DockerLine) : LogLine :=
  ⟨line.1, line.2.1, line.2.2.text runtime⟩

theorem isSpace_of_isLineBreak {letter : CodePoint} (breaks : isLineBreak letter = true) :
    isSpace letter = true := by
  unfold isLineBreak at breaks
  unfold isSpace
  simp only [Bool.or_eq_true, Bool.and_eq_true, decide_eq_true_eq] at breaks ⊢
  omega

theorem noBreak_of_printable {letter : CodePoint} (printable : isPrintable letter = true) :
    isLineBreak letter = false := by
  unfold isPrintable at printable
  unfold isLineBreak
  simp only [Bool.and_eq_true, decide_eq_true_eq] at printable
  simp only [Bool.or_eq_false_iff, Bool.and_eq_false_iff, decide_eq_false_iff_not]
  omega

section Lines

theorem text_oneLine {line : DockerLine} (legible : Legible runtime log clock line) :
    ∀ letter ∈ line.text runtime, isLineBreak letter = false := by
  have stamp : ∀ letter ∈ line.timestamp, isLineBreak letter = false := by
    intro letter member
    by_contra breaks
    have spaced := isSpace_of_isLineBreak (Bool.not_eq_false _ ▸ breaks)
    rw [legible.unspaced letter member] at spaced
    cases spaced
  have printed : ∀ letter ∈ line.output.line runtime, isLineBreak letter = false := by
    have output := legible.output
    cases given : line.output with
    | event name fields =>
        rw [given] at output
        have printable := printable_textAt _ 0 _ output
        intro letter member
        exact noBreak_of_printable (List.all_eq_true.mp printable letter member)
    | text text =>
        rw [given] at output
        exact output.1
  unfold DockerLine.text
  rw [List.forall_mem_append, List.forall_mem_cons]
  exact ⟨stamp, by decide, printed⟩

theorem splitLines_dockerLogs {lines : List DockerLine}
    (legible : ∀ line ∈ lines, Legible runtime log clock line) :
    splitLines (dockerLogs runtime lines) = lines.map (DockerLine.text runtime) := by
  induction lines with
  | nil => rfl
  | cons line rest ih =>
      have later := ih fun other member => legible other (List.mem_cons_of_mem _ member)
      have here := splitLinesFrom_line (text_oneLine (legible line List.mem_cons_self)) []
        (dockerLogs runtime rest)
      rw [List.map_cons, ← later]
      unfold dockerLogs at here ⊢
      rw [List.flatMap_cons, List.append_assoc, List.singleton_append]
      exact here

end Lines

theorem dockerLogs_append (first second : List DockerLine) :
    dockerLogs runtime first ++ dockerLogs runtime second = dockerLogs runtime (first ++ second) :=
  List.flatMap_append.symm

/-- The pattern finds the timestamp and what was printed. -/
theorem matchTimestamp_text {line : DockerLine} (legible : Legible runtime log clock line) :
    matchTimestamp (line.text runtime) =
      some (line.timestamp, (line.output.line runtime).dropWhile isSpace) := by
  have unspaced : ∀ letter ∈ line.timestamp, (!isSpace letter) = true := by
    intro letter member
    rw [legible.unspaced letter member]
    rfl
  have blank : (!isSpace (codePoint ' ')) = false := by decide
  have front : (line.text runtime).takeWhile (fun letter => !isSpace letter) = line.timestamp := by
    unfold DockerLine.text
    rw [List.takeWhile_append_of_pos unspaced, List.takeWhile_cons_of_neg (by rw [blank]; decide),
      List.append_nil]
  have behind : (line.text runtime).dropWhile (fun letter => !isSpace letter) =
      codePoint ' ' :: line.output.line runtime := by
    unfold DockerLine.text
    rw [List.dropWhile_append_of_pos unspaced, List.dropWhile_cons_of_neg (by rw [blank]; decide)]
  have space : isSpace (codePoint ' ') = true := by decide
  unfold matchTimestamp
  dsimp only
  rw [front, behind, if_neg, List.dropWhile_cons_of_pos space]
  intro missing
  rcases missing with noStamp | nothing
  · exact legible.stamped noStamp
  · exact List.cons_ne_nil _ _ nothing

section Payloads

theorem jsonLoads_line {line : DockerLine} (legible : Legible runtime log clock line) :
    jsonLoads log.decoder ((line.output.line runtime).dropWhile isSpace) =
      match line.output with
      | .event name fields => .ok (.obj (payload name fields))
      | .text _ => .error .jsonDecodeError := by
  have output := legible.output
  cases given : line.output with
  | event name fields =>
      rw [given] at output
      have trimmed : (logEvent runtime name fields).dropWhile isSpace =
          logEvent runtime name fields := by
        have brace : ∃ rest, logEvent runtime name fields = codePoint '\x7b' :: rest :=
          ⟨_, rfl⟩
        obtain ⟨rest, split⟩ := brace
        rw [split]
        exact List.dropWhile_cons_of_neg (by decide)
      change jsonLoads log.decoder ((logEvent runtime name fields).dropWhile isSpace) = _
      rw [trimmed]
      exact jsonLoads_dumps _ output
  | text text =>
      rw [given] at output
      exact output.2

theorem lineFine {line : Str × Str × DockerLine} (legible : Legible runtime log clock line.2.2) :
    LineFine log (logLine runtime line) := by
  intro groups found
  have read := jsonLoads_line legible
  unfold logLine at found
  dsimp only at found
  rw [matchTimestamp_text legible] at found
  obtain rfl := Option.some.inj found
  cases given : line.2.2.output with
  | event name fields =>
      rw [given] at read
      exact .inr ⟨_, read⟩
  | text text =>
      rw [given] at read
      exact .inl read

theorem accountedLine_eq {line : Str × Str × DockerLine}
    (legible : Legible runtime log clock line.2.2) :
    accountedLine log (logLine runtime line) = rowOf log line.1 line.2.1 line.2.2 := by
  have read := jsonLoads_line legible
  unfold accountedLine logLine rowOf
  dsimp only
  rw [matchTimestamp_text legible]
  dsimp only
  cases given : line.2.2.output with
  | event name fields =>
      rw [given] at read
      rw [read]
      rfl
  | text text =>
      rw [given] at read
      rw [read]
      rfl

theorem finishedLine_eq {line : Str × Str × DockerLine}
    (legible : Legible runtime log clock line.2.2) :
    finishedLine log (logLine runtime line) = isFinishedLine line.2.2 := by
  have read := jsonLoads_line legible
  unfold finishedLine logLine isFinishedLine
  dsimp only
  rw [matchTimestamp_text legible]
  dsimp only
  cases given : line.2.2.output with
  | event name fields =>
      rw [given] at read
      rw [read]
      rfl
  | text text =>
      rw [given] at read
      rw [read]

end Payloads

def secondOf (clock : Clock) (line : DockerLine) : Option Int :=
  (clock.second line.timestamp).toOption

def secondText (clock : Clock) (line : DockerLine) : Option Str :=
  (secondOf clock line).map clock.isoFormat

theorem lineSecond_eq {line : Str × Str × DockerLine}
    (legible : Legible runtime log clock line.2.2) :
    ∃ second, secondOf clock line.2.2 = some second ∧
      lineSecond log clock (logLine runtime line) =
        if isFinishedLine line.2.2 then some second else none := by
  obtain ⟨second, parsed⟩ := legible.timed
  refine ⟨second, ?_, ?_⟩
  · unfold secondOf
    rw [parsed]
    rfl
  · unfold lineSecond
    rw [finishedLine_eq legible]
    unfold logLine
    rw [matchTimestamp_text legible, Option.bind_some, parsed]
    rfl

section Runs

variable {run : RunLogs} {nodes : List RemoteNode} {disk : Disk} {runDir : Path}

/-- The lines of a file, from what is known of it. -/
def fileLines (file : Option Str × Str × Str) : List LogLine :=
  (splitLines file.2.2).map (fun line => ⟨file.1.getD (str "local"), file.2.1, line⟩)

theorem translated_log {container : Container}
    (legible : ∀ line ∈ container.stdout ++ container.stderr, Legible runtime log clock line) :
    excel.translated (container.log runtime) = container.log runtime := by
  apply translated_of_not_mem
  unfold Container.log
  rw [dockerLogs_append]
  intro present
  obtain ⟨line, member, inside⟩ := List.mem_flatMap.mp present
  rcases List.mem_append.mp inside with here | atEnd
  · have unbroken := text_oneLine (legible line member) _ here
    revert unbroken
    decide
  · revert atEnd
    decide

theorem collectedLines_eq
    (legible : ∀ line ∈ collectedLines nodes, Legible runtime log clock line.2.2) :
    (nodes.flatMap (fun node => node.collected.map (fun container =>
        (some node.name, strip container.name, excel.translated (container.log runtime))))).flatMap
      fileLines = (collectedLines nodes).map (logLine runtime) := by
  unfold collectedLines at *
  rw [List.flatMap_assoc, List.map_flatMap]
  apply List.flatMap_congr
  intro node atNode
  rw [List.flatMap_map, List.map_flatMap]
  apply List.flatMap_congr
  intro container collected
  have each : ∀ line ∈ container.stdout ++ container.stderr, Legible runtime log clock line := by
    intro line member
    have inContainer := List.mem_map_of_mem (f := fun line =>
      (node.name, strip container.name, line)) member
    exact legible _ (List.mem_flatMap.mpr ⟨node, atNode,
      List.mem_flatMap.mpr ⟨container, collected, inContainer⟩⟩)
  unfold fileLines
  dsimp only
  rw [translated_log each, Container.log, dockerLogs_append, splitLines_dockerLogs each,
    List.map_map, List.map_map]
  rfl

/-- The lines that are analysed are those of the containers, in some order. -/
theorem logLines_perm (collected : run.Collected runtime nodes disk runDir)
    (legible : ∀ line ∈ collectedLines nodes, Legible runtime log clock line.2.2) :
    run.logLines.Perm ((collectedLines nodes).map (logLine runtime)) := by
  have fromFiles : run.logLines = (run.logFiles.map (fun file =>
      (file.node, file.container, file.content.text))).flatMap fileLines := by
    unfold RunLogs.logLines
    rw [List.flatMap_map]
    rfl
  have found := collected.found.logs
  rw [logFiles_collected collected.named collected.fresh, List.map_flatMap] at found
  rw [fromFiles, ← collectedLines_eq legible]
  refine (found.flatMap_right fileLines).trans (.of_eq (congrArg (List.flatMap fileLines) ?_))
  refine List.flatMap_congr fun node _ => ?_
  rw [List.map_map]
  rfl

/-- The rows of the error timeline for what the services have logged. -/
def serviceRows (log : LogRuntime) (nodes : List RemoteNode) : List ErrorRow :=
  (collectedLines nodes).filterMap (fun line => rowOf log line.1 line.2.1 line.2.2)

/-- What k6 has reported has text for its timestamps. -/
structure K6Reports (log : LogRuntime) (run : RunLogs) : Prop where
  fine : ∀ line ∈ run.k6Lines, MessageFine log line
  texts : ∀ row ∈ run.k6Lines.filterMap (accountedMessage log), ∃ text, row.timestamp = .str text

theorem rowOf_timestamp {node container : Str} {line : DockerLine} {row : ErrorRow}
    (found : rowOf log node container line = some row) : row.timestamp = .str line.timestamp := by
  unfold rowOf at found
  split at found
  · unfold structuredRow at found
    dsimp only at found
    split at found
    · cases found
      rfl
    · cases found
  · unfold unstructuredRow at found
    split_ifs at found
    cases found
    rfl

theorem errors_of_collected (collected : run.Collected runtime nodes disk runDir)
    (legible : ∀ line ∈ collectedLines nodes, Legible runtime log clock line.2.2)
    (reports : K6Reports log run)
    (encodable : ∀ row ∈ serviceRows log nodes ++ run.k6Lines.filterMap (accountedMessage log),
      row.encodable log = true) :
    ∃ rows, generateErrorTimeline log run = .ok rows ∧
      rows.Perm (serviceRows log nodes ++ run.k6Lines.filterMap (accountedMessage log)) := by
  have permuted := logLines_perm collected legible
  have lines : ∀ line ∈ run.logLines, LineFine log line := by
    intro line member
    obtain ⟨source, present, rfl⟩ := List.mem_map.mp (permuted.mem_iff.mp member)
    exact lineFine (legible source present)
  have atServices : (run.logLines.filterMap (accountedLine log)).Perm (serviceRows log nodes) := by
    refine (permuted.filterMap _).trans (.of_eq ?_)
    unfold serviceRows
    rw [List.filterMap_map]
    apply List.filterMap_congr
    intro line member
    exact accountedLine_eq (legible line member)
  have all : (accounted log run).Perm
      (serviceRows log nodes ++ run.k6Lines.filterMap (accountedMessage log)) :=
    atServices.append_right _
  have texts : ∀ row ∈ accounted log run, ∃ text, row.timestamp = .str text := by
    intro row member
    rcases List.mem_append.mp (all.mem_iff.mp member) with service | message
    · obtain ⟨line, _, found⟩ := List.mem_filterMap.mp service
      exact ⟨_, rowOf_timestamp found⟩
    · exact reports.texts row message
  have compares : Library.ComparesWithin (fun left right : ErrorRow =>
      jsonLess log left.timestamp right.timestamp) (fun _ _ => True) (accounted log run) :=
    { symm := fun _ _ _ => trivial
      trans := fun _ _ _ _ _ => trivial
      compares := fun left atLeft right atRight => by
        obtain ⟨first, isFirst⟩ := texts left atLeft
        obtain ⟨second, isSecond⟩ := texts right atRight
        rw [isFirst, isSecond]
        exact iff_of_true ⟨_, rfl⟩ trivial }
  obtain ⟨sorted, sorts⟩ := (Library.raisingSort_returns_iff compares).mpr
    (List.pairwise_of_forall fun _ _ => trivial)
  have reordered := (Library.raisingSort_perm sorts).trans all
  have written : sorted.all (ErrorRow.encodable log) = true :=
    List.all_eq_true.mpr fun row member => encodable row (reordered.mem_iff.mp member)
  refine ⟨sorted, ?_, reordered⟩
  rw [generateErrorTimeline_fine lines reports.fine, sorts]
  exact if_pos written

theorem finishedSeconds_perm (collected : run.Collected runtime nodes disk runDir)
    (legible : ∀ line ∈ collectedLines nodes, Legible runtime log clock line.2.2) :
    (finishedSeconds log clock run).Perm ((collectedLines nodes).filterMap
      (fun line => lineSecond log clock (logLine runtime line))) := by
  refine ((logLines_perm collected legible).filterMap _).trans (.of_eq ?_)
  rw [List.filterMap_map]
  rfl

theorem generateThroughputTimeline_collected (collected : run.Collected runtime nodes disk runDir)
    (legible : ∀ line ∈ collectedLines nodes, Legible runtime log clock line.2.2) :
    generateThroughputTimeline log clock run =
      .ok ((sortFields (completedPerSecond clock (finishedSeconds log clock run))).map
        (fun entry => ⟨entry.1, entry.2⟩)) := by
  have each : ∀ line ∈ run.logLines,
      finishedSecond log clock line = .ok (lineSecond log clock line) := by
    intro line member
    obtain ⟨source, present, rfl⟩ :=
      List.mem_map.mp ((logLines_perm collected legible).mem_iff.mp member)
    obtain ⟨second, _, atLine⟩ := lineSecond_eq (legible source present)
    apply finishedSecond_eq (lineFine (legible source present))
    intro finished
    rw [finishedLine_eq (legible source present)] at finished
    rw [atLine, if_pos finished]
    rfl
  unfold generateThroughputTimeline finishedSeconds
  rw [Library.mapM_eq_map each]
  simp only [bind, Except.bind, List.filterMap_map, Function.id_comp]
  rfl

theorem throughput_of_collected (collected : run.Collected runtime nodes disk runDir)
    (legible : ∀ line ∈ collectedLines nodes, Legible runtime log clock line.2.2) :
    ∃ rows, generateThroughputTimeline log clock run = .ok rows ∧
      (rows.map ThroughputRow.completedJobs).sum =
        (collectedLines nodes).countP (fun line => isFinishedLine line.2.2) ∧
      ∀ row ∈ rows, row.completedJobs = (collectedLines nodes).countP (fun line =>
        isFinishedLine line.2.2 && secondText clock line.2.2 = some row.timestamp) := by
  have seconds := finishedSeconds_perm collected legible
  refine ⟨_, generateThroughputTimeline_collected collected legible, ?_, ?_⟩
  · rw [sum_completedPerSecond, seconds.length_eq, List.length_filterMap_eq_countP]
    apply List.countP_congr
    intro line member
    obtain ⟨second, _, atLine⟩ := lineSecond_eq (legible line member)
    rw [atLine]
    cases isFinishedLine line.2.2 <;> simp
  · intro row member
    rw [sortFields_completedPerSecond, List.map_map] at member
    obtain ⟨group, inGroups, rfl⟩ := List.mem_map.mp member
    have isFilter := (mem_sortedGroups.mp inGroups).1
    change group.2.length = _
    rw [isFilter, ← List.countP_eq_length_filter, seconds.countP_eq, List.countP_filterMap]
    apply List.countP_congr
    intro line present
    obtain ⟨second, inSecond, atLine⟩ := lineSecond_eq (legible line present)
    rw [atLine, secondText, inSecond]
    cases isFinishedLine line.2.2 <;> simp

end Runs

section Workers

open Library (Machine)
open Worker (JobEvent Measured)
open Properties.JobLogs (finishedJobs)
open Properties.PrintedLogs (Output printing unprinting length_finishedJobs_printed)
open Properties.Finality (Ambiguous statusWritesFaithful)
open Properties.RequestHash (joined_of_ascii keys_joined)

/-- What a worker has measured can be read where it is printed. -/
structure ReadableMeasures (runtime : Runtime) (decoder : JsonDecoder) (levels : Nat)
    (measured : Measured) : Prop where
  texts : Joined measured.queueName ∧ Joined measured.error
  pipeline : Readable runtime decoder levels (pipelineToJson measured.pipeline)
  waited : ∀ value, measured.queueWaitTimeMs = some value → value.isFinite = true →
    ReadsFloat runtime decoder value
  times : ∀ value ∈ [measured.downloadTimeMs, measured.processingTimeMs, measured.uploadTimeMs,
    measured.totalWorkerTimeMs], value.isFinite = true → ReadsFloat runtime decoder value

/-- All keys of the events of a worker. -/
def eventKeys : List Str :=
  [str "event", str "job_id", str "queue_name", str "status", str "error", str "pipeline",
    str "queue_wait_time_ms", str "download_time_ms", str "processing_time_ms",
    str "upload_time_ms", str "total_worker_time_ms"]

theorem eventKeys_joined : ∀ key ∈ eventKeys, Joined key := keys_joined (by decide +kernel)

theorem readable_event {decoder : JsonDecoder} {levels : Nat} {measured : Measured}
    (measures : ReadableMeasures runtime decoder levels measured) {event : JobEvent}
    (joined : Joined event.jobId.text) :
    Readable runtime decoder (levels + 1) (.obj (payload event.name (event.fields measured))) := by
  have named : Joined event.name := by
    cases event <;> exact joined_of_ascii (all_letters (by rfl))
  have status (status : Status) : Joined status.text := by
    cases status <;> exact joined_of_ascii (all_letters (by decide))
  have keys : ((payload event.name (event.fields measured)).map Prod.fst).Sublist eventKeys := by
    cases event with
    | picked =>
        change [str "event", str "job_id", str "queue_name"].Sublist eventKeys
        decide
    | finished =>
        change [str "event", str "job_id", str "queue_name", str "status", str "pipeline",
          str "queue_wait_time_ms", str "download_time_ms", str "processing_time_ms",
          str "upload_time_ms", str "total_worker_time_ms"].Sublist eventKeys
        decide
    | failed =>
        change [str "event", str "job_id", str "queue_name", str "status", str "error",
          str "total_worker_time_ms"].Sublist eventKeys
        decide
  have distinct : eventKeys.Nodup := by decide
  have waited : Readable runtime decoder levels
      ((measured.queueWaitTimeMs.map Json.float).getD .null) := by
    cases known : measured.queueWaitTimeMs with
    | none => exact .ofNull
    | some value => exact .ofFloat (measures.waited value known)
  apply Readable.ofFields
  · exact keys.nodup distinct
  · intro field member
    exact eventKeys_joined _ (keys.subset (List.mem_map_of_mem member))
  · unfold payload
    rw [List.forall_mem_cons]
    refine ⟨.ofText named, ?_⟩
    have times := measures.times
    simp only [List.forall_mem_cons] at times
    cases event with
    | picked jobId =>
        simp only [JobEvent.fields, List.forall_mem_cons]
        exact ⟨.ofText joined, .ofText measures.texts.1, nofun⟩
    | finished jobId =>
        simp only [JobEvent.fields, List.forall_mem_cons]
        exact ⟨.ofText joined, .ofText measures.texts.1, .ofText (status _), measures.pipeline,
          waited, .ofFloat times.1, .ofFloat times.2.1, .ofFloat times.2.2.1,
          .ofFloat times.2.2.2.1, nofun⟩
    | failed jobId =>
        simp only [JobEvent.fields, List.forall_mem_cons]
        exact ⟨.ofText joined, .ofText measures.texts.1, .ofText (status _),
          .ofText measures.texts.2, .ofFloat times.2.2.2.1, nofun⟩

/-- The line that a worker prints for an event. -/
def Prints (line : DockerLine) (event : JobEvent) : Prop :=
  ∃ measured, line.output = .event event.name (event.fields measured)

/-- The collected lines are what the workers have printed, and lines of others that
do not say that a job is finished. -/
def PrintedBy {W : Type} (nodes : List RemoteNode) (log : List (W × JobEvent)) : Prop :=
  ∃ printed others, (collectedLines nodes).Perm (printed ++ others) ∧
    List.Forall₂ (fun line entry => Prints line.2.2 entry.2) printed log ∧
    ∀ line ∈ others, isFinishedLine line.2.2 = false

theorem isFinishedLine_of_prints {line : DockerLine} {event : JobEvent}
    (prints : Prints line event) :
    isFinishedLine line = decide (event.name = str "job_finished") := by
  obtain ⟨measured, output⟩ := prints
  unfold isFinishedLine
  rw [output]

/-- The lines that say so are those of the jobs that are logged to be finished. -/
theorem countP_isFinishedLine {W : Type} {nodes : List RemoteNode} {log : List (W × JobEvent)}
    (printedBy : PrintedBy nodes log) :
    (collectedLines nodes).countP (fun line => isFinishedLine line.2.2) =
      (finishedJobs log).length := by
  obtain ⟨printed, others, all, prints, silent⟩ := printedBy
  have none : others.countP (fun line => isFinishedLine line.2.2) = 0 := by
    rw [List.countP_eq_zero]
    intro line member
    rw [silent line member]
    exact Bool.false_ne_true
  rw [all.countP_eq, List.countP_append, none, Nat.add_zero]
  clear all
  induction prints with
  | nil => rfl
  | cons here _ ih =>
      rename_i line entry lines entries _
      obtain ⟨worker, event⟩ := entry
      rw [List.countP_cons, ih, isFinishedLine_of_prints here]
      cases event with
      | finished jobId => rfl
      | picked jobId => rfl
      | failed jobId => rfl

variable {run : RunLogs} {nodes : List RemoteNode} {disk : Disk} {runDir : Path}
  {R P W Image : Type} [DecidableEq R]
  [DecidableEq P] [DecidableEq W] {site : Cluster.Deployment R P W Image}
  {state : Cluster.State site} {output : Output W}

end Workers

section Pixel

open Library (Machine)
open Worker (JobEvent)
open Properties.Finality (Ambiguous)
open Properties.PrintedLogs (pixelPrinted pixelPrinted_reached)

/-- An interpreter that prints every float as zero, and measures of nothing. -/
def zeroRuntime : Runtime :=
  { intOfStr := fun _ => none
    floatRepr := fun _ => str "0.0"
    sha256 := fun _ => [] }

def zeroMeasures : Worker.Measured :=
  { queueName := str "jobs_default"
    pipeline := []
    queueWaitTimeMs := none
    downloadTimeMs := .finite 0
    processingTimeMs := .finite 0
    uploadTimeMs := .finite 0
    totalWorkerTimeMs := .finite 0
    error := [] }

def stamp : Str := str "2026-01-01T00:00:01Z"

def stampedLine (event : JobEvent) : DockerLine :=
  ⟨stamp, .event event.name (event.fields zeroMeasures)⟩

/-- What a worker prints that has processed the pixel, and failed at another job. -/
def pixelLines : List DockerLine :=
  [stampedLine (.picked firstJob), stampedLine (.finished firstJob),
    stampedLine (.failed secondJob)]

def errorLine : DockerLine := ⟨stamp, .text (str "Error: disk is full")⟩

def pixelNodes : List RemoteNode :=
  [⟨str "main", none⟩,
    ⟨str "worker", some [⟨str "docker-worker-1", pixelLines, [errorLine]⟩, ⟨str "redis", [], []⟩]⟩]

def pixelLogs : RunLogs :=
  { logFiles := [⟨some (str "worker"), str "docker-worker-1",
      ⟨dockerLogs zeroRuntime (pixelLines ++ [errorLine]), by decide +kernel⟩, by decide⟩]
    k6Stdout := mixedLogs.k6Stdout }

/-- The directory `run` with the output of k6. -/
def pixelDisk : Disk :=
  { workingDirectory := [str "bench"]
    files := [([str "bench", str "run", str "k6_stdout.txt"],
      (pixelLogs.k6Stdout.map FileText.text).getD [])] }

def runPath : Path := Path.ofStr (str "./run")

theorem workerName : FileName (str "docker-worker-1") :=
  ⟨by decide, by decide, by decide, by decide, by decide, by decide⟩

theorem pixelNodes_named : Named pixelNodes where
  distinct := by decide
  names := by
    unfold pixelNodes
    rw [List.forall_mem_cons, List.forall_mem_singleton]
    exact ⟨⟨by decide, by decide, by decide, by decide, by decide, by decide⟩,
      ⟨by decide, by decide, by decide, by decide, by decide, by decide⟩⟩
  containers := by
    unfold pixelNodes
    rw [List.forall_mem_cons, List.forall_mem_singleton]
    constructor <;> decide +kernel
  containerNames := by
    have none : RemoteNode.collected ⟨str "main", none⟩ = [] := rfl
    have one : (RemoteNode.collected ⟨str "worker", some
        [⟨str "docker-worker-1", pixelLines, [errorLine]⟩, ⟨str "redis", [], []⟩]⟩).map
          (fun container => strip container.name) = [str "docker-worker-1"] := by decide +kernel
    unfold pixelNodes
    rw [List.forall_mem_cons, List.forall_mem_singleton]
    constructor
    · rw [none]
      nofun
    · intro container collected
      have named := List.mem_map_of_mem (f := fun container => strip container.name) collected
      rw [one, List.mem_singleton] at named
      rw [named]
      exact workerName

theorem pixelLogs_collected : pixelLogs.Collected zeroRuntime pixelNodes pixelDisk runPath where
  named := pixelNodes_named
  fresh := by decide +kernel
  found := { logs := .of_eq (by decide +kernel), k6 := by decide +kernel }

theorem zero_digits : (str "0").all isDigit = true := rfl

theorem zero_canonical :
    str "0" = str "0" ∨ (str "0" ≠ [] ∧ (str "0").head? ≠ some (codePoint '0')) := .inl rfl

theorem zero_short : (str "0").length ≤ 21 := Nat.le_of_ble_eq_true rfl

theorem zero_exponent : ∀ power ∈ (none : Option (CodePoint × Str)),
    power.1 ∈ str "+-" ∧ power.2 ≠ [] ∧ power.2.all isDigit = true := nofun

/-- The text `0.0`. -/
def zeroText : Loadtest.NumberText :=
  { negative := false
    whole := str "0"
    fraction := str "0"
    exponent := none
    wholeDigits := zero_digits
    canonical := zero_canonical
    short := zero_short
    fractionDigits := zero_digits
    exponentDigits := zero_exponent }

theorem zero_readsFloat : ReadsFloat zeroRuntime logRuntime.decoder (.finite 0) :=
  ⟨zeroText, rfl, rfl⟩

theorem zeroMeasures_readable :
    ReadableMeasures zeroRuntime logRuntime.decoder 9 zeroMeasures where
  texts := ⟨Properties.RequestHash.joined_of_ascii (all_letters (by decide)),
    Properties.RequestHash.joined_of_ascii (all_letters (by decide))⟩
  pipeline :=
    { loaded := .ofArr nofun
      integers := fun _ part => by cases part with | item member _ => cases member
      floats := fun _ part => by cases part with | item member _ => cases member
      nested := by decide }
  waited _ known := by cases known
  times value member _ := by
    have zero : value = .finite 0 := by simpa [zeroMeasures] using member
    rw [zero]
    exact zero_readsFloat

theorem stamp_fine : stamp ≠ [] ∧ (∀ letter ∈ stamp, isSpace letter = false) ∧
    logClock.second stamp = .ok 1767225601000000 :=
  ⟨List.cons_ne_nil _ _, all_letters (by decide), by decide⟩

theorem stampedLine_legible {event : JobEvent} (joined : Joined event.jobId.text) :
    Legible zeroRuntime logRuntime logClock (stampedLine event) where
  stamped := stamp_fine.1
  unspaced := stamp_fine.2.1
  timed := ⟨1767225601000000, stamp_fine.2.2⟩
  output := readable_event zeroMeasures_readable joined

theorem errorLine_legible : Legible zeroRuntime logRuntime logClock errorLine where
  stamped := stamp_fine.1
  unspaced := stamp_fine.2.1
  timed := ⟨1767225601000000, stamp_fine.2.2⟩
  output := ⟨all_letters (by decide), rfl⟩

theorem pixelNodes_legible : ∀ line ∈ collectedLines pixelNodes,
    Legible zeroRuntime logRuntime logClock line.2.2 := by
  have first : Joined firstJob.text :=
    Properties.RequestHash.joined_of_ascii (all_letters (by decide))
  have second : Joined secondJob.text :=
    Properties.RequestHash.joined_of_ascii (all_letters (by decide))
  have lines : (collectedLines pixelNodes).map (fun line => line.2.2) =
      pixelLines ++ [errorLine] := by rfl
  intro line member
  have here := List.mem_map_of_mem (f := fun line => line.2.2) member
  rw [lines] at here
  rcases List.mem_append.mp here with event | text
  · revert event
    unfold pixelLines
    rw [List.mem_cons, List.mem_cons, List.mem_singleton]
    rintro (same | same | same) <;> rw [same]
    · exact stampedLine_legible first
    · exact stampedLine_legible first
    · exact stampedLine_legible second
  · rw [List.mem_singleton.mp text]
    exact errorLine_legible

theorem pixelLogs_reports : K6Reports logRuntime pixelLogs where
  fine := by
    have messages : pixelLogs.k6Lines.all (fun line => (k6Row logRuntime line).isOk) = true := by
      decide +kernel
    intro line member
    exact messageFine_of_ok
      (Library.exists_ok_of_isOk (List.all_eq_true.mp messages line member)).choose_spec
  texts := by
    have stamped : (pixelLogs.k6Lines.filterMap (accountedMessage logRuntime)).all textStamped =
        true := by decide +kernel
    intro row member
    obtain ⟨text, given, _⟩ := textStamped_cases (List.all_eq_true.mp stamped row member)
    exact ⟨text, given⟩

end Pixel

end ImagePipeline.Properties.ContainerLogs
