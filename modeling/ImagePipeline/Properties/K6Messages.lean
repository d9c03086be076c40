/-
The errors that the load test logs, and what the error timeline makes of them:
JSON in Go's quotes, found by a pattern, taken for `unicode_escape` and read back.
-/

import ImagePipeline.Loadtest.ErrorLog
import ImagePipeline.Properties.LogAnalysis

namespace ImagePipeline.Properties.K6Messages

open Common Benchmark Loadtest
open Library (mapM_eq_map)

/-! ### A quoted text on a line -/

section Quoted

variable {isPrint : CodePoint → Bool}

theorem matchMessage_quoteBody (text rest : Str) :
    matchMessage (quoteBody isPrint text ++ codePoint '"' :: rest) =
      some (quoteBody isPrint text) := by
  have noNewline : ∀ letter ∈ escapeLetters, letter ≠ codePoint '\n' := all_letters (by decide)
  have plainDigits : ∀ digit ∈ str "0123456789abcdef",
      digit ≠ codePoint '"' ∧ digit ≠ codePoint '\\' := all_letters (by decide)
  induction text with
  | nil => exact matchMessage_closed rest
  | cons rune more ih =>
      have split : quoteBody isPrint (rune :: more) =
          quoteRune isPrint rune ++ quoteBody isPrint more := List.flatMap_cons
      rw [split, List.append_assoc]
      cases raw : isRaw isPrint rune with
      | true =>
          obtain ⟨quoted, noQuote, noBackslash, _⟩ := quoteRune_raw raw
          rw [quoted]
          exact matchMessage_plain noQuote noBackslash ih
      | false =>
          obtain ⟨letter, digits, quoted, isLetter, areDigits⟩ := quoteRune_escape raw
          have later := matchMessage_plains
            (fun digit member => plainDigits digit (areDigits digit member)) ih
          rw [quoted]
          exact matchMessage_escape (noNewline letter isLetter) later

theorem quoteBody_oneLine (prints : PrintsRunes isPrint) (text : Str) :
    ∀ letter ∈ quoteBody isPrint text, isLineBreak letter = false := by
  have inEscapes : ∀ letter ∈ escapeLetters, isLineBreak letter = false :=
    all_letters (by decide)
  have inDigits : ∀ digit ∈ str "0123456789abcdef", isLineBreak digit = false :=
    all_letters (by decide)
  intro letter member
  obtain ⟨rune, _, inQuoted⟩ := List.mem_flatMap.mp member
  cases raw : isRaw isPrint rune with
  | true =>
      obtain ⟨quoted, _, _, printable⟩ := quoteRune_raw raw
      rw [quoted, List.mem_singleton] at inQuoted
      rw [inQuoted]
      by_contra breaks
      rw [Bool.not_eq_false] at breaks
      unfold isLineBreak at breaks
      simp only [Bool.or_eq_true, Bool.and_eq_true, decide_eq_true_eq] at breaks
      by_cases ascii : rune.val < 0x80
      · rw [prints.ascii rune ascii, Bool.and_eq_true, decide_eq_true_eq,
          decide_eq_true_eq] at printable
        omega
      · rw [prints.separators rune (by omega)] at printable
        cases printable
  | false =>
      obtain ⟨second, digits, quoted, isLetter, areDigits⟩ := quoteRune_escape raw
      rw [quoted] at inQuoted
      rcases List.mem_cons.mp inQuoted with rfl | later
      · decide
      · rcases List.mem_cons.mp later with rfl | isDigit
        · exact inEscapes _ isLetter
        · exact inDigits letter (areDigits letter isDigit)

end Quoted

/-! ### One message in the logs of a run -/

/-- A run whose logs have one line from which a row could come: on it k6 has
written a message. -/
structure MessageLog (runtime : LogRuntime) (isPrint : CodePoint → Bool) (message : Str) where
  run : RunLogs
  content : FileText
  earlier : Str
  before : Str
  after : Str
  later : Str
  output : run.k6Stdout = some content
  written : content.text = earlier ++ (before ++ (str "msg=" ++ (strconvQuote isPrint message ++
    after)) ++ codePoint '\n' :: later)
  complete : earlier = [] ∨ ∃ lines, earlier = lines ++ [codePoint '\n']
  oneLine : ∀ letter ∈ before ++ after, isLineBreak letter = false
  first : ¬ str "msg=\"" <:+: before
  quietLogs : ∀ line ∈ run.logLines, errorRow runtime line = .ok none
  quietLines : ∀ line ∈ splitLines earlier ++ splitLines later, k6Row runtime line = .ok none

namespace MessageLog

variable {runtime : LogRuntime} {isPrint : CodePoint → Bool} {message : Str}

def line (log : MessageLog runtime isPrint message) : Str :=
  log.before ++ (str "msg=" ++ (strconvQuote isPrint message ++ log.after))

theorem searchMessage_line (log : MessageLog runtime isPrint message) :
    searchMessage log.line = some (quoteBody isPrint message) := by
  have opening : log.line = log.before ++ (str "msg=\"" ++
      (quoteBody isPrint message ++ codePoint '"' :: log.after)) := by
    unfold line strconvQuote
    rw [List.cons_append, List.append_assoc]
    rfl
  rw [opening]
  exact searchMessage_append log.first (matchMessage_quoteBody message log.after)

theorem line_oneLine (prints : PrintsRunes isPrint) (log : MessageLog runtime isPrint message) :
    ∀ letter ∈ log.line, isLineBreak letter = false := by
  have word : ∀ letter ∈ str "msg=", isLineBreak letter = false := all_letters (by decide)
  have quote : isLineBreak (codePoint '"') = false := by decide
  have around := List.forall_mem_append.mp log.oneLine
  unfold line strconvQuote
  rw [List.forall_mem_append, List.forall_mem_append, List.forall_mem_append, List.forall_mem_cons,
    List.forall_mem_append, List.forall_mem_singleton]
  exact ⟨around.1, word, ⟨quote, quoteBody_oneLine prints message, quote⟩, around.2⟩

theorem k6Lines (prints : PrintsRunes isPrint) (log : MessageLog runtime isPrint message) :
    log.run.k6Lines = splitLines log.earlier ++ (log.line :: splitLines log.later) := by
  have atLine : splitLines (log.line ++ codePoint '\n' :: log.later) =
      log.line :: splitLines log.later :=
    splitLinesFrom_line (log.line_oneLine prints) [] log.later
  unfold RunLogs.k6Lines
  rw [log.output]
  change splitLines log.content.text = _
  rw [log.written, splitLines_append log.complete]
  exact congrArg (splitLines log.earlier ++ ·) atLine

/-- The timeline consists of the row of the message, if there is one that can be
written. -/
theorem generateErrorTimeline_eq (prints : PrintsRunes isPrint)
    (log : MessageLog runtime isPrint message) {row : ErrorRow}
    (found : k6Row runtime log.line = .ok (some row)) (written : row.encodable runtime = true) :
    generateErrorTimeline runtime log.run = .ok [row] := by
  have quiet {α : Type} {lines : List α} {read : α → Except LogError (Option ErrorRow)}
      (each : ∀ line ∈ lines, read line = .ok none) :
      lines.mapM read = .ok (lines.map fun _ => none) := mapM_eq_map each
  have noRows {α : Type} (lines : List α) :
      (lines.map fun _ => (none : Option ErrorRow)).filterMap id = [] := by
    rw [List.filterMap_map]
    exact List.filterMap_eq_nil_iff.mpr fun _ _ => rfl
  have earlierQuiet := quiet fun line member =>
    log.quietLines line (List.mem_append_left _ member)
  have laterQuiet := quiet fun line member =>
    log.quietLines line (List.mem_append_right _ member)
  have rows : (log.run.logLines.map fun _ => (none : Option ErrorRow)).filterMap id ++
      (((splitLines log.earlier).map fun _ => none) ++
        (some row :: (splitLines log.later).map fun _ => none)).filterMap id = [row] := by
    rw [noRows, List.filterMap_append, noRows, List.filterMap_cons_some (f := id) rfl, noRows]
    rfl
  unfold generateErrorTimeline
  rw [quiet log.quietLogs, log.k6Lines prints, List.mapM_append, List.mapM_cons, earlierQuiet,
    found, laterQuiet]
  simp only [bind, Except.bind, pure, Except.pure, rows]
  change (if [row].all (ErrorRow.encodable runtime) = true then _ else _) = _
  rw [List.all_cons, written]
  rfl

end MessageLog

/-! ### The row of a logged error -/

section Row

variable {runtime : LogRuntime} {isPrint : CodePoint → Bool} {numbers : PyFloat → NumberText}

/-- The row that the timeline has for a logged error. -/
def decodedRow (runtime : LogRuntime) (isPrint : CodePoint → Bool) (numbers : PyFloat → NumberText)
    (error : K6Error) : ErrorRow :=
  { timestamp := .str (mangled isPrint error.timestamp)
    node := str "load-generator"
    container := str "k6"
    event := .str (mangled isPrint error.event)
    jobId := decodedField numbers isPrint runtime.decoder error.details.jobId
    message := decodedField numbers isPrint runtime.decoder error.details.message }

theorem k6ObjectRow_logged (error : K6Error) :
    k6ObjectRow (error.object.map (fun field =>
        (field.1, decodedField numbers isPrint runtime.decoder field.2))) =
      some (decodedRow runtime isPrint numbers error) := by
  have source : mangled isPrint (str "k6") = str "k6" := mangled_ascii (all_letters (by decide))
  have blank : mangled isPrint [] = [] := rfl
  unfold K6Error.object logObject decodedRow
  cases error.details with
  | pollHttpError jobId statusCode =>
      simp [k6ObjectRow, Dict.getD, Dict.get?, LogDetails.fields, LogDetails.jobId,
        LogDetails.message, decodedField, source, blank]
  | jobFailed jobId message =>
      simp [k6ObjectRow, Dict.getD, Dict.get?, LogDetails.fields, LogDetails.jobId,
        LogDetails.message, decodedField, source]
  | pollTimeout jobId timeoutSeconds polls =>
      simp [k6ObjectRow, Dict.getD, Dict.get?, LogDetails.fields, LogDetails.jobId,
        LogDetails.message, decodedField, source, blank]
  | submitError statusCode task responseBody =>
      simp [k6ObjectRow, Dict.getD, Dict.get?, LogDetails.fields, LogDetails.jobId,
        LogDetails.message, decodedField, source, blank]

theorem k6Row_logged (nested : 0 < runtime.decoder.recursionLimit) (error : K6Error)
    (log : MessageLog runtime isPrint (error.logK6Error numbers)) :
    k6Row runtime log.line = .ok (some (decodedRow runtime isPrint numbers error)) := by
  obtain ⟨levels, deep⟩ := Nat.exists_eq_add_one_of_ne_zero (Nat.pos_iff_ne_zero.mp nested)
  have unescaped : unescapeMessage runtime (quoteBody isPrint (error.logK6Error numbers)) =
      .ok (mangled isPrint (error.logK6Error numbers)) := decodeUnicodeEscape_quoteBody _
  have loaded : loadPayload runtime (mangled isPrint (error.logK6Error numbers)) =
      .ok (.value (.obj (error.object.map (fun field =>
        (field.1, decodedField numbers isPrint runtime.decoder field.2))))) :=
    LogAnalysis.loadPayload_object (jsonLoads_logged deep error)
  unfold k6Row
  rw [log.searchMessage_line]
  dsimp only
  rw [unescaped]
  dsimp only
  rw [loaded]
  change Except.ok (k6ObjectRow _) = _
  rw [k6ObjectRow_logged]

/-- A value that is `null` or a Unicode text. -/
def Written (value : Json) : Prop :=
  value = .null ∨ ∃ text, value = .str text ∧ encodable text = true

theorem written_details (error : K6Error) :
    Written error.details.jobId ∧ Written error.details.message := by
  have unicode : ∀ field ∈ error.details.fields, encodable (textOf field.2) = true :=
    fun field member => error.unicode field (by simp [logObject, member])
  have blank : Written (.str []) := .inr ⟨[], rfl, rfl⟩
  cases details : error.details with
  | pollHttpError jobId statusCode =>
      rw [details] at unicode
      exact ⟨.inr ⟨jobId, rfl, unicode _ List.mem_cons_self⟩, blank⟩
  | jobFailed jobId message =>
      rw [details] at unicode
      exact ⟨.inr ⟨jobId, rfl, unicode _ List.mem_cons_self⟩,
        .inr ⟨message, rfl, unicode _ (List.mem_cons_of_mem _ List.mem_cons_self)⟩⟩
  | pollTimeout jobId timeoutSeconds polls =>
      rw [details] at unicode
      exact ⟨.inr ⟨jobId, rfl, unicode _ List.mem_cons_self⟩, blank⟩
  | submitError statusCode task responseBody =>
      rw [details] at unicode
      cases responseBody with
      | none => exact ⟨blank, .inl rfl⟩
      | some body =>
          have inFields : (str "response_body", Json.str body) ∈
              (LogDetails.submitError statusCode task (some body)).fields := by
            simp [LogDetails.fields]
          exact ⟨blank, .inr ⟨body, rfl, unicode _ inFields⟩⟩

theorem encodable_cellText (numbers : PyFloat → NumberText) {value : Json}
    (written : Written value) :
    encodable (cellText runtime (decodedField numbers isPrint runtime.decoder value)) = true := by
  rcases written with rfl | ⟨text, rfl, unicode⟩
  · rfl
  · exact encodable_mangled unicode

theorem decodedRow_encodable (error : K6Error) :
    (decodedRow runtime isPrint numbers error).encodable runtime = true := by
  obtain ⟨jobId, message⟩ := written_details error
  have timestamp : Written (.str error.timestamp) :=
    .inr ⟨_, rfl, error.unicode _ List.mem_cons_self⟩
  have event : Written (.str error.event) :=
    .inr ⟨_, rfl, error.unicode _ (List.mem_cons_of_mem _ List.mem_cons_self)⟩
  have loadGenerator : encodable (str "load-generator") = true := by decide
  have k6 : encodable (str "k6") = true := by decide
  have cells : ∀ cell ∈ (decodedRow runtime isPrint numbers error).cells runtime,
      encodable cell = true := by
    intro cell member
    simp only [ErrorRow.cells, List.mem_cons, List.not_mem_nil, or_false] at member
    rcases member with rfl | rfl | rfl | rfl | rfl | rfl
    · exact encodable_cellText numbers timestamp
    · exact loadGenerator
    · exact k6
    · exact encodable_cellText numbers event
    · exact encodable_cellText numbers jobId
    · exact encodable_cellText numbers message
  exact List.all_eq_true.mpr cells

end Row

/-! ### Undoing the encoding -/

section Undoing

/-- The timeline has exactly one row, with the logged event, job id and message. -/
def Undone (runtime : LogRuntime) (run : RunLogs) (error : K6Error) : Prop :=
  ∃ row, generateErrorTimeline runtime run = .ok [row] ∧ row.event = .str error.event ∧
    row.jobId = error.details.jobId ∧ row.message = error.details.message

def Plain (isPrint : CodePoint → Bool) (text : Str) : Prop :=
  ∀ letter ∈ text, isPrint letter = true → letter.val < 0x80

structure PlainError (isPrint : CodePoint → Bool) (error : K6Error) : Prop where
  event : Plain isPrint error.event
  jobId : Plain isPrint (textOf error.details.jobId)
  message : Plain isPrint (textOf error.details.message)

variable {runtime : LogRuntime} {isPrint : CodePoint → Bool} {numbers : PyFloat → NumberText}

theorem decodedField_eq_iff (numbers : PyFloat → NumberText) (decoder : JsonDecoder) {value : Json}
    (written : Written value) :
    decodedField numbers isPrint decoder value = value ↔ Plain isPrint (textOf value) := by
  rcases written with rfl | ⟨text, rfl, _⟩
  · exact iff_of_true rfl fun letter member => absurd member List.not_mem_nil
  · exact (Json.str.injEq _ _).to_iff.trans (mangled_eq_iff text)

theorem generateErrorTimeline_logged (prints : PrintsRunes isPrint)
    (nested : 0 < runtime.decoder.recursionLimit) (error : K6Error)
    (log : MessageLog runtime isPrint (error.logK6Error numbers)) :
    generateErrorTimeline runtime log.run = .ok [decodedRow runtime isPrint numbers error] :=
  log.generateErrorTimeline_eq prints (k6Row_logged nested error log) (decodedRow_encodable error)

/-- Decoding undoes the encoding exactly if Go had to escape every letter beyond
ASCII. -/
theorem undone_iff (prints : PrintsRunes isPrint) (nested : 0 < runtime.decoder.recursionLimit)
    (error : K6Error) (log : MessageLog runtime isPrint (error.logK6Error numbers)) :
    Undone runtime log.run error ↔ PlainError isPrint error := by
  have generated := generateErrorTimeline_logged prints nested error log
  obtain ⟨jobId, message⟩ := written_details error
  have atEvent : mangled isPrint error.event = error.event ↔ Plain isPrint error.event :=
    mangled_eq_iff error.event
  have atJobId : _ ↔ Plain isPrint _ := decodedField_eq_iff numbers runtime.decoder jobId
  have atMessage : _ ↔ Plain isPrint _ := decodedField_eq_iff numbers runtime.decoder message
  constructor
  · intro ⟨row, returned, sameEvent, sameJobId, sameMessage⟩
    rw [generated] at returned
    cases returned
    exact ⟨atEvent.mp (Json.str.inj sameEvent), atJobId.mp sameJobId, atMessage.mp sameMessage⟩
  · intro plain
    exact ⟨_, generated, congrArg Json.str (atEvent.mpr plain.event), atJobId.mpr plain.jobId,
      atMessage.mpr plain.message⟩

end Undoing

/-! ### Two messages -/

/-- `strconv.IsPrint` on Latin-1. -/
def latinIsPrint (rune : CodePoint) : Bool :=
  (0x20 ≤ rune.val && rune.val ≤ 0x7E) ||
    (0xA1 ≤ rune.val && rune.val ≤ 0xFF && rune.val ≠ 0xAD)

theorem latinIsPrint_prints : PrintsRunes latinIsPrint := by
  constructor
  · intro rune ascii
    have low : decide (0xA1 ≤ rune.val) = false := decide_eq_false (by omega)
    rw [latinIsPrint, low, Bool.false_and, Bool.false_and, Bool.or_false]
  · intro rune separator
    unfold latinIsPrint
    simp only [Bool.or_eq_false_iff, Bool.and_eq_false_iff, decide_eq_false_iff_not]
    omega

/-- No numbers are logged below. -/
def noNumbers (_ : PyFloat) : NumberText :=
  { negative := false
    whole := str "0"
    fraction := []
    exponent := none
    wholeDigits := rfl
    canonical := .inl rfl
    short := by decide
    fractionDigits := rfl
    exponentDigits := by simp }

def failedJob (message : Str) (unicode : encodable message = true) : K6Error :=
  { timestamp := str "2026-01-01T00:00:01.000Z"
    event := str "job_failed"
    details := .jobFailed (str "7f3a") message
    unicode := by
      have others : encodable (str "2026-01-01T00:00:01.000Z") = true ∧
          encodable (str "job_failed") = true ∧ encodable (str "k6") = true ∧
          encodable (str "7f3a") = true := by decide
      simp only [logObject, LogDetails.fields, List.mem_cons, List.not_mem_nil, or_false]
      rintro field (rfl | rfl | rfl | rfl | rfl)
      · exact others.1
      · exact others.2.1
      · exact others.2.2.1
      · exact others.2.2.2
      · exact unicode }

def k6Before : Str := str "time=\"2026-01-01T00:00:01Z\" level=info "

def k6Output (message : Str) : Str :=
  k6Before ++ (str "msg=" ++ (strconvQuote latinIsPrint message ++ str " source=console")) ++
    [codePoint '\n']

theorem k6Before_oneLine :
    ∀ letter ∈ k6Before ++ str " source=console", isLineBreak letter = false :=
  all_letters (by decide)

theorem k6Before_first : ¬ str "msg=\"" <:+: k6Before := by decide +kernel

def k6Log (message : Str) (decoded : encodable (k6Output message) = true) :
    MessageLog LogAnalysis.logRuntime latinIsPrint message :=
  { run := { logFiles := [], k6Stdout := some ⟨k6Output message, decoded⟩ }
    content := ⟨k6Output message, decoded⟩
    earlier := []
    before := k6Before
    after := str " source=console"
    later := []
    output := rfl
    written := (List.nil_append _).symm
    complete := .inl rfl
    oneLine := k6Before_oneLine
    first := k6Before_first
    quietLogs := fun _ member => absurd member List.not_mem_nil
    quietLines := fun _ member => absurd member List.not_mem_nil }

/-- The message has a letter with an accent. -/
def accentError : K6Error := failedJob [pointOf 0xE9] (by decide)

/-- The message has quotes, a backslash, a line break and a control character. -/
def quotedError : K6Error :=
  failedJob (str "a \"b\" \\n" ++ [pointOf 0x0A, pointOf 0x85]) (by decide)

def accentLog : MessageLog LogAnalysis.logRuntime latinIsPrint (accentError.logK6Error noNumbers) :=
  k6Log _ (by decide +kernel)

def quotedLog : MessageLog LogAnalysis.logRuntime latinIsPrint (quotedError.logK6Error noNumbers) :=
  k6Log _ (by decide +kernel)

theorem quotedError_undone : PlainError latinIsPrint quotedError ∧
    Undone LogAnalysis.logRuntime quotedLog.run quotedError := by
  have plain : PlainError latinIsPrint quotedError := by
    constructor <;> exact all_letters (by decide)
  exact ⟨plain, (undone_iff latinIsPrint_prints (by decide) quotedError quotedLog).mpr plain⟩

/-- The two bytes of the letter are taken for two letters. -/
theorem accentError_not_undone :
    (∃ row, generateErrorTimeline LogAnalysis.logRuntime accentLog.run = .ok [row] ∧
      row.message = .str (str "Ã©")) ∧
    ¬ Undone LogAnalysis.logRuntime accentLog.run accentError := by
  have returned := generateErrorTimeline_logged latinIsPrint_prints (by decide) accentError accentLog
  have bytes : mangled latinIsPrint [pointOf 0xE9] = str "Ã©" := by decide
  refine ⟨⟨_, returned, congrArg Json.str bytes⟩, ?_⟩
  intro ⟨row, other, _, _, same⟩
  rw [returned] at other
  cases other
  exact absurd (bytes.symm.trans (Json.str.inj same)) (by decide)

end ImagePipeline.Properties.K6Messages
