/-
The two timelines that are made from the logs after a run: which lines end the
analysis, and that no other line is lost or counted twice.
-/

import ImagePipeline.Common.JsonPrinter
import ImagePipeline.Library.Itemwise
import ImagePipeline.Properties.LogAccounts
import Mathlib.Algebra.BigOperators.Group.List.Basic

namespace ImagePipeline.Properties.LogAnalysis

open Common Benchmark
open Library (groupBy groupBy_distinct mem_groupBy sum_length_groupBy raisingSort
  raisingSort_perm raisingSort_returns_iff ComparesWithin mapM_ok_iff mapM_eq_map bind_ok_iff
  exists_mem_of_mem_left exists_ok_of_isOk)

section Runs

variable (runtime : LogRuntime) (clock : Clock)

/-- A row whose timestamp is blank or can be parsed. -/
def Stamped (row : ErrorRow) : Prop :=
  cellText runtime row.timestamp ≠ [] →
    ∃ time, clock.parseTime (cellText runtime row.timestamp) = .ok time

/-- Two texts, or two numbers. -/
def SameKind (left right : Json) : Prop :=
  (∃ first second, left = .str first ∧ right = .str second) ∨
    (numberValue left ≠ none ∧ numberValue right ≠ none)

/-- Nothing is raised, and every line is skipped or accounted for. -/
structure Survives (run : RunLogs) : Prop where
  errors : ∃ rows, generateErrorTimeline runtime run = .ok rows ∧
    rows.Perm (accounted runtime run) ∧ ∀ row ∈ rows, Stamped runtime clock row
  throughput : ∃ rows, generateThroughputTimeline runtime clock run = .ok rows ∧
    (rows.map ThroughputRow.completedJobs).sum = run.logLines.countP (finishedLine runtime) ∧
    ∃ seconds : List Int, seconds.Pairwise (fun left right => left < right) ∧
      rows = seconds.map (fun second =>
        ⟨clock.isoFormat second, (finishedSeconds runtime clock run).count second⟩)

/-- The lines that the analysis can take: every payload is an object or no JSON;
those that report an error have a timestamp that is blank or can be parsed, all
of them texts or all of them numbers, and texts without lone surrogates. -/
structure Analysable (run : RunLogs) : Prop where
  lines : ∀ line ∈ run.logLines, LineFine runtime line
  messages : ∀ line ∈ run.k6Lines, MessageFine runtime line
  datedLines : ∀ line ∈ run.logLines, ∀ timestamp, LineReports runtime line timestamp →
    ∃ time, clock.parseTime timestamp = .ok time
  datedMessages : ∀ line ∈ run.k6Lines, ∀ payload, MessageReports runtime line payload →
    cellText runtime (messageStamp payload) ≠ [] →
      ∃ time, clock.parseTime (cellText runtime (messageStamp payload)) = .ok time
  textual : ∀ line ∈ run.logLines, ∀ timestamp, LineReports runtime line timestamp →
    ∀ message ∈ run.k6Lines, ∀ payload, MessageReports runtime message payload →
      ∃ text, messageStamp payload = .str text
  comparable : run.k6Lines.Pairwise (fun left right =>
    ∀ first second, MessageReports runtime left first → MessageReports runtime right second →
      SameKind (messageStamp first) (messageStamp second))
  writtenLines : ∀ line ∈ run.logLines, ∀ timestamp payload,
    LineObject runtime line timestamp payload →
      ∀ text ∈ payloadTexts runtime payload, encodable text = true
  writtenMessages : ∀ line ∈ run.k6Lines, ∀ payload, MessageReports runtime line payload →
    ∀ text ∈ messageTexts runtime payload, encodable text = true

/-- The same of the rows that are made of the lines. -/
structure RowsFine (rows : List ErrorRow) : Prop where
  stamped : ∀ row ∈ rows, Stamped runtime clock row
  sortable : rows.Pairwise (fun left right => SameKind left.timestamp right.timestamp)
  encodable : ∀ row ∈ rows, row.encodable runtime = true

/-- What Python says of its texts: a list is printed in brackets, and a date
begins with a digit. -/
structure Documented : Prop where
  lists : ∀ items, ∃ rest, runtime.containerText (.arr items) = codePoint '[' :: rest
  dates : ∀ text time, clock.fromIsoFormat text = some time →
    ∃ first rest, text = first :: rest ∧ isDigit first = true

/-- Finished jobs are logged with a timestamp, and the texts of their seconds
sort in the order of time. -/
structure Timed (run : RunLogs) : Prop where
  parsed : ∀ line ∈ run.logLines, finishedLine runtime line = true →
    (lineSecond runtime clock line).isSome = true
  chronological : ∀ left ∈ finishedSeconds runtime clock run,
    ∀ right ∈ finishedSeconds runtime clock run,
    Str.le (clock.isoFormat left) (clock.isoFormat right) = true → left ≤ right

end Runs

section Lines

variable {runtime : LogRuntime} {clock : Clock} {run : RunLogs}

/-! ### The error timeline -/

theorem generateErrorTimeline_fine (lines : ∀ line ∈ run.logLines, LineFine runtime line)
    (messages : ∀ line ∈ run.k6Lines, MessageFine runtime line) :
    generateErrorTimeline runtime run =
      (raisingSort (fun left right => jsonLess runtime left.timestamp right.timestamp)
          (accounted runtime run)) >>= fun rows =>
        if rows.all (ErrorRow.encodable runtime) then .ok rows else .error .unicodeEncodeError := by
  have atLines : run.logLines.mapM (errorRow runtime) =
      .ok (run.logLines.map (accountedLine runtime)) :=
    mapM_eq_map fun line member => errorRow_eq (lines line member)
  have atMessages : run.k6Lines.mapM (k6Row runtime) =
      .ok (run.k6Lines.map (accountedMessage runtime)) :=
    mapM_eq_map fun line member => k6Row_eq (messages line member)
  unfold generateErrorTimeline accounted
  rw [atLines, atMessages]
  simp only [bind, Except.bind, List.filterMap_map, Function.id_comp]
  rfl

theorem lines_fine_of_ok {rows : List ErrorRow}
    (returned : generateErrorTimeline runtime run = .ok rows) :
    (∀ line ∈ run.logLines, LineFine runtime line) ∧
      ∀ line ∈ run.k6Lines, MessageFine runtime line := by
  obtain ⟨logRows, atLines, more⟩ := bind_ok_iff.mp returned
  obtain ⟨k6Rows, atMessages, _⟩ := bind_ok_iff.mp more
  constructor
  · intro line member
    obtain ⟨row, _, computed⟩ := exists_mem_of_mem_left (mapM_ok_iff.mp atLines) member
    exact lineFine_of_ok computed
  · intro line member
    obtain ⟨row, _, computed⟩ := exists_mem_of_mem_left (mapM_ok_iff.mp atMessages) member
    exact messageFine_of_ok computed

theorem jsonLess_returns_iff {left right : Json} (noList : ∀ items, left ≠ .arr items) :
    (∃ before, jsonLess runtime left right = .ok before) ↔ SameKind left right := by
  unfold jsonLess SameKind
  cases first : numberValue left with
  | some number =>
      cases second : numberValue right with
      | some other => simp
      | none =>
          cases left <;> cases right <;> simp_all [numberValue]
  | none =>
      cases left with
      | bool | int | float => cases first
      | arr items => exact absurd rfl (noList items)
      | str text => cases right <;> simp [numberValue]
      | null | obj => cases right <;> simp

theorem SameKind.symm {left right : Json} (same : SameKind left right) : SameKind right left := by
  rcases same with ⟨first, second, isFirst, isSecond⟩ | ⟨first, second⟩
  · exact .inl ⟨second, first, isSecond, isFirst⟩
  · exact .inr ⟨second, first⟩

theorem SameKind.trans {left middle right : Json} (first : SameKind left middle)
    (second : SameKind middle right) : SameKind left right := by
  rcases first with ⟨text, between, isText, isBetween⟩ | ⟨number, between⟩
  · rcases second with ⟨_, last, _, isLast⟩ | ⟨impossible, _⟩
    · exact .inl ⟨text, last, isText, isLast⟩
    · rw [isBetween] at impossible
      exact absurd rfl impossible
  · rcases second with ⟨other, _, isOther, _⟩ | ⟨_, last⟩
    · rw [isOther] at between
      exact absurd rfl between
    · exact .inr ⟨number, last⟩

theorem Stamped.not_list (documented : Documented runtime clock) {row : ErrorRow}
    (stamped : Stamped runtime clock row) (items : List Json) : row.timestamp ≠ .arr items := by
  intro isList
  obtain ⟨rest, printed⟩ := documented.lists items
  have cell : cellText runtime row.timestamp = codePoint '[' :: rest := by
    rw [isList]
    exact printed
  obtain ⟨instant, parsed⟩ := stamped (by rw [cell]; exact List.cons_ne_nil _ _)
  rw [cell] at parsed
  unfold Clock.parseTime at parsed
  cases read : clock.fromIsoFormat (replaceZ (codePoint '[' :: rest)) with
  | none =>
      rw [read] at parsed
      cases parsed
  | some instant =>
      obtain ⟨first, later, begins, digit⟩ := documented.dates _ _ read
      have bracket : replaceZ (codePoint '[' :: rest) = codePoint '[' :: replaceZ rest := rfl
      rw [bracket] at begins
      rw [← (List.cons.inj begins).1] at digit
      exact absurd digit (by decide)

theorem comparesWithin (documented : Documented runtime clock) {rows : List ErrorRow}
    (stamped : ∀ row ∈ rows, Stamped runtime clock row) :
    ComparesWithin (fun left right : ErrorRow => jsonLess runtime left.timestamp right.timestamp)
      (fun left right => SameKind left.timestamp right.timestamp) rows :=
  { symm := fun _ _ same => same.symm
    trans := fun _ _ _ first second => first.trans second
    compares := fun left member _ _ =>
      jsonLess_returns_iff ((stamped left member).not_list documented) }

/-! ### From lines to rows -/

/-- The texts of the lines sort with the timestamps of k6 only if these are texts. -/
theorem sameKind_text {timestamp : Str} {other : Json} :
    SameKind (.str timestamp) other ↔ ∃ text, other = .str text := by
  constructor
  · rintro (⟨_, text, _, isText⟩ | ⟨number, _⟩)
    · exact ⟨text, isText⟩
    · exact absurd rfl number
  · rintro ⟨text, rfl⟩
    exact .inl ⟨timestamp, text, rfl, rfl⟩

theorem rowsFine_of_analysable (fine : Analysable runtime clock run) :
    RowsFine runtime clock (accounted runtime run) := by
  constructor
  · intro row member
    rcases mem_accounted.mp member with ⟨line, inLines, found⟩ | ⟨line, inLines, found⟩
    · obtain ⟨timestamp, reports, stamp⟩ := row_of_line found
      intro _
      rw [stamp]
      exact fine.datedLines line inLines timestamp reports
    · obtain ⟨payload, reports, stamp⟩ := message_of_row found
      unfold Stamped
      rw [stamp]
      exact fine.datedMessages line inLines payload reports
  · refine List.pairwise_append.mpr ⟨?_, ?_, ?_⟩
    · refine List.pairwise_of_forall_mem_list ?_
      intro left atLeft right atRight
      obtain ⟨_, _, foundLeft⟩ := List.mem_filterMap.mp atLeft
      obtain ⟨_, _, foundRight⟩ := List.mem_filterMap.mp atRight
      obtain ⟨first, _, isFirst⟩ := row_of_line foundLeft
      obtain ⟨second, _, isSecond⟩ := row_of_line foundRight
      exact .inl ⟨first, second, isFirst, isSecond⟩
    · rw [List.pairwise_filterMap]
      refine fine.comparable.imp ?_
      intro left right same first atFirst second atSecond
      obtain ⟨payload, reports, stamp⟩ := message_of_row atFirst
      obtain ⟨other, reportsOther, stampOther⟩ := message_of_row atSecond
      rw [stamp, stampOther]
      exact same payload other reports reportsOther
    · intro left atLeft right atRight
      obtain ⟨line, inLines, found⟩ := List.mem_filterMap.mp atLeft
      obtain ⟨message, inMessages, foundMessage⟩ := List.mem_filterMap.mp atRight
      obtain ⟨timestamp, reports, stamp⟩ := row_of_line found
      obtain ⟨payload, reportsMessage, stampMessage⟩ := message_of_row foundMessage
      rw [stamp, stampMessage, sameKind_text]
      exact fine.textual line inLines timestamp reports message inMessages payload reportsMessage
  · intro row member
    rcases mem_accounted.mp member with ⟨line, inLines, found⟩ | ⟨line, inLines, found⟩
    · exact (encodable_line_iff inLines found).mpr (fine.writtenLines line inLines)
    · obtain ⟨payload, reports, _⟩ := message_of_row found
      obtain ⟨other, same, _, written⟩ := accountedMessage_reports reports
      rw [found] at same
      cases same
      exact written.mpr (fine.writtenMessages line inLines payload reports)

theorem analysable_of_rowsFine (lines : ∀ line ∈ run.logLines, LineFine runtime line)
    (messages : ∀ line ∈ run.k6Lines, MessageFine runtime line)
    (fine : RowsFine runtime clock (accounted runtime run)) : Analysable runtime clock run := by
  obtain ⟨_, ofMessages, between⟩ := List.pairwise_append.mp fine.sortable
  refine ⟨lines, messages, ?_, ?_, ?_, ?_, ?_, ?_⟩
  · intro line member timestamp reports
    obtain ⟨row, found, stamp⟩ := accountedLine_reports reports
    have stamped := fine.stamped row (mem_accounted.mpr (.inl ⟨line, member, found⟩))
    unfold Stamped at stamped
    rw [stamp] at stamped
    -- the first word of a line is never blank
    have present : timestamp ≠ [] := by
      have word {payloadText : Str}
          (matched : matchTimestamp line.line = some (timestamp, payloadText)) :
          timestamp ≠ [] := by
        unfold matchTimestamp at matched
        dsimp only at matched
        split at matched
        · cases matched
        · rename_i filled
          rw [← (Prod.mk.inj (Option.some.inj matched)).1]
          exact fun blank => filled (.inl blank)
      rcases reports with ⟨_, matched, _⟩ | ⟨_, _, matched, _⟩ <;> exact word matched
    exact stamped present
  · intro line member payload reports
    obtain ⟨row, found, stamp, _⟩ := accountedMessage_reports reports
    have stamped := fine.stamped row (mem_accounted.mpr (.inr ⟨line, member, found⟩))
    unfold Stamped at stamped
    rw [stamp] at stamped
    exact stamped
  · intro line member timestamp reports message inMessages payload reportsMessage
    obtain ⟨row, found, stamp⟩ := accountedLine_reports reports
    obtain ⟨other, foundOther, stampOther, _⟩ := accountedMessage_reports reportsMessage
    have same := between row (List.mem_filterMap.mpr ⟨line, member, found⟩) other
      (List.mem_filterMap.mpr ⟨message, inMessages, foundOther⟩)
    rw [stamp, stampOther, sameKind_text] at same
    exact same
  · rw [List.pairwise_filterMap] at ofMessages
    refine ofMessages.imp ?_
    intro left right same first second reports reportsOther
    obtain ⟨row, found, stamp, _⟩ := accountedMessage_reports reports
    obtain ⟨other, foundOther, stampOther, _⟩ := accountedMessage_reports reportsOther
    rw [← stamp, ← stampOther]
    exact same row found other foundOther
  · intro line member timestamp payload object
    obtain ⟨row, found, _⟩ := accountedLine_object object
    have written := fine.encodable row (mem_accounted.mpr (.inl ⟨line, member, found⟩))
    exact (encodable_line_iff member found).mp written timestamp payload object
  · intro line member payload reports
    obtain ⟨row, found, _, written⟩ := accountedMessage_reports reports
    exact written.mp (fine.encodable row (mem_accounted.mpr (.inr ⟨line, member, found⟩)))

theorem errors_of_analysable (documented : Documented runtime clock)
    (fine : Analysable runtime clock run) :
    ∃ rows, generateErrorTimeline runtime run = .ok rows ∧ rows.Perm (accounted runtime run) ∧
      ∀ row ∈ rows, Stamped runtime clock row := by
  have rowsFine := rowsFine_of_analysable fine
  obtain ⟨sorted, sorts⟩ :=
    (raisingSort_returns_iff (comparesWithin documented rowsFine.stamped)).mpr rowsFine.sortable
  have permuted := raisingSort_perm sorts
  have encodes : sorted.all (ErrorRow.encodable runtime) = true :=
    List.all_eq_true.mpr fun row member => rowsFine.encodable row (permuted.mem_iff.mp member)
  refine ⟨sorted, ?_, permuted,
    fun row member => rowsFine.stamped row (permuted.mem_iff.mp member)⟩
  rw [generateErrorTimeline_fine fine.lines fine.messages, sorts]
  simp only [bind, Except.bind, encodes, if_true]

theorem analysable_of_errors (documented : Documented runtime clock) {rows : List ErrorRow}
    (returned : generateErrorTimeline runtime run = .ok rows)
    (permuted : rows.Perm (accounted runtime run))
    (stampedRows : ∀ row ∈ rows, Stamped runtime clock row) : Analysable runtime clock run := by
  obtain ⟨lines, messages⟩ := lines_fine_of_ok returned
  have stamped : ∀ row ∈ accounted runtime run, Stamped runtime clock row :=
    fun row member => stampedRows row (permuted.mem_iff.mpr member)
  rw [generateErrorTimeline_fine lines messages] at returned
  obtain ⟨sorted, sorts, written⟩ := bind_ok_iff.mp returned
  refine analysable_of_rowsFine lines messages ⟨stamped, ?_, ?_⟩
  · exact (raisingSort_returns_iff (comparesWithin documented stamped)).mp ⟨sorted, sorts⟩
  · intro row member
    by_cases encodes : sorted.all (ErrorRow.encodable runtime) = true
    · exact List.all_eq_true.mp encodes row ((raisingSort_perm sorts).mem_iff.mpr member)
    · rw [if_neg encodes] at written
      cases written

/-! ### The throughput timeline -/

theorem throughput_of_analysable (timed : Timed runtime clock run)
    (fine : ∀ line ∈ run.logLines, LineFine runtime line) :
    generateThroughputTimeline runtime clock run =
      .ok ((sortFields (completedPerSecond clock (finishedSeconds runtime clock run))).map
        (fun entry => ⟨entry.1, entry.2⟩)) := by
  have atLines : run.logLines.mapM (finishedSecond runtime clock) =
      .ok (run.logLines.map (lineSecond runtime clock)) :=
    mapM_eq_map fun line member =>
      finishedSecond_eq (fine line member) (timed.parsed line member)
  unfold generateThroughputTimeline finishedSeconds
  rw [atLines]
  simp only [bind, Except.bind, List.filterMap_map, Function.id_comp]
  rfl

theorem length_finishedSeconds (timed : Timed runtime clock run) :
    (finishedSeconds runtime clock run).length = run.logLines.countP (finishedLine runtime) := by
  unfold finishedSeconds
  rw [List.length_filterMap_eq_countP]
  apply List.countP_congr
  intro line member
  constructor
  · intro counted
    by_contra other
    unfold lineSecond at counted
    rw [if_neg other] at counted
    cases counted
  · exact timed.parsed line member

/-- The groups of the seconds in the order in which they are written. -/
def sortedGroups (clock : Clock) (seconds : List Int) : List (Str × List Int) :=
  sortFields (groupBy clock.isoFormat seconds)

theorem sortFields_completedPerSecond (seconds : List Int) :
    sortFields (completedPerSecond clock seconds) =
      (sortedGroups clock seconds).map (fun group => (group.1, group.2.length)) :=
  sortFields_map List.length (groupBy clock.isoFormat seconds)

theorem mem_sortedGroups {seconds : List Int} {group : Str × List Int} :
    group ∈ sortedGroups clock seconds ↔
      group.2 = seconds.filter (fun second => clock.isoFormat second = group.1) ∧ group.2 ≠ [] :=
  ((sortFields_perm _).mem_iff).trans mem_groupBy

theorem sortedGroups_sorted (seconds : List Int) :
    (sortedGroups clock seconds).Pairwise (fun left right =>
      Str.le left.1 right.1 = true ∧ left.1 ≠ right.1) := by
  have distinct : ((sortedGroups clock seconds).map Prod.fst).Nodup :=
    ((sortFields_perm _).map Prod.fst).nodup_iff.mpr (groupBy_distinct clock.isoFormat seconds)
  exact (sortFields_sorted _).and (List.pairwise_map.mp distinct)

/-- Texts that sort in the order of time are different for different seconds. -/
theorem isoFormat_injective {seconds : List Int}
    (chronological : ∀ left ∈ seconds, ∀ right ∈ seconds,
      Str.le (clock.isoFormat left) (clock.isoFormat right) = true → left ≤ right)
    {left right : Int} (leftIn : left ∈ seconds) (rightIn : right ∈ seconds)
    (texts : clock.isoFormat left = clock.isoFormat right) : left = right := by
  have reflexive : Str.le (clock.isoFormat right) (clock.isoFormat right) = true :=
    (Str.le_total _ _).elim id id
  exact le_antisymm (chronological left leftIn right rightIn (texts ▸ reflexive))
    (chronological right rightIn left leftIn (texts ▸ reflexive))

theorem sortedGroups_second {seconds : List Int}
    (chronological : ∀ left ∈ seconds, ∀ right ∈ seconds,
      Str.le (clock.isoFormat left) (clock.isoFormat right) = true → left ≤ right)
    {group : Str × List Int} (member : group ∈ sortedGroups clock seconds) :
    ∃ second ∈ seconds, group.2.head? = some second ∧ group.1 = clock.isoFormat second ∧
      group.2.length = seconds.count second := by
  obtain ⟨isFilter, nonempty⟩ := mem_sortedGroups.mp member
  obtain ⟨second, rest, split⟩ := List.exists_cons_of_ne_nil nonempty
  have first : second ∈ seconds.filter (fun second => clock.isoFormat second = group.1) := by
    rw [← isFilter, split]
    exact List.mem_cons_self
  obtain ⟨inSeconds, printed⟩ := List.mem_filter.mp first
  have printed := of_decide_eq_true printed
  refine ⟨second, inSeconds, by rw [split]; rfl, printed.symm, ?_⟩
  rw [isFilter, List.count_eq_length_filter]
  congr 1
  apply List.filter_congr
  intro other otherIn
  rw [← printed]
  by_cases same : other = second
  · rw [same]
    simp
  · have apart : clock.isoFormat other ≠ clock.isoFormat second := fun texts =>
      same (isoFormat_injective chronological otherIn inSeconds texts)
    rw [decide_eq_false apart, beq_false_of_ne same]

/-- One row for each second, in the order of time. -/
theorem sortFields_completedPerSecond_rows {seconds : List Int}
    (chronological : ∀ left ∈ seconds, ∀ right ∈ seconds,
      Str.le (clock.isoFormat left) (clock.isoFormat right) = true → left ≤ right) :
    ∃ distinct : List Int, distinct.Pairwise (fun left right => left < right) ∧
      (∀ second, second ∈ distinct ↔ second ∈ seconds) ∧
      (sortFields (completedPerSecond clock seconds)).map
          (fun entry => (⟨entry.1, entry.2⟩ : ThroughputRow)) =
        distinct.map (fun second => ⟨clock.isoFormat second, seconds.count second⟩) := by
  have secondOf {group : Str × List Int} (member : group ∈ sortedGroups clock seconds) :=
    sortedGroups_second chronological member
  refine ⟨(sortedGroups clock seconds).map (fun group => group.2.headD 0), ?_, ?_, ?_⟩
  · rw [List.pairwise_map]
    refine (sortedGroups_sorted seconds).imp_of_mem ?_
    intro left right atLeft atRight ⟨ordered, apart⟩
    obtain ⟨first, firstIn, isFirst, firstText, _⟩ := secondOf atLeft
    obtain ⟨second, secondIn, isSecond, secondText, _⟩ := secondOf atRight
    rw [List.headD_eq_head?_getD, List.headD_eq_head?_getD, isFirst, isSecond, Option.getD_some,
      Option.getD_some]
    rw [firstText, secondText] at ordered apart
    refine lt_of_le_of_ne (chronological first firstIn second secondIn ordered) ?_
    rintro rfl
    exact apart rfl
  · intro second
    rw [List.mem_map]
    constructor
    · rintro ⟨group, member, rfl⟩
      obtain ⟨first, firstIn, isFirst, _⟩ := secondOf member
      rw [List.headD_eq_head?_getD, isFirst]
      exact firstIn
    · intro secondIn
      have printed : second ∈ seconds.filter (fun other =>
          clock.isoFormat other = clock.isoFormat second) :=
        List.mem_filter.mpr ⟨secondIn, decide_eq_true rfl⟩
      have member : (clock.isoFormat second, seconds.filter (fun other =>
          clock.isoFormat other = clock.isoFormat second)) ∈ sortedGroups clock seconds :=
        mem_sortedGroups.mpr ⟨rfl, List.ne_nil_of_mem printed⟩
      obtain ⟨first, firstIn, isFirst, texts, _⟩ := secondOf member
      refine ⟨_, member, ?_⟩
      rw [List.headD_eq_head?_getD, isFirst, Option.getD_some]
      exact isoFormat_injective chronological firstIn secondIn texts.symm
  · rw [sortFields_completedPerSecond, List.map_map, List.map_map]
    apply List.map_congr_left
    intro group member
    obtain ⟨second, _, isFirst, text, counted⟩ := secondOf member
    simp only [Function.comp_apply, List.headD_eq_head?_getD, isFirst, Option.getD_some, ← text,
      counted]

theorem sum_completedPerSecond (seconds : List Int) :
    (((sortFields (completedPerSecond clock seconds)).map
      (fun entry => (⟨entry.1, entry.2⟩ : ThroughputRow))).map ThroughputRow.completedJobs).sum =
        seconds.length := by
  rw [List.map_map, ((sortFields_perm _).map _).sum_eq]
  unfold completedPerSecond
  rw [List.map_map]
  exact sum_length_groupBy clock.isoFormat seconds

end Lines

/-! ### Two runs -/

/-- Python on the texts of the runs below. -/
def logRuntime : LogRuntime :=
  { decoder := { recursionLimit := 10, floatOfStr := fun _ => .finite 0 }
    characterNames := fun _ => none
    containerText := fun _ => str "[]"
    floatRepr := fun _ => str "0.0"
    listLess := fun _ _ => .ok false }

theorem newYear_inRange (half : Fin 4) :
    -62135596800000000 ≤ 1767225600000000 + (half.val : Int) * 500000 ∧
      1767225600000000 + (half.val : Int) * 500000 < 253402300800000000 := by
  omega

/-- The first two seconds of 2026, in half seconds. -/
def newYear (half : Fin 4) : DateTime :=
  { wall := 1767225600000000 + (half.val : Int) * 500000
    offset := some 0
    inRange := newYear_inRange half
    withinDay := DateTime.withinDay_utc }

def logClock : Clock :=
  { fromIsoFormat := fun text =>
      if text = str "2026-01-01T00:00:00.5+00:00" then some (newYear 1)
      else if text = str "2026-01-01T00:00:01+00:00" then some (newYear 2)
      else none
    isoFormat := fun instant =>
      if instant = 1767225600000000 then str "2026-01-01T00:00:00+00:00"
      else if instant = 1767225601000000 then str "2026-01-01T00:00:01+00:00"
      else []
    localOffset := fun _ => 0
    lower := fun text => text
    floatOfStr := fun _ => none }

/-- The log of one container, and nothing of k6. -/
def oneLog (text : Str) (decoded : encodable text = true) : RunLogs :=
  { logFiles := [⟨none, str "api", ⟨text, decoded⟩, by decide⟩]
    k6Stdout := none }

def numberLogged : RunLogs := oneLog (str "2026-01-01T00:00:01Z 42\n") (by decide)

def raisesAttributeError {α : Type} : Except LogError α → Bool
  | .error .attributeError => true
  | _ => false

theorem eq_attributeError {α : Type} {result : Except LogError α}
    (raises : raisesAttributeError result = true) : result = .error .attributeError := by
  unfold raisesAttributeError at raises
  split at raises
  · rfl
  · cases raises

/-- A line with an event. -/
def eventLine (timestamp event : String) : Str :=
  str timestamp ++ (str " \x7b\"event\": \"" ++ (str event ++ str "\"\x7d\n"))

/-- Two jobs are finished and one fails; a line is no JSON, and k6 reports the
failed job. -/
def mixedLogs : RunLogs :=
  { logFiles :=
      [⟨some (str "worker-1"), str "worker",
        ⟨eventLine "2026-01-01T00:00:01Z" "job_finished" ++
          (eventLine "2026-01-01T00:00:00.5Z" "job_finished" ++
            (eventLine "2026-01-01T00:00:01Z" "job_failed" ++ str "worker started\n")),
          by decide +kernel⟩, by decide⟩]
    k6Stdout := some
      ⟨str "msg=\"\x7b\\\"timestamp\\\":" ++ (str "\\\"2026-01-01T00:00:01Z\\\"" ++
        (str ",\\\"source\\\":\\\"k6\\\"," ++ str "\\\"event\\\":\\\"job_failed\\\"\x7d\"\n")),
        by decide +kernel⟩ }

theorem logClock_documented : Documented logRuntime logClock := by
  refine ⟨fun _ => ⟨_, rfl⟩, ?_⟩
  intro text instant parsed
  change (if text = _ then _ else _) = _ at parsed
  split at parsed
  · rename_i same
    exact ⟨_, _, same, by decide⟩
  · split at parsed
    · rename_i same
      exact ⟨_, _, same, by decide⟩
    · cases parsed

theorem mixedLogs_timed : Timed logRuntime logClock mixedLogs := by
  constructor <;> decide +kernel

/-- The timestamp is a text that can be parsed, and the row can be written. -/
def textStamped (row : ErrorRow) : Bool :=
  match row.timestamp with
  | .str text => (logClock.parseTime text).isOk && row.encodable logRuntime
  | _ => false

theorem textStamped_cases {row : ErrorRow} (stamped : textStamped row = true) :
    ∃ text, row.timestamp = .str text ∧ (∃ instant, logClock.parseTime text = .ok instant) ∧
      row.encodable logRuntime = true := by
  unfold textStamped at stamped
  cases given : row.timestamp with
  | str text =>
      rw [given] at stamped
      obtain ⟨parsed, encodes⟩ := Bool.and_eq_true_iff.mp stamped
      exact ⟨text, rfl, exists_ok_of_isOk parsed, encodes⟩
  | null | bool | int | float | arr | obj =>
      rw [given] at stamped
      cases stamped

theorem mixedLogs_analysable : Analysable logRuntime logClock mixedLogs := by
  have lines : mixedLogs.logLines.all (fun line => (errorRow logRuntime line).isOk) = true := by
    decide +kernel
  have messages : mixedLogs.k6Lines.all (fun line => (k6Row logRuntime line).isOk) = true := by
    decide +kernel
  have rows : (accounted logRuntime mixedLogs).all textStamped = true := by decide +kernel
  have stamped {row : ErrorRow} (member : row ∈ accounted logRuntime mixedLogs) :=
    textStamped_cases (List.all_eq_true.mp rows row member)
  refine analysable_of_rowsFine ?_ ?_ ⟨?_, ?_, ?_⟩
  · intro line member
    exact lineFine_of_ok (exists_ok_of_isOk (List.all_eq_true.mp lines line member)).choose_spec
  · intro line member
    exact messageFine_of_ok
      (exists_ok_of_isOk (List.all_eq_true.mp messages line member)).choose_spec
  · intro row member _
    obtain ⟨text, given, parsed, _⟩ := stamped member
    rw [given]
    exact parsed
  · refine List.pairwise_of_forall_mem_list ?_
    intro left atLeft right atRight
    obtain ⟨first, isFirst, _⟩ := stamped atLeft
    obtain ⟨second, isSecond, _⟩ := stamped atRight
    exact .inl ⟨first, second, isFirst, isSecond⟩
  · intro row member
    obtain ⟨_, _, _, encodes⟩ := stamped member
    exact encodes

end ImagePipeline.Properties.LogAnalysis
