/-
Samples without lengths. A monitor that does not reach Redis writes blanks, and
the analyses read a blank as zero, so such a row ends a backlog that is open
where it stands.
-/

import ImagePipeline.Properties.DrainReport

namespace ImagePipeline.Properties.BlankSamples

open Common Benchmark
open Library (Traced Backlog)
open LoadEnd (lengthRuntime minuteClock)
open DrainReport (minuteStart minuteLoad minute_ends queueDrained_iff)

structure Entry where
  row : QueueRow
  inserted : Bool

section Definitions

variable (runtime : Runtime) (clock : Clock) (fields : List Str) (stop : Int)
  (merged : List Entry)

def allRows : List QueueRow := merged.map Entry.row

/-- The file without the inserted rows. -/
def originalRows : List QueueRow := (merged.filter (fun entry => !entry.inserted)).map Entry.row

/-- Both lengths of the row are blank or missing. -/
def Blank (row : QueueRow) : Prop :=
  ∀ field ∈ queueFields, isMissing (row.columns.lookup field) = true

def lateEntries : List Entry :=
  ((sortFields (merged.map (fun entry => (entry.row.timestamp, entry)))).map Prod.snd).filter
    (fun entry => entry.row.late clock stop)

/-- No row is inserted where a backlog is open, or the backlog ends at the same
hundredth of a second without it. -/
def NoneWhileOpen : Prop :=
  ∀ before entry after, lateEntries clock stop merged = before ++ entry :: after →
    entry.inserted = true →
      Backlog.IsOpen (fun entry => entry.row.busy runtime fields) before →
        ∃ row, Backlog.Clears (QueueRow.busy runtime fields)
            (lateRows clock stop (originalRows merged)) row ∧
          roundedSeconds (row.instant clock - stop) =
            roundedSeconds (entry.row.instant clock - stop)

/-- The inserted rows change no drain time and not the flag. -/
structure Unchanged (runStartedAt duration : Option Str) : Prop where
  calculated : ∀ fields, (∀ field ∈ fields, field ∈ queueFields) →
    (calculateDrainSeconds runtime clock (allRows merged) fields runStartedAt duration []).1 =
      (calculateDrainSeconds runtime clock (originalRows merged) fields runStartedAt
        duration []).1
  summarized :
    (summarizeQueueDrain runtime clock (allRows merged) runStartedAt duration []).1.map
        (fun summary => summary.map (fun found => (found.queueDrainSeconds, found.queueDrained))) =
      (summarizeQueueDrain runtime clock (originalRows merged) runStartedAt duration []).1.map
        (fun summary => summary.map (fun found => (found.queueDrainSeconds, found.queueDrained)))

end Definitions

variable {runtime : Runtime} {clock : Clock} {aware : Bool} {fields : List Str}
  {stop : Int} {merged : List Entry}

theorem lateRows_allRows :
    lateRows clock stop (allRows merged) = (lateEntries clock stop merged).map Entry.row := by
  have sorted : sortRows (allRows merged) =
      ((sortFields (merged.map (fun entry => (entry.row.timestamp, entry)))).map Prod.snd).map
        Entry.row := by
    have read := sortFields_map Entry.row
      (merged.map (fun entry => (entry.row.timestamp, entry)))
    rw [List.map_map] at read
    rw [sortRows, allRows, List.map_map]
    exact (congrArg (List.map Prod.snd) read).trans (by rw [List.map_map, List.map_map]; rfl)
  rw [lateRows, sorted, List.filter_map]
  rfl

/-- The sort is stable, so that the others stand in their own order. -/
theorem lateEntries_filter :
    lateEntries clock stop (merged.filter (fun entry => !entry.inserted)) =
      (lateEntries clock stop merged).filter (fun entry => !entry.inserted) := by
  have sorted := sortFields_filter (fun field => !field.2.inserted)
    (merged.map (fun entry => (entry.row.timestamp, entry)))
  have keyed := List.filter_map (f := fun entry : Entry => (entry.row.timestamp, entry))
    (p := fun field => !field.2.inserted) (l := merged)
  rw [keyed] at sorted
  calc lateEntries clock stop (merged.filter (fun entry => !entry.inserted))
      = (((sortFields (merged.map (fun entry => (entry.row.timestamp, entry)))).filter
          (fun field => !field.2.inserted)).map Prod.snd).filter
            (fun entry => entry.row.late clock stop) := by
        rw [sorted]
        rfl
    _ = (((sortFields (merged.map (fun entry => (entry.row.timestamp, entry)))).map
          Prod.snd).filter (fun entry => !entry.inserted)).filter
            (fun entry => entry.row.late clock stop) := by
        rw [List.filter_map (f := Prod.snd) (p := fun entry : Entry => !entry.inserted)]
        rfl
    _ = (lateEntries clock stop merged).filter (fun entry => !entry.inserted) :=
        List.filter_comm _ _ _

theorem lateRows_originalRows :
    lateRows clock stop (originalRows merged) =
      ((lateEntries clock stop merged).filter (fun entry => !entry.inserted)).map Entry.row := by
  rw [← lateEntries_filter]
  exact lateRows_allRows

theorem mem_lateEntries {entry : Entry} (member : entry ∈ lateEntries clock stop merged) :
    entry ∈ merged := by
  obtain ⟨field, known, rfl⟩ := List.mem_map.mp (List.mem_filter.mp member).1
  obtain ⟨other, present, rfl⟩ := List.mem_map.mp ((sortFields_perm _).mem_iff.mp known)
  exact present

theorem Blank.queueLength_eq {row : QueueRow} (blank : Blank row) {field : Str}
    (member : field ∈ queueFields) : Benchmark.queueLength runtime row field = .ok 0 := by
  have missing := blank field member
  unfold Benchmark.queueLength
  cases found : row.columns.lookup field with
  | none => rfl
  | some text =>
      rw [found] at missing
      obtain rfl : text = [] := of_decide_eq_true missing
      rfl

theorem Blank.idle {row : QueueRow} (blank : Blank row)
    (reads : row.Reads runtime clock aware fields) (among : ∀ field ∈ fields, field ∈ queueFields) :
    row.length runtime fields = 0 :=
  reads.counted.all_zero.mpr (fun field member => blank.queueLength_eq (among field member))

section Watches

variable (reads : ∀ entry ∈ merged, entry.row.Reads runtime clock aware queueFields)
  (blank : ∀ entry ∈ merged, entry.inserted = true → Blank entry.row)
  (among : ∀ field ∈ fields, field ∈ queueFields)

theorem watchRows_allRows :
    watchRows runtime clock fields stop (allRows merged) =
      (Backlog.watch (fun entry => entry.row.busy runtime fields)
        (lateEntries clock stop merged)).map Entry.row := by
  rw [watchRows, lateRows_allRows, Backlog.watch_map]

theorem watchRows_originalRows :
    watchRows runtime clock fields stop (originalRows merged) =
      (Backlog.watch (fun entry => entry.row.busy runtime fields)
        ((lateEntries clock stop merged).filter (fun entry => !entry.inserted))).map Entry.row := by
  rw [watchRows, lateRows_originalRows, Backlog.watch_map]

include reads blank among

theorem inserted_idle {entry : Entry} (member : entry ∈ lateEntries clock stop merged)
    (inserted : entry.inserted = true) : entry.row.busy runtime fields = false := by
  have known := mem_lateEntries member
  have atRow := (reads entry known).mono among
  exact atRow.counted.length_eq_zero.mp ((blank entry known inserted).idle atRow among)

/-- A row inserted where a backlog is open ends it. -/
theorem watchRows_inserted {before after : List Entry} {entry : Entry}
    (split : lateEntries clock stop merged = before ++ entry :: after)
    (inserted : entry.inserted = true)
    (isOpen : Backlog.IsOpen (fun entry => entry.row.busy runtime fields) before) :
    watchRows runtime clock fields stop (allRows merged) = .cleared entry.row := by
  have idle := inserted_idle reads blank among (by rw [split]; simp) inserted
  rw [watchRows_allRows, split, Backlog.watch_of_clears isOpen idle]
  rfl

/-- Unless the rows stand where a backlog is open, they leave the report alone. -/
theorem watchRows_cases (stop : Int) :
    (∃ before entry after, lateEntries clock stop merged = before ++ entry :: after ∧
      Backlog.IsOpen (fun entry => entry.row.busy runtime fields) before ∧
      entry.inserted = true) ∨
    watchRows runtime clock fields stop (originalRows merged) =
      watchRows runtime clock fields stop (allRows merged) := by
  rcases Backlog.watch_filter (fun entry => entry.row.busy runtime fields)
      (lateEntries clock stop merged) (fun entry => !entry.inserted)
      (fun entry member added => inserted_idle reads blank among member (by simpa using added))
    with ⟨before, entry, after, split, isOpen, added⟩ | same
  · exact .inl ⟨before, entry, after, split, isOpen, by simpa using added⟩
  · right
    rw [watchRows_originalRows, same, watchRows_allRows]

theorem drainSeconds_eq_iff :
    drainSeconds clock stop (watchRows runtime clock fields stop (allRows merged)) =
      drainSeconds clock stop (watchRows runtime clock fields stop (originalRows merged)) ↔
    NoneWhileOpen runtime clock fields stop merged := by
  constructor
  · intro same before entry after split inserted isOpen
    rw [watchRows_inserted reads blank among split inserted isOpen] at same
    cases report : watchRows runtime clock fields stop (originalRows merged) with
    | never =>
        -- what is busy in front of the row is an original one
        obtain ⟨loudEntry, member, loud⟩ := isOpen.exists_busy
        have known : loudEntry ∈ lateEntries clock stop merged := by
          rw [split]
          exact List.mem_append_left _ member
        have original : loudEntry.inserted = false := by
          by_contra inserted
          rw [inserted_idle reads blank among known (by simpa using inserted)] at loud
          cases loud
        have kept : loudEntry.row ∈ lateRows clock stop (originalRows merged) := by
          rw [lateRows_originalRows]
          exact List.mem_map_of_mem (List.mem_filter.mpr ⟨known, by simp [original]⟩)
        rw [Backlog.watch_eq_never.mp report _ kept] at loud
        cases loud
    | pending =>
        rw [report] at same
        cases same
    | cleared row =>
        rw [report] at same
        exact ⟨row, Backlog.watch_eq_cleared.mp report, (Option.some.inj same).symm⟩
  · intro noneWhileOpen
    rcases watchRows_cases reads blank among stop with
      ⟨before, entry, after, split, isOpen, inserted⟩ | same
    · obtain ⟨row, clears, rounded⟩ := noneWhileOpen before entry after split inserted isOpen
      have report : watchRows runtime clock fields stop (originalRows merged) = .cleared row :=
        Backlog.watch_eq_cleared.mpr clears
      rw [watchRows_inserted reads blank among split inserted isOpen, report, drainSeconds,
        drainSeconds, rounded]
    · rw [same]

theorem NoneWhileOpen.cleared_iff (noneWhileOpen : NoneWhileOpen runtime clock fields stop merged) :
    (∃ row, watchRows runtime clock fields stop (allRows merged) = .cleared row) ↔
      ∃ row, watchRows runtime clock fields stop (originalRows merged) = .cleared row := by
  rcases watchRows_cases reads blank among stop with
    ⟨before, entry, after, split, isOpen, inserted⟩ | same
  · obtain ⟨row, clears, _⟩ := noneWhileOpen before entry after split inserted isOpen
    exact iff_of_true ⟨_, watchRows_inserted reads blank among split inserted isOpen⟩
      ⟨row, Backlog.watch_eq_cleared.mpr clears⟩
  · rw [same]

end Watches

section Rows

variable {property : QueueRow → Prop}

theorem forall_allRows (holds : ∀ entry ∈ merged, property entry.row) :
    ∀ row ∈ allRows merged, property row := by
  intro row member
  obtain ⟨entry, known, rfl⟩ := List.mem_map.mp member
  exact holds entry known

theorem originalRows_subset {row : QueueRow} (member : row ∈ originalRows merged) :
    row ∈ allRows merged := by
  obtain ⟨entry, known, rfl⟩ := List.mem_map.mp member
  exact List.mem_map_of_mem (List.mem_filter.mp known).1

theorem all_empty_iff (reads : ∀ entry ∈ merged, entry.row.Reads runtime clock aware queueFields)
    (blank : ∀ entry ∈ merged, entry.inserted = true → Blank entry.row) :
    (∀ row ∈ allRows merged, row.length runtime queueFields = 0) ↔
      ∀ row ∈ originalRows merged, row.length runtime queueFields = 0 := by
  constructor
  · intro empty row member
    exact empty row (originalRows_subset member)
  · intro empty
    apply forall_allRows
    intro entry member
    cases inserted : entry.inserted with
    | true => exact (blank entry member inserted).idle (reads entry member) (fun _ => id)
    | false =>
        exact empty entry.row
          (List.mem_map_of_mem (List.mem_filter.mpr ⟨member, by simp [inserted]⟩))

end Rows

/-- Rows with blanks leave drain times and flag alone exactly if none of them
stands where a backlog is open. -/
theorem blank_rows_ignored_iff (some : originalRows merged ≠ [])
    (reads : ∀ entry ∈ merged, entry.row.Reads runtime clock aware queueFields)
    (blank : ∀ entry ∈ merged, entry.inserted = true → Blank entry.row)
    (runStartedAt duration : Option Str) :
    Unchanged runtime clock merged runStartedAt duration ↔
      ∀ stop, Ends clock aware runStartedAt duration stop →
        ∀ fields, (∀ field ∈ fields, field ∈ queueFields) →
          NoneWhileOpen runtime clock fields stop merged := by
  have someAll : allRows merged ≠ [] := by
    obtain ⟨row, member⟩ := List.exists_mem_of_ne_nil _ some
    exact List.ne_nil_of_mem (originalRows_subset member)
  have readsAll := forall_allRows reads
  have readsOriginal (row : QueueRow) (member : row ∈ originalRows merged) :=
    readsAll row (originalRows_subset member)
  constructor
  · intro unchanged stop ends fields among
    have same := unchanged.calculated fields among
    rw [calculateDrainSeconds_eq someAll ends (fun row member => (readsAll row member).mono among),
      calculateDrainSeconds_eq some ends
        (fun row member => (readsOriginal row member).mono among)] at same
    exact (drainSeconds_eq_iff reads blank among).mp (Except.ok.inj same)
  · intro noneWhileOpen
    by_cases ended : ∃ stop, Ends clock aware runStartedAt duration stop
    · obtain ⟨stop, ends⟩ := ended
      constructor
      · intro fields among
        rw [calculateDrainSeconds_eq someAll ends
            (fun row member => (readsAll row member).mono among),
          calculateDrainSeconds_eq some ends
            (fun row member => (readsOriginal row member).mono among)]
        exact congrArg Except.ok
          ((drainSeconds_eq_iff reads blank among).mpr (noneWhileOpen stop ends fields among))
      · have none := noneWhileOpen stop ends queueFields (fun _ => id)
        have seconds := (drainSeconds_eq_iff reads blank (fun _ => id)).mpr none
        have drained : (queueSummary runtime clock stop (allRows merged)).queueDrained =
            (queueSummary runtime clock stop (originalRows merged)).queueDrained := by
          rw [Bool.eq_iff_iff, queueDrained_iff readsAll, queueDrained_iff readsOriginal,
            none.cleared_iff reads blank (fun _ => id), all_empty_iff reads blank]
        rw [summarizeQueueDrain_eq someAll ends readsAll,
          summarizeQueueDrain_eq some ends readsOriginal]
        simp only [Except.map, Option.map_some, drained]
        rw [show (queueSummary runtime clock stop (allRows merged)).queueDrainSeconds =
          (queueSummary runtime clock stop (originalRows merged)).queueDrainSeconds from seconds]
    · push Not at ended
      constructor
      · intro fields among
        rw [calculateDrainSeconds_endless someAll ended
            (fun row member => (readsAll row member).mono among),
          calculateDrainSeconds_endless some ended
            (fun row member => (readsOriginal row member).mono among)]
      · rw [summarizeQueueDrain_endless someAll ended readsAll,
          summarizeQueueDrain_endless some ended readsOriginal]

/-! ### A worker node without Redis -/

/-- The main node's rows and the one of a worker node that cannot reach Redis,
taken between them. -/
def outageEntries : List Entry :=
  [⟨(⟨60000000, str "main", some (7, 0)⟩ : Sample).row minuteClock, false⟩,
    ⟨(⟨62000000, str "main", some (7, 0)⟩ : Sample).row minuteClock, false⟩,
    ⟨(⟨61000000, str "worker", none⟩ : Sample).row minuteClock, true⟩]

theorem blank_iff_all (row : QueueRow) :
    (queueFields.all (fun field => isMissing (row.columns.lookup field)) = true) ↔ Blank row :=
  List.all_eq_true

instance (row : QueueRow) : Decidable (Blank row) := decidable_of_iff _ (blank_iff_all row)

/-- Seven jobs are waiting all the time, and the row without lengths has them
gone after a second. -/
theorem outage_taken_as_drained :
    (calculateDrainSeconds lengthRuntime minuteClock (originalRows outageEntries) queueFields
      minuteStart minuteLoad []).1 = .ok none ∧
    (calculateDrainSeconds lengthRuntime minuteClock (allRows outageEntries) queueFields
      minuteStart minuteLoad []).1 = .ok (some (.finite 1)) ∧
    (∀ entry ∈ outageEntries, entry.inserted = true → Blank entry.row) ∧
    ¬ Unchanged lengthRuntime minuteClock outageEntries minuteStart minuteLoad := by
  have without : (calculateDrainSeconds lengthRuntime minuteClock (originalRows outageEntries)
      queueFields minuteStart minuteLoad []).1 = .ok none := by decide +kernel
  have inserted : (calculateDrainSeconds lengthRuntime minuteClock (allRows outageEntries)
      queueFields minuteStart minuteLoad []).1 = .ok (some (.finite 1)) := by decide +kernel
  refine ⟨without, inserted, by decide +kernel, fun unchanged => ?_⟩
  have same := unchanged.calculated queueFields (fun _ => id)
  rw [without, inserted] at same
  cases same

/-- The same row, but from before the end of the load. -/
def earlyOutageEntries : List Entry :=
  [⟨(⟨60000000, str "main", some (7, 0)⟩ : Sample).row minuteClock, false⟩,
    ⟨(⟨0, str "worker", none⟩ : Sample).row minuteClock, true⟩]

theorem blank_rows_ignored_iff_early :
    Unchanged lengthRuntime minuteClock earlyOutageEntries minuteStart minuteLoad := by
  have reads : ∀ entry ∈ earlyOutageEntries,
      entry.row.Reads lengthRuntime minuteClock true queueFields := by decide +kernel
  refine (blank_rows_ignored_iff (by decide) reads (by decide +kernel) _ _).mpr ?_
  intro stop ends fields among before entry after split inserted
  obtain rfl := ends.unique minute_ends
  have original : ∀ entry ∈ lateEntries minuteClock 60000000 earlyOutageEntries,
      entry.inserted = false := by decide +kernel
  rw [original entry (by rw [split]; simp)] at inserted
  cases inserted

end ImagePipeline.Properties.BlankSamples
