/-
What `calculate_drain_seconds` returns, against what it is for: how long after
the load the queues were empty for good. The loop takes the samples in the order
of their timestamps as texts and ends at the first empty one after the first
non-empty one, so a backlog that comes back goes unnoticed.
-/

import ImagePipeline.Properties.DrainReport

namespace ImagePipeline.Properties.DrainTime

open Common Benchmark
open Library (Traced Backlog)
open LoadEnd (lengthRuntime minuteClock sampledRows)
open DrainReport (minuteStart minuteLoad minute_ends refillRows healthyRows healthyRows_read
  healthyRows_quiet)

section Definitions

variable (runtime : Runtime) (clock : Clock) (fields : List Str) (stop : Int)
  (rows : List QueueRow)

def lateSamples : List QueueRow := rows.filter (QueueRow.late clock stop)

/-- The instants of late samples from which on all of them are empty. -/
def emptyFrom : Set Int :=
  Backlog.idleFrom (QueueRow.busy runtime fields) (QueueRow.instant clock)
    (lateSamples clock stop rows)

/-- A late sample of the latest instant is not empty. -/
def BusyAtEnd : Prop :=
  Backlog.BusyAtEnd (QueueRow.busy runtime fields) (QueueRow.instant clock)
    (lateSamples clock stop rows)

/-- No time if nothing is there after the load, none if something is left at the
end, else the time until the samples are empty for good. -/
structure DrainedForGood (result : Option PyFloat) : Prop where
  atOnce : result = some (.finite 0) ↔
    ∀ row ∈ lateSamples clock stop rows, row.length runtime fields = 0
  never : result = none ↔ BusyAtEnd runtime clock fields stop rows
  settled : (∃ row ∈ lateSamples clock stop rows, row.length runtime fields ≠ 0) →
    ∀ instant, IsLeast (emptyFrom runtime clock fields stop rows) instant →
      result = some (roundedSeconds (instant - stop))

/-- In the order of the texts, a backlog that is open after the last late sample
is one at the latest instant; and one that ends at a sample does so after a
measurable time, and the samples are empty for good from then on or from the
same hundredth of a second. -/
structure EndsForGood : Prop where
  pending : Backlog.IsOpen (QueueRow.busy runtime fields) (lateRows clock stop rows) →
    BusyAtEnd runtime clock fields stop rows
  cleared : ∀ row, Backlog.Clears (QueueRow.busy runtime fields) (lateRows clock stop rows) row →
    roundedSeconds (row.instant clock - stop) ≠ .finite 0 ∧
      ∃ instant, IsLeast (emptyFrom runtime clock fields stop rows) instant ∧
        roundedSeconds (instant - stop) = roundedSeconds (row.instant clock - stop)

end Definitions

variable {runtime : Runtime} {clock : Clock} {aware : Bool} {fields : List Str} {stop : Int}
  {rows : List QueueRow}

theorem mem_lateSamples {row : QueueRow} :
    row ∈ lateSamples clock stop rows ↔ row ∈ rows ∧ stop ≤ row.instant clock := by
  rw [lateSamples, List.mem_filter, QueueRow.late, decide_eq_true_iff]

section Samples

variable (reads : ∀ row ∈ rows, row.Reads runtime clock aware fields)

include reads

theorem lateSamples_counted {row : QueueRow} (member : row ∈ lateSamples clock stop rows) :
    row.Counted runtime fields := (reads row (mem_lateSamples.mp member).1).counted

/-- The watch has nothing to report if no sample after the load has a length. -/
theorem quiet_iff_never :
    (∀ row ∈ lateSamples clock stop rows, row.length runtime fields = 0) ↔
      watchRows runtime clock fields stop rows = .never := by
  rw [← not_iff_not, ← ne_eq, watchRows_ne_never stop reads]
  push Not
  simp only [mem_lateSamples, and_assoc]

theorem loud_of_report (reported : watchRows runtime clock fields stop rows ≠ .never) :
    ∃ row ∈ lateSamples clock stop rows, row.length runtime fields ≠ 0 := by
  by_contra quiet
  push Not at quiet
  exact reported ((quiet_iff_never reads).mp quiet)

theorem BusyAtEnd.loud (atEnd : BusyAtEnd runtime clock fields stop rows) :
    ∃ row ∈ lateSamples clock stop rows, row.length runtime fields ≠ 0 := by
  obtain ⟨last, member, loud, _⟩ := atEnd
  refine ⟨last, member, fun empty => ?_⟩
  rw [(lateSamples_counted reads member).length_eq_zero.mp empty] at loud
  cases loud

theorem drainedForGood_never (report : watchRows runtime clock fields stop rows = .never) :
    DrainedForGood runtime clock fields stop rows (some (.finite 0)) := by
  have quiet := (quiet_iff_never reads).mpr report
  constructor
  · exact iff_of_true rfl quiet
  · refine iff_of_false (by simp) (fun atEnd => ?_)
    obtain ⟨row, member, loud⟩ := atEnd.loud reads
    exact loud (quiet row member)
  · intro ⟨row, member, loud⟩
    exact absurd (quiet row member) loud

theorem drainedForGood_pending (report : watchRows runtime clock fields stop rows = .pending) :
    DrainedForGood runtime clock fields stop rows none ↔
      BusyAtEnd runtime clock fields stop rows := by
  constructor
  · intro drained
    exact drained.never.mp rfl
  · intro atEnd
    constructor
    · refine iff_of_false (by simp) (fun quiet => ?_)
      rw [(quiet_iff_never reads).mp quiet] at report
      cases report
    · exact iff_of_true rfl atEnd
    · intro _ instant least
      exact absurd least.1 (Backlog.BusyAtEnd.not_mem_idleFrom atEnd instant)

/-- A time is right if it is not rounded to none, and is the one from which on
the samples are empty. -/
theorem drainedForGood_cleared {row : QueueRow}
    (report : watchRows runtime clock fields stop rows = .cleared row) (seconds : PyFloat) :
    DrainedForGood runtime clock fields stop rows (some seconds) ↔
      seconds ≠ .finite 0 ∧
        ∃ instant, IsLeast (emptyFrom runtime clock fields stop rows) instant ∧
          roundedSeconds (instant - stop) = seconds := by
  have loudly : watchRows runtime clock fields stop rows ≠ .never := by
    rw [report]
    simp
  obtain ⟨loudRow, member, loud⟩ := loud_of_report reads loudly
  constructor
  · intro drained
    constructor
    · intro instantly
      exact loud (drained.atOnce.mp (congrArg some instantly) loudRow member)
    · have idle : ¬ BusyAtEnd runtime clock fields stop rows := fun atEnd => by
        cases drained.never.mpr atEnd
      obtain ⟨instant, least⟩ := Backlog.exists_isLeast_idleFrom
        (Backlog.idleFrom_nonempty (List.ne_nil_of_mem member) idle)
      exact ⟨instant, least,
        Option.some.inj (drained.settled ⟨loudRow, member, loud⟩ instant least).symm⟩
  · intro ⟨measurable, instant, least, same⟩
    constructor
    · exact iff_of_false (fun instantly => measurable (Option.some.inj instantly))
        (fun quiet => loud (quiet loudRow member))
    · refine iff_of_false (by simp) (fun atEnd => ?_)
      exact Backlog.BusyAtEnd.not_mem_idleFrom atEnd instant least.1
    · intro _ other leastOther
      rw [leastOther.unique least, same]

theorem drainedForGood_iff :
    DrainedForGood runtime clock fields stop rows
      (drainSeconds clock stop (watchRows runtime clock fields stop rows)) ↔
    EndsForGood runtime clock fields stop rows := by
  cases report : watchRows runtime clock fields stop rows with
  | never =>
      have quiet := Backlog.watch_eq_never.mp report
      refine iff_of_true (drainedForGood_never reads report) ⟨?_, ?_⟩
      · intro isOpen
        rw [show watchRows runtime clock fields stop rows = .pending from isOpen.watch] at report
        cases report
      · intro row clears
        rw [show watchRows runtime clock fields stop rows = .cleared row from
          Backlog.watch_eq_cleared.mpr clears] at report
        cases report
  | pending =>
      rw [drainSeconds, drainedForGood_pending reads report]
      constructor
      · intro atEnd
        refine ⟨fun _ => atEnd, fun row clears => ?_⟩
        rw [show watchRows runtime clock fields stop rows = .cleared row from
          Backlog.watch_eq_cleared.mpr clears] at report
        cases report
      · intro ends
        exact ends.pending (Backlog.watch_eq_pending.mp report)
  | cleared row =>
      rw [drainSeconds, drainedForGood_cleared reads report]
      constructor
      · intro settles
        refine ⟨fun isOpen => ?_, fun other clears => ?_⟩
        · rw [show watchRows runtime clock fields stop rows = .pending from isOpen.watch] at report
          cases report
        · rw [show watchRows runtime clock fields stop rows = .cleared other from
            Backlog.watch_eq_cleared.mpr clears] at report
          cases report
          exact settles
      · intro ends
        exact ends.cleared row (Backlog.watch_eq_cleared.mp report)

end Samples

theorem roundedSeconds_nonneg {instant : Int} (late : stop ≤ instant) :
    (PyFloat.finite 0).le (roundedSeconds (instant - stop)) = true := by
  rw [← roundedSeconds_zero]
  exact roundedSeconds_le le_rfl (by omega)

/-- Drain times for good are no shorter over more fields. -/
theorem DrainedForGood.mono {fewer : List Str} (among : ∀ field ∈ fewer, field ∈ fields)
    (reads : ∀ row ∈ rows, row.Reads runtime clock aware fields) {part total : PyFloat}
    (drainedPart : DrainedForGood runtime clock fewer stop rows (some part))
    (drainedTotal : DrainedForGood runtime clock fields stop rows (some total)) :
    part.le total = true := by
  have counted {row : QueueRow} (member : row ∈ lateSamples clock stop rows) :
      row.Counted runtime fields := lateSamples_counted reads member
  have louder (row : QueueRow) (member : row ∈ lateSamples clock stop rows)
      (loud : row.busy runtime fewer = true) : row.busy runtime fields = true :=
    (counted member).busy_mono among loud
  by_cases quiet : ∀ row ∈ lateSamples clock stop rows, row.length runtime fewer = 0
  · have none : part = .finite 0 := Option.some.inj (drainedPart.atOnce.mpr quiet)
    by_cases quietTotal : ∀ row ∈ lateSamples clock stop rows, row.length runtime fields = 0
    · rw [none, Option.some.inj (drainedTotal.atOnce.mpr quietTotal)]
      rfl
    · push Not at quietTotal
      obtain ⟨row, member, loud⟩ := quietTotal
      have idle : ¬ BusyAtEnd runtime clock fields stop rows := fun atEnd => by
        cases drainedTotal.never.mpr atEnd
      obtain ⟨instant, least⟩ := Backlog.exists_isLeast_idleFrom
        (Backlog.idleFrom_nonempty (List.ne_nil_of_mem member) idle)
      rw [none, Option.some.inj (drainedTotal.settled ⟨row, member, loud⟩ instant least)]
      obtain ⟨⟨sample, known, rfl⟩, _⟩ := least.1
      exact roundedSeconds_nonneg (mem_lateSamples.mp known).2
  · push Not at quiet
    obtain ⟨row, member, loud⟩ := quiet
    have loudTotal : row.length runtime fields ≠ 0 := by
      have busy := louder row member (by
        by_contra idle
        exact loud (((counted member).mono among).length_eq_zero.mpr (by simpa using idle)))
      intro empty
      rw [(counted member).length_eq_zero.mp empty] at busy
      cases busy
    have idle : ¬ BusyAtEnd runtime clock fields stop rows := fun atEnd => by
      cases drainedTotal.never.mpr atEnd
    have settles := Backlog.idleFrom_nonempty (List.ne_nil_of_mem member) idle
    obtain ⟨last, leastTotal⟩ := Backlog.exists_isLeast_idleFrom settles
    obtain ⟨first, leastPart⟩ := Backlog.exists_isLeast_idleFrom
      (settles.mono (Backlog.idleFrom_subset louder))
    rw [Option.some.inj (drainedPart.settled ⟨row, member, loud⟩ first leastPart),
      Option.some.inj (drainedTotal.settled ⟨row, member, loudTotal⟩ last leastTotal)]
    have earlier : first ≤ last := leastPart.2 (Backlog.idleFrom_subset louder leastTotal.1)
    obtain ⟨⟨sample, known, rfl⟩, _⟩ := leastPart.1
    have late := (mem_lateSamples.mp known).2
    exact roundedSeconds_le (by omega) (by omega)

/-- What `calculate_drain_seconds` promises for a list of samples, whatever
fields it is asked for, and what follows for the three times of `queue_metrics`. -/
structure DrainedMeansDrained (runtime : Runtime) (clock : Clock) (stop : Int)
    (rows : List QueueRow) (runStartedAt duration : Option Str) : Prop where
  forGood : ∀ fields, (∀ field ∈ fields, field ∈ queueFields) →
    ∃ result, (calculateDrainSeconds runtime clock rows fields runStartedAt duration []).1 =
      .ok result ∧ DrainedForGood runtime clock fields stop rows result
  total : ∀ metrics total, (queueMetrics runtime clock rows runStartedAt duration []).1 =
      .ok metrics → metrics.queueDrainSeconds = some total →
    (∀ part, metrics.defaultQueueDrainSeconds = some part → part.le total = true) ∧
      ∀ part, metrics.heavyQueueDrainSeconds = some part → part.le total = true

theorem drained_means_drained_iff {runStartedAt duration : Option Str} (some : rows ≠ [])
    (ends : Ends clock aware runStartedAt duration stop)
    (reads : ∀ row ∈ rows, row.Reads runtime clock aware queueFields) :
    DrainedMeansDrained runtime clock stop rows runStartedAt duration ↔
      ∀ fields, (∀ field ∈ fields, field ∈ queueFields) →
        EndsForGood runtime clock fields stop rows := by
  have readsFor {fields : List Str} (among : ∀ field ∈ fields, field ∈ queueFields)
      (row : QueueRow) (member : row ∈ rows) : row.Reads runtime clock aware fields :=
    (reads row member).mono among
  constructor
  · intro drained fields among
    obtain ⟨result, returned, forGood⟩ := drained.forGood fields among
    rw [calculateDrainSeconds_eq some ends (readsFor among)] at returned
    cases returned
    exact (drainedForGood_iff (readsFor among)).mp forGood
  · intro endsForGood
    have forGood (fields : List Str) (among : ∀ field ∈ fields, field ∈ queueFields) :
        DrainedForGood runtime clock fields stop rows
          (drainSeconds clock stop (watchRows runtime clock fields stop rows)) :=
      (drainedForGood_iff (readsFor among)).mpr (endsForGood fields among)
    constructor
    · intro fields among
      exact ⟨_, calculateDrainSeconds_eq some ends (readsFor among) [], forGood fields among⟩
    · intro metrics total computed isTotal
      rw [queueMetrics_eq some ends reads] at computed
      cases computed
      have whole := forGood queueFields (fun _ => id)
      have longer {field : Str} (member : field ∈ queueFields) {part : PyFloat}
          (isPart : drainSeconds clock stop (watchRows runtime clock [field] stop rows) =
            .some part) : part.le total = true := by
        have among : ∀ other ∈ [field], other ∈ queueFields := by
          intro other same
          rw [List.mem_singleton.mp same]
          exact member
        have atPart := forGood [field] among
        rw [isPart] at atPart
        rw [show drainSeconds clock stop (watchRows runtime clock queueFields stop rows) =
          .some total from isTotal] at whole
        exact atPart.mono among reads whole
      exact ⟨fun part => longer List.mem_cons_self,
        fun part => longer (List.mem_cons_of_mem _ List.mem_cons_self)⟩

/-- The backlog is back before the samples end, and the sweep report has the
queues drained after a second. -/
theorem refill_taken_as_drained :
    (calculateDrainSeconds lengthRuntime minuteClock refillRows queueFields minuteStart minuteLoad
      []).1 = .ok (some (.finite 1)) ∧
    ¬ DrainedMeansDrained lengthRuntime minuteClock 60000000 refillRows minuteStart minuteLoad := by
  have returned : (calculateDrainSeconds lengthRuntime minuteClock refillRows queueFields
      minuteStart minuteLoad []).1 = .ok (some (.finite 1)) := by decide +kernel
  refine ⟨returned, fun drained => ?_⟩
  obtain ⟨result, same, forGood⟩ := drained.forGood queueFields (fun _ => id)
  rw [returned] at same
  cases same
  have nothing := forGood.never.mpr
    ⟨(⟨62000000, str "main", some (7, 7)⟩ : Sample).row minuteClock,
      mem_lateSamples.mpr ⟨by simp [refillRows, sampledRows], by decide +kernel⟩,
      by decide +kernel, by decide +kernel⟩
  cases nothing

theorem drained_means_drained_iff_healthy :
    DrainedMeansDrained lengthRuntime minuteClock 60000000 healthyRows minuteStart minuteLoad := by
  refine (drained_means_drained_iff (by decide) minute_ends healthyRows_read).mpr ?_
  intro fields among
  have never {items : List QueueRow} (late : ∀ row ∈ items,
      row ∈ lateRows minuteClock 60000000 healthyRows)
      (isOpen : Backlog.IsOpen (QueueRow.busy lengthRuntime fields) items) : False := by
    obtain ⟨loudRow, member, loud⟩ := isOpen.exists_busy
    have known := late loudRow member
    have louder :=
      (healthyRows_read loudRow (mem_lateRows.mp known).1).counted.busy_mono among loud
    rw [healthyRows_quiet loudRow known] at louder
    cases louder
  constructor
  · intro isOpen
    exact (never (fun _ => id) isOpen).elim
  · rintro row ⟨before, after, split, isOpen, _⟩
    refine (never (fun other member => ?_) isOpen).elim
    rw [split]
    exact List.mem_append_left _ member

end ImagePipeline.Properties.DrainTime
