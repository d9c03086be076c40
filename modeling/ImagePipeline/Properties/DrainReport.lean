/-
What a run report says about its queues. The drain time is the one of the sweep
report. The maximum and the drained flag come from the same loop, which ends at
the first empty sample after the backlog, and are wrong where that matters.
-/

import ImagePipeline.Benchmark.QueueMetrics
import ImagePipeline.Properties.LoadEnd
import Mathlib.Order.Bounds.Basic

namespace ImagePipeline.Properties.DrainReport

open Common Benchmark
open Library (Traced Backlog)
open LoadEnd (lengthRuntime minuteClock sampledRows)

variable {runtime : Runtime} {clock : Clock} {aware : Bool} {rows : List QueueRow}
  {runStartedAt duration : Option Str} {stop : Int}

/-- A state of the summary's loop in which only the first busy row may be known. -/
structure Watching (state : DrainState) : Prop where
  undrained : state.drainedAt = none
  nonneg : 0 ≤ state.maxQueue
  quiet : state.maxQueue = 0 → state.firstNonzeroAfterEnd = none

theorem Watching.early {state : DrainState} (watching : Watching state) (length : Int) :
    Watching { state with maxQueue := max state.maxQueue length } := by
  refine ⟨watching.undrained, watching.nonneg.trans (le_max_left _ _), ?_⟩
  intro zero
  have bound : state.maxQueue ≤ max state.maxQueue length := le_max_left _ _
  exact watching.quiet (le_antisymm (bound.trans_eq zero) watching.nonneg)

theorem Watching.late {state : DrainState} (watching : Watching state) {length : Int}
    (timestamp : DateTime) :
    Watching { state with
      maxQueue := max state.maxQueue length
      firstNonzeroAfterEnd := firstNonzero state.firstNonzeroAfterEnd timestamp length } := by
  refine ⟨watching.undrained, (watching.early length).nonneg, ?_⟩
  intro zero
  have bound : length ≤ max state.maxQueue length := le_max_right _ _
  dsimp only at zero ⊢
  rw [firstNonzero, if_neg (by omega)]
  exact (watching.early length).quiet zero

theorem drainSecondsOf_cleared (stop : DateTime) {state : DrainState} (watching : Watching state)
    {timestamp : DateTime} (length : Int) (seen : state.firstNonzeroAfterEnd ≠ none) :
    drainSecondsOf stop
      { maxQueue := max state.maxQueue length
        firstNonzeroAfterEnd := state.firstNonzeroAfterEnd
        drainedAt := some timestamp } = secondsAfter stop timestamp := by
  have positive : ¬ max state.maxQueue length = 0 := fun zero =>
    seen ((watching.early length).quiet zero)
  rw [drainSecondsOf, if_neg positive, if_neg seen]

theorem loops_agree (clock : Clock) (stop : DateTime) {rows : List QueueRow}
    (counted : ∀ row ∈ rows, row.Counted runtime queueFields) {state : DrainState}
    (watching : Watching state) :
    (summarizeLoop runtime clock stop state rows >>= fun after =>
        Traced.ofExcept (drainSecondsOf stop after)) =
      calculateLoop runtime clock queueFields stop state.firstNonzeroAfterEnd rows := by
  induction rows generalizing state with
  | nil =>
      change Traced.ofExcept (drainSecondsOf stop state) = _
      rw [calculateLoop, drainSecondsOf, watching.undrained]
      split
      · rename_i zero
        rw [watching.quiet zero]
        rfl
      · split <;> rfl
  | cons row rest ih =>
      have later := @ih (fun other member => counted other (List.mem_cons_of_mem _ member))
      have atRow := counted row List.mem_cons_self
      obtain ⟨defaultLength, heavyLength, atDefault, atHeavy, total⟩ := atRow.both
      simp only [summarizeLoop, calculateLoop, atDefault, atHeavy, atRow.totalLength_eq, total,
        Traced.ofExcept_ok_bind]
      cases clock.parseTime row.timestamp with
      | error raised => rfl
      | ok timestamp =>
          simp only [Traced.ofExcept_ok_bind]
          cases timestamp.lt stop with
          | error raised => rfl
          | ok early =>
              simp only [Traced.ofExcept_ok_bind]
              cases early with
              | true =>
                  rw [if_pos rfl, if_pos rfl]
                  exact later (watching.early _)
              | false =>
                  rw [if_neg Bool.false_ne_true, if_neg Bool.false_ne_true, Traced.bind_bind]
                  congr 1
                  funext _
                  split
                  · rename_i clears
                    have kept := firstNonzero_zero state.firstNonzeroAfterEnd timestamp clears.2
                    rw [kept] at clears ⊢
                    exact congrArg Traced.ofExcept
                      (drainSecondsOf_cleared stop watching _ clears.1)
                  · exact later (watching.late timestamp)

/-- The `queue_drain_seconds` of the two reports, whatever the timestamps, the
run's start and the duration are. -/
theorem drain_computations_agree
    (counted : ∀ row ∈ rows, row.Counted runtime queueFields)
    (runStartedAt duration : Option Str) (trace : List Int) :
    (summarizeQueueDrain runtime clock rows runStartedAt duration trace).1.map
        (fun summary => summary.bind QueueSummary.queueDrainSeconds) =
      (calculateDrainSeconds runtime clock rows queueFields runStartedAt duration trace).1 := by
  unfold summarizeQueueDrain calculateDrainSeconds
  split
  · rfl
  · cases submissionEnd clock (runStartedAt.getD []) (duration.getD []) with
    | error raised => rfl
    | ok stop =>
        have watching : Watching ⟨0, none, none⟩ := ⟨rfl, le_rfl, fun _ => rfl⟩
        have agree := loops_agree clock stop
          (fun row member => counted row (mem_sortRows.mp member)) watching
        rw [Traced.ofExcept_ok_bind, Traced.ofExcept_ok_bind, ← agree]
        cases ran : summarizeLoop runtime clock stop ⟨0, none, none⟩ (sortRows rows) trace with
        | mk ending later =>
            cases ending with
            | error raised => rw [Traced.bind_error ran, Traced.bind_error ran]; rfl
            | ok state =>
                rw [Traced.bind_ok ran, Traced.bind_ok ran, summaryOf]
                cases drainSecondsOf stop state <;> rfl

/-! ### A minute of load and a backlog that comes back -/

def minuteStart : Option Str := some (str "1970-01-01T00:00:00+00:00")

def minuteLoad : Option Str := some (str "1m")

theorem minute_ends : Ends minuteClock true minuteStart minuteLoad 60000000 := by decide +kernel

/-- Busy at the end of the load, empty a second later, and busier than before
after another one. -/
def refillRows : List QueueRow :=
  sampledRows minuteClock
    [⟨60000000, str "main", some (7, 0)⟩, ⟨61000000, str "main", some (0, 0)⟩,
      ⟨62000000, str "main", some (7, 7)⟩]

theorem refillRows_read :
    ∀ row ∈ refillRows, row.Reads lengthRuntime minuteClock true queueFields := by decide +kernel

/-- Busy during the load only. -/
def healthyRows : List QueueRow :=
  sampledRows minuteClock [⟨0, str "main", some (7, 0)⟩, ⟨60000000, str "main", some (0, 0)⟩]

theorem healthyRows_read :
    ∀ row ∈ healthyRows, row.Reads lengthRuntime minuteClock true queueFields := by decide +kernel

theorem healthyRows_quiet : ∀ row ∈ lateRows minuteClock 60000000 healthyRows,
    row.busy lengthRuntime queueFields = false := by decide +kernel

theorem drain_computations_agree_refill :
    (summarizeQueueDrain lengthRuntime minuteClock refillRows minuteStart minuteLoad []).1.map
        (fun summary => summary.bind QueueSummary.queueDrainSeconds) =
      (calculateDrainSeconds lengthRuntime minuteClock refillRows queueFields minuteStart
        minuteLoad []).1 :=
  drain_computations_agree (fun row member => (refillRows_read row member).counted) minuteStart
    minuteLoad []

/-! ### The drained flag -/

/-- The queues are empty all the time, or not yet when the load ends. -/
def BusyLate (runtime : Runtime) (clock : Clock) (stop : Int) (rows : List QueueRow) : Prop :=
  (∃ row ∈ rows, stop ≤ row.instant clock ∧ row.length runtime queueFields ≠ 0) ∨
    ∀ row ∈ rows, row.length runtime queueFields = 0

theorem peak_eq_zero (reads : ∀ row ∈ rows, row.Reads runtime clock aware queueFields) :
    peak runtime queueFields 0 rows = 0 ↔ ∀ row ∈ rows, row.length runtime queueFields = 0 := by
  constructor
  · intro empty row member
    have low := (peak_le.mp (le_of_eq empty)).2 row member
    have nonneg := (reads row member).counted.length_nonneg
    omega
  · intro empty
    apply le_antisymm
    · exact peak_le.mpr ⟨le_refl 0, fun row member => le_of_eq (empty row member)⟩
    · exact earlier_le_peak 0 rows

theorem queueDrained_iff (reads : ∀ row ∈ rows, row.Reads runtime clock aware queueFields) :
    (queueSummary runtime clock stop rows).queueDrained = true ↔
      (∃ row, watchRows runtime clock queueFields stop rows = .cleared row) ∨
        ∀ row ∈ rows, row.length runtime queueFields = 0 := by
  cases report : watchRows runtime clock queueFields stop rows with
  | cleared row => simp [queueSummary, report, Backlog.item?]
  | never | pending =>
      have all : watchedRows runtime clock stop rows = sortRows rows :=
        watchedRows_all (fun row cleared => by rw [report] at cleared; cases cleared)
      have empty := peak_eq_zero (fun row member => reads row (mem_sortRows.mp member))
      simp [queueSummary, report, Backlog.item?, all, empty, mem_sortRows]

theorem queueDrainSeconds_ne_none :
    (queueSummary runtime clock stop rows).queueDrainSeconds ≠ none ↔
      watchRows runtime clock queueFields stop rows ≠ .pending := by
  cases report : watchRows runtime clock queueFields stop rows <;>
    simp [queueSummary, report, drainSeconds]

theorem queueSummary_consistent_iff (reads : ∀ row ∈ rows, row.Reads runtime clock aware queueFields) :
    ((queueSummary runtime clock stop rows).queueDrained = true ↔
      (queueSummary runtime clock stop rows).queueDrainSeconds ≠ none) ↔
    BusyLate runtime clock stop rows := by
  have late := watchRows_ne_never stop reads
  have never_of_empty (empty : ∀ row ∈ rows, row.length runtime queueFields = 0) :
      watchRows runtime clock queueFields stop rows = .never := by
    by_contra reported
    obtain ⟨row, member, _, loud⟩ := late.mp reported
    exact loud (empty row member)
  rw [queueDrained_iff reads, queueDrainSeconds_ne_none, BusyLate, ← late]
  cases report : watchRows runtime clock queueFields stop rows with
  | never => simp
  | cleared row => simp
  | pending =>
      have unempty : ¬ ∀ row ∈ rows, row.length runtime queueFields = 0 := by
        intro empty
        rw [never_of_empty empty] at report
        cases report
      simp [unempty]

/-- The flag says what the drain time says exactly if there is a backlog at the
end of the load or never one. -/
theorem drained_flag_consistent_iff (some : rows ≠ [])
    (reads : ∀ row ∈ rows, row.Reads runtime clock aware queueFields)
    (runStartedAt duration : Option Str) (trace : List Int) :
    (∀ summary, (summarizeQueueDrain runtime clock rows runStartedAt duration trace).1 =
        .ok (.some summary) →
      (summary.queueDrained = true ↔ summary.queueDrainSeconds ≠ none)) ↔
    ∀ stop, Ends clock aware runStartedAt duration stop → BusyLate runtime clock stop rows := by
  constructor
  · intro consistent stop ends
    exact (queueSummary_consistent_iff reads).mp
      (consistent _ (summarizeQueueDrain_eq some ends reads trace))
  · intro busyLate summary returned
    obtain ⟨stop, ends, rfl⟩ := (summarizeQueueDrain_ok_iff some reads).mp returned
    exact (queueSummary_consistent_iff reads).mpr (busyLate stop ends)

theorem healthy_not_drained :
    (summarizeQueueDrain lengthRuntime minuteClock healthyRows minuteStart minuteLoad []).1 =
      .ok (some ⟨7, some (.finite 0), false⟩) ∧
    ¬ ∀ summary, (summarizeQueueDrain lengthRuntime minuteClock healthyRows minuteStart minuteLoad
        []).1 = .ok (some summary) →
      (summary.queueDrained = true ↔ summary.queueDrainSeconds ≠ none) := by
  have returned : (summarizeQueueDrain lengthRuntime minuteClock healthyRows minuteStart
      minuteLoad []).1 = .ok (some ⟨7, some (.finite 0), false⟩) := by decide +kernel
  refine ⟨returned, fun consistent => ?_⟩
  have drained := (consistent _ returned).mpr (by simp)
  cases drained

theorem drained_flag_consistent_iff_refill :
    ∃ summary, (summarizeQueueDrain lengthRuntime minuteClock refillRows minuteStart minuteLoad
        []).1 = .ok (some summary) ∧
      (summary.queueDrained = true ↔ summary.queueDrainSeconds ≠ none) := by
  refine ⟨_, summarizeQueueDrain_eq (by decide) minute_ends refillRows_read [],
    (drained_flag_consistent_iff (by decide) refillRows_read minuteStart minuteLoad []).mpr ?_ _
      (summarizeQueueDrain_eq (by decide) minute_ends refillRows_read [])⟩
  intro stop ends
  obtain rfl := ends.unique minute_ends
  left
  decide +kernel

/-! ### The maximum -/

/-- Whatever stands after the row that clears the backlog is no longer than
something before it. -/
def PeaksEarly (runtime : Runtime) (clock : Clock) (stop : Int) (rows : List QueueRow) : Prop :=
  ∀ before row after, sortRows rows = before ++ row :: after →
    Backlog.IsOpen (QueueRow.busy runtime queueFields)
      (before.filter (QueueRow.late clock stop)) →
    stop ≤ row.instant clock → row.length runtime queueFields = 0 →
      ∀ later ∈ after, ∃ earlier ∈ before,
        later.length runtime queueFields ≤ earlier.length runtime queueFields

structure TrueMaximum (runtime : Runtime) (clock : Clock) (rows : List QueueRow)
    (runStartedAt duration : Option Str) (summary : QueueSummary) : Prop where
  greatest : IsGreatest ((QueueRow.length runtime queueFields) '' {row | row ∈ rows})
    summary.maxQueueLength
  reported : ∃ metrics, (queueMetrics runtime clock rows runStartedAt duration []).1 =
    .ok metrics ∧ metrics.maxQueueLength = summary.maxQueueLength

theorem peak_isGreatest (some : rows ≠ [])
    (reads : ∀ row ∈ rows, row.Reads runtime clock aware queueFields) :
    IsGreatest ((QueueRow.length runtime queueFields) '' {row | row ∈ rows})
      (peak runtime queueFields 0 rows) := by
  constructor
  · rcases peak_attained 0 rows with empty | ⟨row, member, same⟩
    · obtain ⟨row, member⟩ := List.exists_mem_of_ne_nil rows some
      refine ⟨row, member, ?_⟩
      rw [empty]
      exact (peak_eq_zero reads).mp empty row member
    · exact ⟨row, member, same⟩
  · rintro _ ⟨row, member, rfl⟩
    exact length_le_peak 0 member

theorem peak_mono {first second : List QueueRow} (among : ∀ row ∈ first, row ∈ second) :
    peak runtime queueFields 0 first ≤ peak runtime queueFields 0 second :=
  peak_le.mpr ⟨earlier_le_peak 0 second, fun row member => length_le_peak 0 (among row member)⟩

theorem peak_sortRows (rows : List QueueRow) : peak runtime queueFields 0 (sortRows rows) =
    peak runtime queueFields 0 rows :=
  le_antisymm (peak_mono (fun _ => mem_sortRows.mp)) (peak_mono (fun _ => mem_sortRows.mpr))

/-- A row behind the drained backlog that is longer than all before it is missed. -/
theorem peak_watched_lt (reads : ∀ row ∈ sortRows rows, row.Reads runtime clock aware queueFields)
    {before after : List QueueRow} {row later : QueueRow}
    (split : sortRows rows = before ++ row :: after)
    (isOpen : Backlog.IsOpen (QueueRow.busy runtime queueFields)
      (before.filter (QueueRow.late clock stop)))
    (late : stop ≤ row.instant clock) (empty : row.length runtime queueFields = 0)
    (longer : ∀ earlier ∈ before,
      earlier.length runtime queueFields < later.length runtime queueFields) :
    peak runtime queueFields 0 (watchedRows runtime clock stop rows) <
      later.length runtime queueFields := by
  have idle := (reads row (by rw [split]; simp)).counted.length_eq_zero.mp empty
  obtain ⟨loudRow, loudMember, loud⟩ := isOpen.exists_busy
  have positive : 0 < loudRow.length runtime queueFields := of_decide_eq_true loud
  have longest := longer loudRow (List.mem_filter.mp loudMember).1
  have bound : peak runtime queueFields 0 (watchedRows runtime clock stop rows) ≤
      later.length runtime queueFields - 1 := by
    rw [watchedRows_clears split isOpen late idle, peak_le]
    refine ⟨by omega, fun other watched => ?_⟩
    rcases List.mem_append.mp watched with earlier | last
    · have shorter := longer other earlier
      omega
    · rw [List.mem_singleton.mp last]
      omega
  omega

/-- If no such row is there, the watched rows have the longest one. -/
theorem peak_watched_of_early (reads : ∀ row ∈ sortRows rows, row.Reads runtime clock aware queueFields)
    (early : PeaksEarly runtime clock stop rows) :
    peak runtime queueFields 0 (watchedRows runtime clock stop rows) =
      peak runtime queueFields 0 (sortRows rows) := by
  by_cases cleared : ∃ row, watchRows runtime clock queueFields stop rows = .cleared row
  · obtain ⟨item, cleared⟩ := cleared
    obtain ⟨before, after, split, isOpen, late, idle⟩ :=
      Backlog.Clears.of_filter (Backlog.watch_eq_cleared.mp cleared)
    have late : stop ≤ item.instant clock := of_decide_eq_true late
    have empty := (reads item (by rw [split]; simp)).counted.length_eq_zero.mpr idle
    rw [watchedRows_clears split isOpen late idle, split]
    apply le_antisymm
    · apply peak_mono
      intro row member
      rw [List.append_cons]
      exact List.mem_append_left _ member
    · refine peak_le.mpr ⟨earlier_le_peak 0 _, fun row member => ?_⟩
      rw [List.append_cons, List.mem_append] at member
      rcases member with watched | later
      · exact length_le_peak 0 watched
      · obtain ⟨earlier, known, longer⟩ :=
          early before item after split isOpen late empty row later
        exact longer.trans (length_le_peak 0 (List.mem_append_left _ known))
  · push Not at cleared
    rw [watchedRows_all cleared]

theorem peaksEarly_iff (reads : ∀ row ∈ rows, row.Reads runtime clock aware queueFields) :
    peak runtime queueFields 0 (watchedRows runtime clock stop rows) =
      peak runtime queueFields 0 rows ↔ PeaksEarly runtime clock stop rows := by
  have sorted (row : QueueRow) (member : row ∈ sortRows rows) :
      row.Reads runtime clock aware queueFields := reads row (mem_sortRows.mp member)
  rw [← peak_sortRows rows]
  constructor
  · intro same before row after split isOpen late empty later member
    by_contra longer
    push Not at longer
    have low := peak_watched_lt sorted split isOpen late empty longer
    have high : later.length runtime queueFields ≤ peak runtime queueFields 0 (sortRows rows) :=
      length_le_peak 0 (by rw [split]; simp [member])
    omega
  · exact peak_watched_of_early sorted

/-- The maximum is right exactly if the backlog never grows again beyond what
it was before its end. -/
theorem max_queue_length_true_iff (some : rows ≠ [])
    (reads : ∀ row ∈ rows, row.Reads runtime clock aware queueFields)
    (runStartedAt duration : Option Str) (trace : List Int) :
    (∀ summary, (summarizeQueueDrain runtime clock rows runStartedAt duration trace).1 =
        .ok (.some summary) →
      TrueMaximum runtime clock rows runStartedAt duration summary) ↔
    ∀ stop, Ends clock aware runStartedAt duration stop → PeaksEarly runtime clock stop rows := by
  have greatest := peak_isGreatest some reads
  constructor
  · intro exact stop ends
    have true := exact _ (summarizeQueueDrain_eq some ends reads trace)
    exact (peaksEarly_iff reads).mp (true.greatest.unique greatest)
  · intro early summary returned
    obtain ⟨stop, ends, rfl⟩ := (summarizeQueueDrain_ok_iff some reads).mp returned
    have same := (peaksEarly_iff reads).mpr (early stop ends)
    have maximum : (queueSummary runtime clock stop rows).maxQueueLength =
      peak runtime queueFields 0 rows := same
    constructor
    · rw [maximum]
      exact greatest
    · exact ⟨_, queueMetrics_eq some ends reads [], maximum.symm⟩

/-- The run report has a backlog of seven jobs where the sweep report has fourteen. -/
theorem refill_above_maximum :
    (summarizeQueueDrain lengthRuntime minuteClock refillRows minuteStart minuteLoad []).1 =
      .ok (some ⟨7, some (.finite 1), true⟩) ∧
    (queueMetrics lengthRuntime minuteClock refillRows minuteStart minuteLoad []).1.map
      QueueMetrics.maxQueueLength = .ok 14 ∧
    ¬ ∀ summary, (summarizeQueueDrain lengthRuntime minuteClock refillRows minuteStart minuteLoad
        []).1 = .ok (some summary) →
      TrueMaximum lengthRuntime minuteClock refillRows minuteStart minuteLoad summary := by
  have returned : (summarizeQueueDrain lengthRuntime minuteClock refillRows minuteStart
      minuteLoad []).1 = .ok (some ⟨7, some (.finite 1), true⟩) := by decide +kernel
  have metrics : (queueMetrics lengthRuntime minuteClock refillRows minuteStart minuteLoad
      []).1.map QueueMetrics.maxQueueLength = .ok 14 := by decide +kernel
  refine ⟨returned, metrics, fun exact => ?_⟩
  obtain ⟨found, computed, same⟩ := (exact _ returned).reported
  rw [computed] at metrics
  have wrong := same.symm.trans (Except.ok.inj metrics)
  cases wrong

theorem max_queue_length_true_iff_healthy :
    ∃ summary, (summarizeQueueDrain lengthRuntime minuteClock healthyRows minuteStart minuteLoad
        []).1 = .ok (some summary) ∧
      TrueMaximum lengthRuntime minuteClock healthyRows minuteStart minuteLoad summary := by
  refine ⟨_, summarizeQueueDrain_eq (by decide) minute_ends healthyRows_read [],
    (max_queue_length_true_iff (by decide) healthyRows_read minuteStart minuteLoad []).mpr ?_ _
      (summarizeQueueDrain_eq (by decide) minute_ends healthyRows_read [])⟩
  intro stop ends before row after split isOpen late empty later member
  obtain rfl := ends.unique minute_ends
  -- nothing is busy after the load, so that there is no backlog to be cleared
  obtain ⟨loudRow, loudMember, loud⟩ := isOpen.exists_busy
  have known : loudRow ∈ lateRows minuteClock 60000000 healthyRows := by
    rw [lateRows, split, List.filter_append]
    exact List.mem_append_left _ loudMember
  rw [healthyRows_quiet loudRow known] at loud
  cases loud

end ImagePipeline.Properties.DrainReport
