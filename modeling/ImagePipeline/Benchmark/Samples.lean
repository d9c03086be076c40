/-
The rows of a queue monitor as the drain computations read them. On rows that
can be read, both loops only watch the samples from the end of the load on, in
the order of their timestamps.
-/

import ImagePipeline.Benchmark.QueueDrain
import ImagePipeline.Common.JsonPrinter
import ImagePipeline.Library.Draining

namespace ImagePipeline.Benchmark

open Common
open Library (Traced Backlog)

def queueFields : List Str := [str "default_queue_length", str "heavy_queue_length"]

section Rows

variable (runtime : Runtime) (clock : Clock) (aware : Bool) (fields : List Str)

def QueueRow.instant (row : QueueRow) : Int :=
  match clock.parseTime row.timestamp with
  | .ok time => time.instant
  | .error _ => 0

/-- What a row has in the fields together, if all of them can be read. -/
def QueueRow.length (row : QueueRow) : Int :=
  match totalLength runtime row fields with
  | .ok length => length
  | .error _ => 0

/-- In each field a length or a blank. -/
def QueueRow.Counted (row : QueueRow) : Prop :=
  ∀ field ∈ fields, ∃ length : Nat, queueLength runtime row field = .ok (length : Int)

structure QueueRow.Reads (row : QueueRow) : Prop where
  parsed : ∃ time, clock.parseTime row.timestamp = .ok time ∧ time.aware = aware
  counted : row.Counted runtime fields

def QueueRow.readable (row : QueueRow) : Bool :=
  (match clock.parseTime row.timestamp with
    | .ok time => time.aware == aware
    | .error _ => false) && fields.all (fun field =>
    match queueLength runtime row field with
    | .ok length => 0 ≤ length
    | .error _ => false)

def QueueRow.busy (row : QueueRow) : Bool := 0 < row.length runtime fields

def QueueRow.late (stop : Int) (row : QueueRow) : Bool := stop ≤ row.instant clock

def lateRows (stop : Int) (rows : List QueueRow) : List QueueRow :=
  (sortRows rows).filter (QueueRow.late clock stop)

/-- What there is to see of the backlog after the load. -/
def watchRows (stop : Int) (rows : List QueueRow) : Backlog QueueRow :=
  Backlog.watch (QueueRow.busy runtime fields) (lateRows clock stop rows)

def drainSeconds (stop : Int) : Backlog QueueRow → Option PyFloat
  | .never => some (.finite 0)
  | .pending => none
  | .cleared row => some (roundedSeconds (row.instant clock - stop))

def peak (earlier : Int) (rows : List QueueRow) : Int :=
  rows.foldl (fun longest row => max longest (row.length runtime fields)) earlier

/-- The rows that `summarize_queue_drain` gets to see. -/
def watchedRows (stop : Int) (rows : List QueueRow) : List QueueRow :=
  Backlog.watchedFrom (QueueRow.busy runtime queueFields) (QueueRow.late clock stop) false
    (sortRows rows)

/-- The dictionary of `summarize_queue_drain` by what there is to see. -/
def queueSummary (stop : Int) (rows : List QueueRow) : QueueSummary :=
  { maxQueueLength := peak runtime queueFields 0 (watchedRows runtime clock stop rows)
    queueDrainSeconds := drainSeconds clock stop (watchRows runtime clock queueFields stop rows)
    queueDrained := (watchRows runtime clock queueFields stop rows).item?.isSome ||
      peak runtime queueFields 0 (watchedRows runtime clock stop rows) = 0 }

structure Ends (runStartedAt duration : Option Str) (stop : Int) : Prop where
  started : isMissing runStartedAt = false
  lasted : isMissing duration = false
  ends : ∃ ending, submissionEnd clock (runStartedAt.getD []) (duration.getD []) = .ok ending ∧
    ending.aware = aware ∧ ending.instant = stop

end Rows

variable {runtime : Runtime} {clock : Clock} {aware : Bool} {fields : List Str}

/-! ### Rows that can be read -/

theorem QueueRow.readable_iff {row : QueueRow} :
    row.readable runtime clock aware fields = true ↔ row.Reads runtime clock aware fields := by
  unfold readable
  rw [Bool.and_eq_true, List.all_eq_true]
  constructor
  · intro ⟨parsed, counted⟩
    constructor
    · cases read : clock.parseTime row.timestamp with
      | ok time =>
          rw [read] at parsed
          exact ⟨time, rfl, eq_of_beq parsed⟩
      | error raised =>
          rw [read] at parsed
          cases parsed
    · intro field member
      have atField := counted field member
      cases read : queueLength runtime row field with
      | ok length =>
          rw [read] at atField
          exact ⟨length.toNat, by rw [Int.toNat_of_nonneg (of_decide_eq_true atField)]⟩
      | error raised =>
          rw [read] at atField
          cases atField
  · intro ⟨⟨time, parsed, zoned⟩, counted⟩
    refine ⟨by rw [parsed]; exact beq_iff_eq.mpr zoned, fun field member => ?_⟩
    obtain ⟨length, read⟩ := counted field member
    rw [read]
    exact decide_eq_true (Int.natCast_nonneg length)

instance (row : QueueRow) : Decidable (row.Reads runtime clock aware fields) :=
  decidable_of_iff _ QueueRow.readable_iff

def endsAt (clock : Clock) (aware : Bool) (runStartedAt duration : Option Str) (stop : Int) :
    Bool :=
  !isMissing runStartedAt && !isMissing duration &&
    match submissionEnd clock (runStartedAt.getD []) (duration.getD []) with
    | .ok ending => ending.aware == aware && ending.instant == stop
    | .error _ => false

theorem endsAt_iff {runStartedAt duration : Option Str} {stop : Int} :
    endsAt clock aware runStartedAt duration stop = true ↔
      Ends clock aware runStartedAt duration stop := by
  unfold endsAt
  rw [Bool.and_eq_true, Bool.and_eq_true, Bool.not_eq_true', Bool.not_eq_true']
  constructor
  · intro ⟨⟨started, lasted⟩, ended⟩
    refine ⟨started, lasted, ?_⟩
    cases computed : submissionEnd clock (runStartedAt.getD []) (duration.getD []) with
    | ok ending =>
        rw [computed] at ended
        obtain ⟨zoned, same⟩ := Bool.and_eq_true_iff.mp ended
        exact ⟨ending, rfl, eq_of_beq zoned, eq_of_beq same⟩
    | error raised =>
        rw [computed] at ended
        cases ended
  · intro ⟨started, lasted, ending, computed, zoned, same⟩
    refine ⟨⟨started, lasted⟩, ?_⟩
    rw [computed]
    exact Bool.and_eq_true_iff.mpr ⟨beq_iff_eq.mpr zoned, beq_iff_eq.mpr same⟩

instance (runStartedAt duration : Option Str) (stop : Int) :
    Decidable (Ends clock aware runStartedAt duration stop) :=
  decidable_of_iff _ endsAt_iff

theorem Ends.unique {runStartedAt duration : Option Str} {stop other : Int} {awareOther : Bool}
    (ends : Ends clock aware runStartedAt duration stop)
    (endsOther : Ends clock awareOther runStartedAt duration other) : stop = other := by
  obtain ⟨ending, computed, _, atStop⟩ := ends.ends
  obtain ⟨same, computedOther, _, atOther⟩ := endsOther.ends
  rw [computed] at computedOther
  cases computedOther
  exact atStop.symm.trans atOther

theorem totalLength_ok {row : QueueRow} (counted : row.Counted runtime fields) :
    ∃ length : Nat, totalLength runtime row fields = .ok (length : Int) := by
  induction fields with
  | nil => exact ⟨0, rfl⟩
  | cons field rest ih =>
      obtain ⟨length, atField⟩ := counted field List.mem_cons_self
      obtain ⟨others, atRest⟩ :=
        ih (fun other member => counted other (List.mem_cons_of_mem _ member))
      exact ⟨length + others, by simp [totalLength, atField, atRest, Except.map]⟩

theorem QueueRow.Reads.parseTime_eq {row : QueueRow}
    (reads : row.Reads runtime clock aware fields) :
    ∃ time, clock.parseTime row.timestamp = .ok time ∧ time.aware = aware ∧
      time.instant = row.instant clock := by
  obtain ⟨time, parsed, zoned⟩ := reads.parsed
  exact ⟨time, parsed, zoned, by simp only [QueueRow.instant, parsed]⟩

theorem QueueRow.Reads.mono {row : QueueRow} (reads : row.Reads runtime clock aware fields)
    {fewer : List Str} (among : ∀ field ∈ fewer, field ∈ fields) :
    row.Reads runtime clock aware fewer :=
  ⟨reads.parsed, fun field member => reads.counted field (among field member)⟩

namespace QueueRow.Counted

variable {row : QueueRow}

theorem totalLength_eq (counted : row.Counted runtime fields) :
    totalLength runtime row fields = .ok (row.length runtime fields) := by
  obtain ⟨length, total⟩ := totalLength_ok counted
  simp only [QueueRow.length, total]

theorem length_nonneg (counted : row.Counted runtime fields) : 0 ≤ row.length runtime fields := by
  obtain ⟨length, total⟩ := totalLength_ok counted
  simp only [QueueRow.length, total]
  exact Int.natCast_nonneg length

theorem length_eq_zero (counted : row.Counted runtime fields) :
    row.length runtime fields = 0 ↔ row.busy runtime fields = false := by
  have nonneg := counted.length_nonneg
  rw [QueueRow.busy, decide_eq_false_iff_not]
  omega

theorem mono (counted : row.Counted runtime fields) {fewer : List Str}
    (among : ∀ field ∈ fewer, field ∈ fields) : row.Counted runtime fewer :=
  fun field member => counted field (among field member)

theorem all_zero (counted : row.Counted runtime fields) :
    row.length runtime fields = 0 ↔ ∀ field ∈ fields, queueLength runtime row field = .ok 0 := by
  induction fields with
  | nil => exact iff_of_true rfl (fun field member => nomatch member)
  | cons field rest ih =>
      have atRest : row.Counted runtime rest := counted.mono (List.subset_cons_self field rest)
      obtain ⟨length, atField⟩ := counted field List.mem_cons_self
      have nonneg := atRest.length_nonneg
      have total : row.length runtime (field :: rest) = length + row.length runtime rest := by
        rw [QueueRow.length, totalLength, atField]
        dsimp only
        rw [atRest.totalLength_eq]
        rfl
      rw [List.forall_mem_cons, ← ih atRest, atField, Except.ok.injEq, total]
      omega

theorem busy_mono (counted : row.Counted runtime fields) {fewer : List Str}
    (among : ∀ field ∈ fewer, field ∈ fields) (loud : row.busy runtime fewer = true) :
    row.busy runtime fields = true := by
  by_contra idle
  have empty := counted.length_eq_zero.mpr (Bool.eq_false_iff.mpr idle)
  have fewerEmpty := (counted.mono among).all_zero.mpr
    (fun field member => counted.all_zero.mp empty field (among field member))
  rw [(counted.mono among).length_eq_zero.mp fewerEmpty] at loud
  cases loud

/-- The two lengths of a row and their sum, as `summarize_queue_drain` adds them. -/
theorem both (counted : row.Counted runtime queueFields) :
    ∃ defaultLength heavyLength : Int,
      queueLength runtime row (str "default_queue_length") = .ok defaultLength ∧
      queueLength runtime row (str "heavy_queue_length") = .ok heavyLength ∧
      defaultLength + heavyLength = row.length runtime queueFields := by
  obtain ⟨defaultLength, atDefault⟩ := counted (str "default_queue_length") List.mem_cons_self
  obtain ⟨heavyLength, atHeavy⟩ :=
    counted (str "heavy_queue_length") (List.mem_cons_of_mem _ List.mem_cons_self)
  refine ⟨defaultLength, heavyLength, atDefault, atHeavy, ?_⟩
  simp [QueueRow.length, queueFields, totalLength, atDefault, atHeavy, Except.map]

end QueueRow.Counted

/-! ### The order of the rows -/

theorem mem_sortRows {row : QueueRow} {rows : List QueueRow} :
    row ∈ sortRows rows ↔ row ∈ rows := by
  unfold sortRows
  rw [List.mem_map]
  constructor
  · rintro ⟨⟨key, other⟩, member, rfl⟩
    obtain ⟨kept, present, same⟩ := List.mem_map.mp ((sortFields_perm _).mem_iff.mp member)
    cases same
    exact present
  · intro member
    exact ⟨(row.timestamp, row), (sortFields_perm _).mem_iff.mpr
      (List.mem_map.mpr ⟨row, member, rfl⟩), rfl⟩

theorem mem_lateRows {row : QueueRow} {stop : Int} {rows : List QueueRow} :
    row ∈ lateRows clock stop rows ↔ row ∈ rows ∧ stop ≤ row.instant clock := by
  rw [lateRows, List.mem_filter, mem_sortRows, QueueRow.late, decide_eq_true_iff]

/-! ### The loops -/

theorem firstNonzero_isSome (first : Option DateTime) (timestamp : DateTime) (length : Int) :
    (firstNonzero first timestamp length).isSome = (decide (0 < length) || first.isSome) := by
  unfold firstNonzero
  cases first with
  | some value => simp
  | none =>
      by_cases some : 0 < length <;> simp [some]

theorem firstNonzero_zero (first : Option DateTime) (timestamp : DateTime) {length : Int}
    (zero : length = 0) : firstNonzero first timestamp length = first := by
  simp [firstNonzero, zero]

theorem secondsAfter_eq {stop drainedAt : DateTime} (zoned : drainedAt.aware = stop.aware) :
    secondsAfter stop drainedAt =
      .ok (some (roundedSeconds (drainedAt.instant - stop.instant))) := by
  unfold secondsAfter
  rw [DateTime.sub_of_aware zoned]
  rfl

theorem calculateLoop_eq {stop : DateTime} (zoned : stop.aware = aware) {rows : List QueueRow}
    (reads : ∀ row ∈ rows, row.Reads runtime clock aware fields) (first : Option DateTime)
    (trace : List Int) :
    (calculateLoop runtime clock fields stop first rows trace).1 =
      .ok (drainSeconds clock stop.instant (Backlog.watchFrom (QueueRow.busy runtime fields)
        first.isSome (rows.filter (QueueRow.late clock stop.instant)))) := by
  induction rows generalizing first trace with
  | nil =>
      cases first <;> rfl
  | cons row rest ih =>
      have atRow := reads row List.mem_cons_self
      have later := ih (fun other member => reads other (List.mem_cons_of_mem _ member))
      obtain ⟨time, parsed, zonedTime, instant⟩ := atRow.parseTime_eq
      have same : time.aware = stop.aware := zonedTime.trans zoned.symm
      rw [calculateLoop, parsed, Traced.ofExcept_ok_bind, DateTime.lt_of_aware same,
        Traced.ofExcept_ok_bind, instant]
      by_cases before : row.instant clock < stop.instant
      · rw [if_pos (decide_eq_true before),
          List.filter_cons_of_neg (by simpa [QueueRow.late] using before)]
        exact later first trace
      · have counts : QueueRow.late clock stop.instant row = true := by
          simpa [QueueRow.late] using before
        have seen := firstNonzero_isSome first time (row.length runtime fields)
        rw [if_neg (by simpa using before), List.filter_cons_of_pos counts,
          atRow.counted.totalLength_eq]
        rw [Traced.bind_ok (show Traced.record _ trace = _ from rfl), Traced.ofExcept_ok_bind]
        cases loud : row.busy runtime fields with
        | true =>
            have positive : 0 < row.length runtime fields := of_decide_eq_true loud
            rw [if_neg (by omega), later, seen]
            simp only [positive, Backlog.watchFrom, loud, decide_true, Bool.true_or, if_true]
        | false =>
            have zero := atRow.counted.length_eq_zero.mpr loud
            rw [zero] at seen ⊢
            cases first with
            | none =>
                rw [if_neg (by simp [firstNonzero]), later, seen]
                simp [Backlog.watchFrom, loud]
            | some earlier =>
                rw [if_pos (by simp [firstNonzero]), Traced.ofExcept_apply, secondsAfter_eq same,
                  instant]
                simp [Backlog.watchFrom, loud, drainSeconds]

theorem peak_le {earlier bound : Int} {rows : List QueueRow} :
    peak runtime fields earlier rows ≤ bound ↔
      earlier ≤ bound ∧ ∀ row ∈ rows, row.length runtime fields ≤ bound := by
  unfold peak
  induction rows generalizing earlier with
  | nil => simp
  | cons row rest ih =>
      rw [List.foldl_cons, ih, max_le_iff, List.forall_mem_cons, and_assoc]

theorem earlier_le_peak (earlier : Int) (rows : List QueueRow) :
    earlier ≤ peak runtime fields earlier rows := (peak_le.mp (le_refl _)).1

theorem length_le_peak (earlier : Int) {rows : List QueueRow} {row : QueueRow}
    (member : row ∈ rows) : row.length runtime fields ≤ peak runtime fields earlier rows :=
  (peak_le.mp (le_refl _)).2 row member

theorem peak_cons (earlier : Int) (row : QueueRow) (rest : List QueueRow) :
    peak runtime fields earlier (row :: rest) =
      peak runtime fields (max earlier (row.length runtime fields)) rest := rfl

theorem peak_attained (earlier : Int) (rows : List QueueRow) :
    peak runtime fields earlier rows = earlier ∨
      ∃ row ∈ rows, row.length runtime fields = peak runtime fields earlier rows := by
  induction rows generalizing earlier with
  | nil => exact .inl rfl
  | cons row rest ih =>
      rw [peak_cons]
      rcases ih (max earlier (row.length runtime fields)) with same | ⟨other, member, same⟩
      · rw [same]
        rcases max_choice earlier (row.length runtime fields) with kept | taken
        · exact .inl kept
        · exact .inr ⟨row, List.mem_cons_self, taken.symm⟩
      · exact .inr ⟨other, List.mem_cons_of_mem _ member, same⟩

/-- The variables of `summarize_queue_drain` after its loop. -/
structure Summarized (runtime : Runtime) (clock : Clock) (stop : DateTime) (before : DrainState)
    (rows : List QueueRow) (after : DrainState) : Prop where
  maxQueue : after.maxQueue = peak runtime queueFields before.maxQueue
    (Backlog.watchedFrom (QueueRow.busy runtime queueFields) (QueueRow.late clock stop.instant)
      before.firstNonzeroAfterEnd.isSome rows)
  nonzero : after.firstNonzeroAfterEnd = none ↔
    Backlog.watchFrom (QueueRow.busy runtime queueFields) before.firstNonzeroAfterEnd.isSome
      (rows.filter (QueueRow.late clock stop.instant)) = .never
  drainedAt : after.drainedAt.map DateTime.instant =
    (Backlog.watchFrom (QueueRow.busy runtime queueFields) before.firstNonzeroAfterEnd.isSome
      (rows.filter (QueueRow.late clock stop.instant))).item?.map (QueueRow.instant clock)
  zoned : ∀ time ∈ after.drainedAt, time.aware = stop.aware

section Summarized

variable {stop time : DateTime} {before after : DrainState} {row : QueueRow}
  {rest : List QueueRow}

theorem Summarized.nil (undrained : before.drainedAt = none) :
    Summarized runtime clock stop before [] before := by
  refine ⟨rfl, ?_, ?_, ?_⟩
  · cases before.firstNonzeroAfterEnd <;> simp [Backlog.watchFrom]
  · rw [undrained]
    cases before.firstNonzeroAfterEnd <;> rfl
  · simp [undrained]

theorem Summarized.early (ignored : QueueRow.late clock stop.instant row = false)
    (summarized : Summarized runtime clock stop
      { before with maxQueue := max before.maxQueue (row.length runtime queueFields) } rest after) :
    Summarized runtime clock stop before (row :: rest) after := by
  have skipped : (row :: rest).filter (QueueRow.late clock stop.instant) =
      rest.filter (QueueRow.late clock stop.instant) :=
    List.filter_cons_of_neg (by simp [ignored])
  refine ⟨?_, ?_, ?_, summarized.zoned⟩
  · rw [summarized.maxQueue, Backlog.watchedFrom, if_pos ignored, peak_cons]
  · rw [summarized.nonzero, skipped]
  · rw [summarized.drainedAt, skipped]

theorem Summarized.clears (counts : QueueRow.late clock stop.instant row = true)
    (same : time.aware = stop.aware) (instant : time.instant = row.instant clock)
    (idle : row.busy runtime queueFields = false)
    (seen : before.firstNonzeroAfterEnd.isSome = true) :
    Summarized runtime clock stop before (row :: rest)
      { maxQueue := max before.maxQueue (row.length runtime queueFields)
        firstNonzeroAfterEnd := before.firstNonzeroAfterEnd
        drainedAt := some time } := by
  refine ⟨?_, ?_, ?_, ?_⟩
  · simp [Backlog.watchedFrom, counts, idle, seen, peak]
  · rw [List.filter_cons_of_pos counts]
    simp [Backlog.watchFrom, idle, seen, Option.isSome_iff_ne_none.mp seen]
  · rw [List.filter_cons_of_pos counts]
    simp [Backlog.watchFrom, idle, seen, Backlog.item?, instant]
  · intro other drained
    cases drained
    exact same

theorem Summarized.next (counts : QueueRow.late clock stop.instant row = true)
    (waits : row.busy runtime queueFields = true ∨ before.firstNonzeroAfterEnd.isSome = false)
    (summarized : Summarized runtime clock stop
      { before with
        maxQueue := max before.maxQueue (row.length runtime queueFields)
        firstNonzeroAfterEnd := firstNonzero before.firstNonzeroAfterEnd time
          (row.length runtime queueFields) } rest after) :
    Summarized runtime clock stop before (row :: rest) after := by
  obtain ⟨maxQueue, first, drainedAt, zoned⟩ := summarized
  have seen : (firstNonzero before.firstNonzeroAfterEnd time
      (row.length runtime queueFields)).isSome =
        (row.busy runtime queueFields || before.firstNonzeroAfterEnd.isSome) :=
    firstNonzero_isSome ..
  rw [seen] at maxQueue first drainedAt
  have step : Backlog.watchFrom (QueueRow.busy runtime queueFields)
      before.firstNonzeroAfterEnd.isSome
        ((row :: rest).filter (QueueRow.late clock stop.instant)) =
        Backlog.watchFrom (QueueRow.busy runtime queueFields)
          (row.busy runtime queueFields || before.firstNonzeroAfterEnd.isSome)
          (rest.filter (QueueRow.late clock stop.instant)) := by
    rw [List.filter_cons_of_pos counts, Backlog.watchFrom]
    rcases waits with loud | fresh
    · simp [loud]
    · cases loud : row.busy runtime queueFields <;> simp [fresh]
  refine ⟨?_, ?_, ?_, zoned⟩
  · rw [maxQueue, Backlog.watchedFrom, counts, if_neg (Bool.false_ne_true ∘ Eq.symm), peak_cons]
    rcases waits with loud | fresh
    · simp [loud]
    · cases loud : row.busy runtime queueFields <;> simp [fresh]
  · rw [step, first]
  · rw [step, drainedAt]

end Summarized

theorem summarizeLoop_eq {stop : DateTime} (zoned : stop.aware = aware) {rows : List QueueRow}
    (reads : ∀ row ∈ rows, row.Reads runtime clock aware queueFields) (before : DrainState)
    (undrained : before.drainedAt = none) (trace : List Int) :
    ∃ after, (summarizeLoop runtime clock stop before rows trace).1 = .ok after ∧
      Summarized runtime clock stop before rows after := by
  induction rows generalizing before trace with
  | nil => exact ⟨before, rfl, .nil undrained⟩
  | cons row rest ih =>
      have atRow := reads row List.mem_cons_self
      have later := ih (fun other member => reads other (List.mem_cons_of_mem _ member))
      obtain ⟨time, parsed, zonedTime, instant⟩ := atRow.parseTime_eq
      have same : time.aware = stop.aware := zonedTime.trans zoned.symm
      obtain ⟨defaultLength, heavyLength, atDefault, atHeavy, total⟩ := atRow.counted.both
      simp only [summarizeLoop, parsed, atDefault, atHeavy, Traced.ofExcept_ok_bind, total,
        DateTime.lt_of_aware same, instant]
      by_cases early : row.instant clock < stop.instant
      · rw [if_pos (decide_eq_true early)]
        obtain ⟨after, ran, summarized⟩ := later { before with
          maxQueue := max before.maxQueue (row.length runtime queueFields) } undrained trace
        exact ⟨after, ran, summarized.early (by simpa [QueueRow.late] using early)⟩
      · have counts : QueueRow.late clock stop.instant row = true := by
          simpa [QueueRow.late] using early
        rw [if_neg (by simpa using early)]
        simp only [Traced.bind_ok (show Traced.record (row.instant clock) trace = _ from rfl)]
        split
        · rename_i clears
          have kept := firstNonzero_zero before.firstNonzeroAfterEnd time clears.2
          rw [kept] at clears ⊢
          exact ⟨_, rfl, .clears counts same instant
            (atRow.counted.length_eq_zero.mp clears.2) (Option.isSome_iff_ne_none.mpr clears.1)⟩
        · rename_i waits
          obtain ⟨after, ran, summarized⟩ := later { before with
            maxQueue := max before.maxQueue (row.length runtime queueFields)
            firstNonzeroAfterEnd := firstNonzero before.firstNonzeroAfterEnd time
              (row.length runtime queueFields) } undrained (trace ++ [row.instant clock])
          refine ⟨after, ran, summarized.next counts ?_⟩
          cases loud : row.busy runtime queueFields with
          | true => exact .inl rfl
          | false =>
              have zero := atRow.counted.length_eq_zero.mpr loud
              rw [firstNonzero_zero _ _ zero] at waits
              right
              cases first : before.firstNonzeroAfterEnd with
              | none => rfl
              | some earlier => exact absurd ⟨by simp [first], zero⟩ waits

/-! ### The functions -/

section Functions

variable {rows : List QueueRow} {runStartedAt duration : Option Str} {stop : Int}

theorem Ends.present (ends : Ends clock aware runStartedAt duration stop) (some : rows ≠ []) :
    (rows.isEmpty || isMissing runStartedAt || isMissing duration) = false := by
  rw [ends.started, ends.lasted, Bool.or_false, Bool.or_false]
  exact List.isEmpty_eq_false_iff.mpr some

theorem sortRows_ne_nil (some : rows ≠ []) : sortRows rows ≠ [] := by
  obtain ⟨row, member⟩ := List.exists_mem_of_ne_nil rows some
  exact List.ne_nil_of_mem (mem_sortRows.mpr member)

/-- What both computations do with rows if the load has no end, or none that
can be compared with their timestamps. -/
def endless {α : Type} (clock : Clock) (runStartedAt duration : Option Str) :
    Except Exn (Option α) :=
  if isMissing runStartedAt || isMissing duration then .ok none
  else
    match submissionEnd clock (runStartedAt.getD []) (duration.getD []) with
    | .error raised => .error raised
    | .ok _ => .error .typeError

theorem mixed_of_endless {ending : DateTime}
    (noEnd : ∀ stop, ¬ Ends clock aware runStartedAt duration stop)
    (present : (isMissing runStartedAt || isMissing duration) = false)
    (ended : submissionEnd clock (runStartedAt.getD []) (duration.getD []) = .ok ending) :
    aware ≠ ending.aware := by
  intro same
  exact noEnd ending.instant ⟨(Bool.or_eq_false_iff.mp present).1,
    (Bool.or_eq_false_iff.mp present).2, ending, ended, same.symm, rfl⟩

theorem calculateLoop_mixed {stop : DateTime} (mixed : aware ≠ stop.aware) (some : rows ≠ [])
    (reads : ∀ row ∈ rows, row.Reads runtime clock aware fields) (first : Option DateTime)
    (trace : List Int) :
    (calculateLoop runtime clock fields stop first rows trace).1 = .error .typeError := by
  cases rows with
  | nil => exact absurd rfl some
  | cons row rest =>
      obtain ⟨time, parsed, zoned, _⟩ := (reads row List.mem_cons_self).parseTime_eq
      rw [calculateLoop, parsed, Traced.ofExcept_ok_bind,
        DateTime.lt_of_mixed (by rw [zoned]; exact mixed), Traced.ofExcept_error_bind]
      rfl

theorem summarizeLoop_mixed {stop : DateTime} (mixed : aware ≠ stop.aware) (some : rows ≠ [])
    (reads : ∀ row ∈ rows, row.Reads runtime clock aware queueFields) (state : DrainState)
    (trace : List Int) :
    (summarizeLoop runtime clock stop state rows trace).1 = .error .typeError := by
  cases rows with
  | nil => exact absurd rfl some
  | cons row rest =>
      have atRow := reads row List.mem_cons_self
      obtain ⟨time, parsed, zoned, _⟩ := atRow.parseTime_eq
      obtain ⟨defaultLength, heavyLength, atDefault, atHeavy, _⟩ := atRow.counted.both
      simp only [summarizeLoop, parsed, atDefault, atHeavy, Traced.ofExcept_ok_bind,
        DateTime.lt_of_mixed (show time.aware ≠ stop.aware by rw [zoned]; exact mixed),
        Traced.ofExcept_error_bind, Traced.ofExcept_apply]

theorem calculateDrainSeconds_endless (some : rows ≠ [])
    (noEnd : ∀ stop, ¬ Ends clock aware runStartedAt duration stop)
    (reads : ∀ row ∈ rows, row.Reads runtime clock aware fields) (trace : List Int) :
    (calculateDrainSeconds runtime clock rows fields runStartedAt duration trace).1 =
      endless clock runStartedAt duration := by
  unfold calculateDrainSeconds endless
  rw [List.isEmpty_eq_false_iff.mpr some, Bool.false_or]
  split
  · rfl
  · rename_i present
    cases ended : submissionEnd clock (runStartedAt.getD []) (duration.getD []) with
    | error raised => rfl
    | ok ending =>
        have mixed := mixed_of_endless noEnd (Bool.eq_false_iff.mpr present) ended
        exact calculateLoop_mixed mixed (sortRows_ne_nil some)
          (fun row member => reads row (mem_sortRows.mp member)) none trace

theorem summarizeQueueDrain_endless (some : rows ≠ [])
    (noEnd : ∀ stop, ¬ Ends clock aware runStartedAt duration stop)
    (reads : ∀ row ∈ rows, row.Reads runtime clock aware queueFields) (trace : List Int) :
    (summarizeQueueDrain runtime clock rows runStartedAt duration trace).1 =
      endless clock runStartedAt duration := by
  unfold summarizeQueueDrain endless
  rw [List.isEmpty_eq_false_iff.mpr some, Bool.false_or]
  split
  · rfl
  · rename_i present
    cases ended : submissionEnd clock (runStartedAt.getD []) (duration.getD []) with
    | error raised => rfl
    | ok ending =>
        have mixed := mixed_of_endless noEnd (Bool.eq_false_iff.mpr present) ended
        have raised := summarizeLoop_mixed mixed (sortRows_ne_nil some)
          (fun row member => reads row (mem_sortRows.mp member)) ⟨0, none, none⟩ trace
        rw [Traced.ofExcept_ok_bind, Traced.bind_error (Prod.ext raised rfl)]

theorem endless_ne_some {α : Type} {found : α} :
    endless clock runStartedAt duration ≠ .ok (.some found) := by
  unfold endless
  split
  · intro same
    cases same
  · cases submissionEnd clock (runStartedAt.getD []) (duration.getD []) <;>
      · intro same
        cases same

theorem calculateDrainSeconds_eq (some : rows ≠ [])
    (ends : Ends clock aware runStartedAt duration stop)
    (reads : ∀ row ∈ rows, row.Reads runtime clock aware fields) (trace : List Int) :
    (calculateDrainSeconds runtime clock rows fields runStartedAt duration trace).1 =
      .ok (drainSeconds clock stop (watchRows runtime clock fields stop rows)) := by
  obtain ⟨ending, ended, zoned, rfl⟩ := ends.ends
  unfold calculateDrainSeconds
  rw [ends.present some, if_neg Bool.false_ne_true, ended, Traced.ofExcept_ok_bind]
  exact calculateLoop_eq zoned (fun row member => reads row (mem_sortRows.mp member)) none trace

/-- If the rows that are seen are all empty, nothing was busy after the load. -/
theorem watchRows_eq_never
    (unseen : peak runtime queueFields 0 (watchedRows runtime clock stop rows) = 0) :
    watchRows runtime clock queueFields stop rows = .never := by
  by_contra reported
  obtain ⟨row, member, loud⟩ := Backlog.exists_busy_watched reported
  have empty := (peak_le.mp (le_of_eq unseen)).2 row member
  have positive : 0 < row.length runtime queueFields := of_decide_eq_true loud
  omega

theorem watchedRows_all
    (uncleared : ∀ row, watchRows runtime clock queueFields stop rows ≠ .cleared row) :
    watchedRows runtime clock stop rows = sortRows rows :=
  Backlog.watchedFrom_all uncleared

theorem watchedRows_clears {before after : List QueueRow} {row : QueueRow}
    (split : sortRows rows = before ++ row :: after)
    (isOpen : Backlog.IsOpen (QueueRow.busy runtime queueFields)
      (before.filter (QueueRow.late clock stop)))
    (late : stop ≤ row.instant clock) (idle : row.busy runtime queueFields = false) :
    watchedRows runtime clock stop rows = before ++ [row] := by
  rw [watchedRows, split]
  exact Backlog.watchedFrom_clears isOpen (decide_eq_true late) idle

theorem watchRows_ne_never (stop : Int)
    (reads : ∀ row ∈ rows, row.Reads runtime clock aware fields) :
    watchRows runtime clock fields stop rows ≠ .never ↔
      ∃ row ∈ rows, stop ≤ row.instant clock ∧ row.length runtime fields ≠ 0 := by
  rw [watchRows, ne_eq, Backlog.watch_eq_never]
  push Not
  constructor
  · intro ⟨row, member, loud⟩
    obtain ⟨known, late⟩ := mem_lateRows.mp member
    exact ⟨row, known, late, fun empty => loud ((reads row known).counted.length_eq_zero.mp empty)⟩
  · intro ⟨row, known, late, loud⟩
    exact ⟨row, mem_lateRows.mpr ⟨known, late⟩,
      fun idle => loud ((reads row known).counted.length_eq_zero.mpr idle)⟩

theorem drainSecondsOf_eq {ending : DateTime} {after : DrainState}
    (summarized : Summarized runtime clock ending ⟨0, none, none⟩ (sortRows rows) after) :
    drainSecondsOf ending after = .ok (drainSeconds clock ending.instant
      (watchRows runtime clock queueFields ending.instant rows)) := by
  have maxQueue : after.maxQueue =
    peak runtime queueFields 0 (watchedRows runtime clock ending.instant rows) :=
      summarized.maxQueue
  have nonzero : after.firstNonzeroAfterEnd = none ↔
    watchRows runtime clock queueFields ending.instant rows = .never := summarized.nonzero
  have drainedAt : after.drainedAt.map DateTime.instant =
    (watchRows runtime clock queueFields ending.instant rows).item?.map
      (QueueRow.instant clock) := summarized.drainedAt
  unfold drainSecondsOf
  by_cases unseen : after.maxQueue = 0
  · rw [if_pos unseen, watchRows_eq_never (maxQueue ▸ unseen)]
    rfl
  · rw [if_neg unseen]
    cases report : watchRows runtime clock queueFields ending.instant rows with
    | never => rw [if_pos (nonzero.mpr report)]; rfl
    | pending =>
        rw [report] at drainedAt
        rw [if_neg (fun first => by rw [nonzero.mp first] at report; cases report),
          Option.map_eq_none_iff.mp drainedAt]
        rfl
    | cleared row =>
        rw [report] at drainedAt
        obtain ⟨time, drained, instant⟩ := Option.map_eq_some_iff.mp drainedAt
        rw [if_neg (fun first => by rw [nonzero.mp first] at report; cases report), drained]
        dsimp only
        rw [secondsAfter_eq (summarized.zoned time drained), instant]
        rfl

theorem summarizeQueueDrain_eq (some : rows ≠ [])
    (ends : Ends clock aware runStartedAt duration stop)
    (reads : ∀ row ∈ rows, row.Reads runtime clock aware queueFields) (trace : List Int) :
    (summarizeQueueDrain runtime clock rows runStartedAt duration trace).1 =
      .ok (.some (queueSummary runtime clock stop rows)) := by
  obtain ⟨ending, ended, zoned, rfl⟩ := ends.ends
  obtain ⟨after, ran, summarized⟩ := summarizeLoop_eq zoned
    (fun row member => reads row (mem_sortRows.mp member)) ⟨0, none, none⟩ rfl trace
  have same : summaryOf ending after =
      .ok (queueSummary runtime clock ending.instant rows) := by
    have maxQueue : after.maxQueue =
      peak runtime queueFields 0 (watchedRows runtime clock ending.instant rows) :=
        summarized.maxQueue
    have drained : after.drainedAt.isSome =
        (watchRows runtime clock queueFields ending.instant rows).item?.isSome := by
      have instants := congrArg Option.isSome summarized.drainedAt
      rw [Option.isSome_map, Option.isSome_map] at instants
      exact instants
    rw [summaryOf, drainSecondsOf_eq summarized, maxQueue, drained]
    rfl
  unfold summarizeQueueDrain
  rw [ends.present some, if_neg Bool.false_ne_true, ended, Traced.ofExcept_ok_bind]
  rw [Traced.bind_of_ok ran, same]
  rfl

theorem summarizeQueueDrain_ok_iff (some : rows ≠ [])
    (reads : ∀ row ∈ rows, row.Reads runtime clock aware queueFields) {summary : QueueSummary}
    {trace : List Int} :
    (summarizeQueueDrain runtime clock rows runStartedAt duration trace).1 = .ok (.some summary) ↔
      ∃ stop, Ends clock aware runStartedAt duration stop ∧
        summary = queueSummary runtime clock stop rows := by
  constructor
  · intro returned
    by_cases ended : ∃ stop, Ends clock aware runStartedAt duration stop
    · obtain ⟨stop, ends⟩ := ended
      rw [summarizeQueueDrain_eq some ends reads] at returned
      cases returned
      exact ⟨stop, ends, rfl⟩
    · push Not at ended
      rw [summarizeQueueDrain_endless some ended reads] at returned
      exact absurd returned endless_ne_some
  · rintro ⟨stop, ends, rfl⟩
    exact summarizeQueueDrain_eq some ends reads trace

end Functions

end ImagePipeline.Benchmark
