/-
The end of the load as the analyses reconstruct it. They add the duration to
`run_started_at`, which the runner reads before it starts the monitors and before
the warm-up; k6 submits from after these waits on. So the end is early by the
waits, and right only for the samples outside that window.
-/

import ImagePipeline.Benchmark.ClusterRunner
import ImagePipeline.Benchmark.Samples

namespace ImagePipeline.Properties.LoadEnd

open Common Benchmark
open Library (Traced)
open Library.Traced (RecordsOnly)

variable {runtime : Runtime} {clock : Clock}

/-- An instant of one of the rows, at or after the given end. -/
def AtOrAfter (clock : Clock) (rows : List QueueRow) (stop instant : Int) : Prop :=
  stop ≤ instant ∧
    ∃ row ∈ rows, ∃ time, clock.parseTime row.timestamp = .ok time ∧ time.instant = instant

theorem AtOrAfter.cons {row : QueueRow} {rows : List QueueRow} {stop instant : Int}
    (later : AtOrAfter clock rows stop instant) : AtOrAfter clock (row :: rows) stop instant := by
  obtain ⟨after, other, member, parsed⟩ := later
  exact ⟨after, other, List.mem_cons_of_mem _ member, parsed⟩

/-- A row that is not taken to be early is from the end or from later. -/
theorem atOrAfter_head {row : QueueRow} {rest : List QueueRow} {timestamp stop : DateTime}
    {early : Bool} (parsed : clock.parseTime row.timestamp = .ok timestamp)
    (compared : timestamp.lt stop = .ok early) (notEarly : ¬ early = true) :
    AtOrAfter clock (row :: rest) stop.instant timestamp.instant := by
  rw [DateTime.lt_eq_ok compared, decide_eq_true_iff, not_lt] at notEarly
  exact ⟨notEarly, row, List.mem_cons_self, timestamp, parsed, rfl⟩

theorem summarizeLoop_records (stop : DateTime) (state : DrainState) (rows : List QueueRow) :
    RecordsOnly (AtOrAfter clock rows stop.instant)
      (summarizeLoop runtime clock stop state rows) := by
  induction rows generalizing state with
  | nil => exact .pure state
  | cons row rest ih =>
      refine .ofExcept_bind fun timestamp parsed => .ofExcept_bind fun defaultLength _ =>
        .ofExcept_bind fun heavyLength _ => .ofExcept_bind fun early compared => ?_
      have later (next : DrainState) : RecordsOnly (AtOrAfter clock (row :: rest) stop.instant)
          (summarizeLoop runtime clock stop next rest) := (ih next).mono fun _ => AtOrAfter.cons
      split
      · exact later _
      · rename_i notEarly
        have now : AtOrAfter clock (row :: rest) stop.instant timestamp.instant :=
          atOrAfter_head parsed compared notEarly
        refine .bind (.record now) fun _ => ?_
        dsimp only
        split
        · exact .pure _
        · exact later _

theorem calculateLoop_records (queueFields : List Str) (stop : DateTime) (first : Option DateTime)
    (rows : List QueueRow) :
    RecordsOnly (AtOrAfter clock rows stop.instant)
      (calculateLoop runtime clock queueFields stop first rows) := by
  induction rows generalizing first with
  | nil => exact .pure _
  | cons row rest ih =>
      refine .ofExcept_bind fun timestamp parsed => .ofExcept_bind fun early compared => ?_
      have later (next : Option DateTime) :
          RecordsOnly (AtOrAfter clock (row :: rest) stop.instant)
            (calculateLoop runtime clock queueFields stop next rest) :=
        (ih next).mono fun _ => AtOrAfter.cons
      split
      · exact later _
      · rename_i notEarly
        have now : AtOrAfter clock (row :: rest) stop.instant timestamp.instant :=
          atOrAfter_head parsed compared notEarly
        refine .bind (.record now) fun _ => .ofExcept_bind fun length _ => ?_
        dsimp only
        split
        · exact .ofExcept _
        · exact later _

/-- Both drain computations take only rows of theirs to be after the end, and
only those that are at or after the `submission_end`. -/
theorem summarize_records {rows : List QueueRow} {runStartedAt duration : Option Str}
    {stop : DateTime}
    (ends : submissionEnd clock (runStartedAt.getD []) (duration.getD []) = .ok stop) :
    RecordsOnly (AtOrAfter clock rows stop.instant)
      (summarizeQueueDrain runtime clock rows runStartedAt duration) := by
  unfold summarizeQueueDrain
  split
  · exact .pure _
  · rw [ends]
    refine .ofExcept_bind fun other same => ?_
    cases same
    refine .bind ((summarizeLoop_records stop _ _).mono ?_) fun state =>
      .ofExcept_bind fun summary _ => .pure _
    intro instant ⟨after, row, member, parsed⟩
    exact ⟨after, row, mem_sortRows.mp member, parsed⟩

theorem calculate_records {rows : List QueueRow} (queueFields : List Str)
    {runStartedAt duration : Option Str}
    {stop : DateTime}
    (ends : submissionEnd clock (runStartedAt.getD []) (duration.getD []) = .ok stop) :
    RecordsOnly (AtOrAfter clock rows stop.instant)
      (calculateDrainSeconds runtime clock rows queueFields runStartedAt duration) := by
  unfold calculateDrainSeconds
  split
  · exact .pure _
  · rw [ends]
    refine .ofExcept_bind fun other same => ?_
    cases same
    refine (calculateLoop_records queueFields stop none _).mono ?_
    intro instant ⟨after, row, member, parsed⟩
    exact ⟨after, row, mem_sortRows.mp member, parsed⟩

/-- The clock reads the text back that it wrote for an instant, as one in UTC. -/
def ReadsBack (clock : Clock) (instant : Int) : Prop :=
  clock.isoFormat instant ≠ [] ∧
    (clock.parseTime (clock.isoFormat instant)).map (fun time => (time.wall, time.offset)) =
      .ok (instant, some 0)

theorem ReadsBack.parseTime_eq {instant : Int} (reads : ReadsBack clock instant) :
    ∃ time, clock.parseTime (clock.isoFormat instant) = .ok time ∧ time.wall = instant ∧
      time.instant = instant := by
  have back := reads.2
  cases parsed : clock.parseTime (clock.isoFormat instant) with
  | error raised =>
      rw [parsed] at back
      cases back
  | ok time =>
      rw [parsed] at back
      obtain ⟨wall, offset⟩ := Prod.mk.inj (Except.ok.inj back)
      refine ⟨time, rfl, wall, ?_⟩
      rw [DateTime.instant, wall, offset]
      exact sub_zero instant

/-- k6 submits for as long as the analyses take the duration to be. -/
def SubmitsFor (clock : Clock) (run : ClusterRun) : Prop :=
  run.duration ≠ [] ∧ loadTime clock run.duration = .ok run.submissionTime

/-- The `run_started_at` of the configuration file. -/
def startText (clock : Clock) (run : ClusterRun) : Str := clock.isoFormat run.main.runStartedAt

def sampledRows (clock : Clock) (samples : List Sample) : List QueueRow :=
  samples.map (fun sample => sample.row clock)

/-- No analysis takes a sample to be from after the load that was taken before
k6 stopped submitting. -/
structure NeverEarly (runtime : Runtime) (clock : Clock) (run : ClusterRun)
    (samples : List Sample) : Prop where
  summarized : ∀ instant ∈ (summarizeQueueDrain runtime clock (sampledRows clock samples)
    (some (startText clock run)) (some run.duration) []).2, run.main.submissionStopped ≤ instant
  calculated : ∀ queueFields, ∀ instant ∈ (calculateDrainSeconds runtime clock
    (sampledRows clock samples) queueFields (some (startText clock run)) (some run.duration) []).2,
    run.main.submissionStopped ≤ instant
  marked : ∀ loadEnd, getLoadEndTime clock (some (startText clock run)) (some run.duration) =
    .ok (some loadEnd) → ∀ instant,
      AtOrAfter clock (sampledRows clock samples) loadEnd.instant instant →
        run.main.submissionStopped ≤ instant

/-- A sample from before the reconstructed end or from after the real one. -/
def OutsideWaits (run : ClusterRun) (sample : Sample) : Prop :=
  sample.time < run.now + run.submissionTime ∨
    run.now + run.waits + run.submissionTime ≤ sample.time

section Run

variable {run : ClusterRun}

theorem submissionEnd_eq (start : ReadsBack clock run.now) (submits : SubmitsFor clock run)
    (atEnd : ReadsBack clock (run.now + run.submissionTime)) :
    ∃ ending, submissionEnd clock (startText clock run) run.duration = .ok ending ∧
      ending.instant = run.now + run.submissionTime := by
  obtain ⟨time, parsed, wall, instant⟩ := start.parseTime_eq
  obtain ⟨last, _, wallLast, _⟩ := atEnd.parseTime_eq
  have parsed : clock.parseTime (startText clock run) = .ok time := parsed
  have inRange := last.inRange
  rw [wallLast, ← wall] at inRange
  have added := DateTime.add_of_inRange inRange
  refine ⟨_, ?_, (DateTime.add_eq_ok added).2.trans (by rw [instant])⟩
  rw [submissionEnd, parsed, submits.2]
  exact added

theorem getLoadEndTime_eq {ending : DateTime} (start : ReadsBack clock run.now)
    (submits : SubmitsFor clock run)
    (ended : submissionEnd clock (startText clock run) run.duration = .ok ending) :
    getLoadEndTime clock (some (startText clock run)) (some run.duration) =
      .ok (some ending) := by
  have present : (isMissing (some (startText clock run)) || isMissing (some run.duration)) =
      false := by
    rw [Bool.or_eq_false_iff]
    exact ⟨decide_eq_false start.1, decide_eq_false submits.1⟩
  rw [getLoadEndTime, present, if_neg Bool.false_ne_true, Option.getD_some, Option.getD_some,
    ended]
  rfl

theorem atOrAfter_sampled {samples : List Sample} {stop instant : Int}
    (reads : ∀ sample ∈ samples, ReadsBack clock sample.time) :
    AtOrAfter clock (sampledRows clock samples) stop instant ↔
      stop ≤ instant ∧ ∃ sample ∈ samples, sample.time = instant := by
  constructor
  · intro ⟨after, row, member, time, parsed, same⟩
    obtain ⟨sample, present, rfl⟩ := List.mem_map.mp member
    obtain ⟨back, parsedBack, _, instantBack⟩ := (reads sample present).parseTime_eq
    cases parsedBack.symm.trans parsed
    exact ⟨after, sample, present, instantBack.symm.trans same⟩
  · rintro ⟨after, sample, present, rfl⟩
    obtain ⟨back, parsedBack, _, instantBack⟩ := (reads sample present).parseTime_eq
    exact ⟨after, sample.row clock, List.mem_map.mpr ⟨sample, present, rfl⟩, back, parsedBack,
      instantBack⟩

/-- On given samples the end is never early exactly if none of them falls into
the window that the waits open. -/
theorem neverEarly_iff_outside (start : ReadsBack clock run.now) (submits : SubmitsFor clock run)
    (atEnd : ReadsBack clock (run.now + run.submissionTime)) {samples : List Sample}
    (reads : ∀ sample ∈ samples, ReadsBack clock sample.time) :
    NeverEarly runtime clock run samples ↔ ∀ sample ∈ samples, OutsideWaits run sample := by
  have stopped := run.submissionStopped_eq
  obtain ⟨ending, ended, instantEnd⟩ := submissionEnd_eq start submits atEnd
  have ends : submissionEnd clock ((some (startText clock run)).getD [])
      ((some run.duration).getD []) = .ok ending := ended
  have marker := getLoadEndTime_eq start submits ended
  constructor
  · intro never sample member
    rcases lt_or_ge sample.time (run.now + run.submissionTime) with before | after
    · exact .inl before
    · right
      rw [← stopped]
      exact never.marked ending marker sample.time
        ((atOrAfter_sampled reads).mpr ⟨by omega, sample, member, rfl⟩)
  · intro outside
    have late (instant : Int)
        (after : AtOrAfter clock (sampledRows clock samples) ending.instant instant) :
        run.main.submissionStopped ≤ instant := by
      obtain ⟨notBefore, sample, member, rfl⟩ := (atOrAfter_sampled reads).mp after
      rcases outside sample member with before | fine
      · omega
      · rw [stopped]
        exact fine
    constructor
    · intro instant recorded
      exact late instant ((summarize_records ends).from_empty instant recorded)
    · intro queueFields instant recorded
      exact late instant ((calculate_records queueFields ends).from_empty instant recorded)
    · intro loadEnd same instant after
      rw [marker] at same
      cases same
      exact late instant after

/-- The end is never early on any samples exactly if `main` waits for nothing;
on given samples, exactly if none of them falls into the window of the waits. -/
theorem load_end_never_early_iff (start : ReadsBack clock run.now)
    (submits : SubmitsFor clock run)
    (atEnd : ReadsBack clock (run.now + run.submissionTime)) :
    (∀ samples : List Sample, (∀ sample ∈ samples, ReadsBack clock sample.time) →
      (NeverEarly runtime clock run samples ↔ ∀ sample ∈ samples, OutsideWaits run sample)) ∧
    ((∀ samples : List Sample, (∀ sample ∈ samples, ReadsBack clock sample.time) →
      NeverEarly runtime clock run samples) ↔ run.waits = 0) := by
  have outside (samples : List Sample)
      (reads : ∀ sample ∈ samples, ReadsBack clock sample.time) :
      NeverEarly runtime clock run samples ↔ ∀ sample ∈ samples, OutsideWaits run sample :=
    neverEarly_iff_outside start submits atEnd reads
  refine ⟨outside, ?_, ?_⟩
  · intro never
    -- a sample from the reconstructed end itself
    have reads : ∀ sample ∈ [(⟨run.now + run.submissionTime, [], none⟩ : Sample)],
        ReadsBack clock sample.time := by
      intro sample member
      rw [List.mem_singleton.mp member]
      exact atEnd
    have late := (outside _ reads).mp (never _ reads) _ List.mem_cons_self
    unfold OutsideWaits at late
    simp only at late
    omega
  · intro instantly samples reads
    refine (outside samples reads).mpr ?_
    intro sample member
    unfold OutsideWaits
    omega

end Run

/-! ### A minute of load -/

theorem earlySecond_inRange (second : Fin 120) :
    -62135596800000000 ≤ (second.val : Int) * 1000000 ∧
      (second.val : Int) * 1000000 < 253402300800000000 := by
  omega

def earlySecond (second : Fin 120) : DateTime :=
  { wall := (second.val : Int) * 1000000
    offset := some 0
    inRange := earlySecond_inRange second
    withinDay := DateTime.withinDay_utc }

/-- Python's clock and numbers on the texts of the run below. -/
def minuteClock : Clock :=
  { fromIsoFormat := fun text =>
      if text = str "1970-01-01T00:00:00+00:00" then some (earlySecond 0)
      else if text = str "1970-01-01T00:01:00+00:00" then some (earlySecond 60)
      else if text = str "1970-01-01T00:01:01+00:00" then some (earlySecond 61)
      else if text = str "1970-01-01T00:01:02+00:00" then some (earlySecond 62)
      else none
    isoFormat := fun instant =>
      if instant = 0 then str "1970-01-01T00:00:00+00:00"
      else if instant = 60000000 then str "1970-01-01T00:01:00+00:00"
      else if instant = 61000000 then str "1970-01-01T00:01:01+00:00"
      else if instant = 62000000 then str "1970-01-01T00:01:02+00:00"
      else []
    localOffset := fun _ => 0
    lower := fun text => text
    floatOfStr := fun text => if text = str "1" then some (.finite 1) else none }

/-- `int` on the lengths of the run below. -/
def lengthRuntime : Runtime :=
  { intOfStr := fun text =>
      if text = str "0" then some 0 else if text = str "7" then some 7 else none
    floatRepr := fun _ => []
    sha256 := fun _ => [] }

/-- One node whose monitor takes two seconds to start, and three seconds of
warm-up. -/
def minuteRun : ClusterRun :=
  { now := 0
    configTime := 0
    monitorTimes := [2000000]
    monitorWarmup := 3000000
    duration := str "1m"
    submissionTime := 60000000 }

/-- Two samples that are taken while k6 still submits. -/
def underLoad : List Sample :=
  [⟨61000000, str "main", some (7, 0)⟩, ⟨62000000, str "main", some (0, 0)⟩]

theorem minuteClock_reads :
    ReadsBack minuteClock 0 ∧ ReadsBack minuteClock 60000000 ∧
      ∀ sample ∈ underLoad, ReadsBack minuteClock sample.time := by
  unfold ReadsBack
  decide +kernel

theorem minuteRun_submits : SubmitsFor minuteClock minuteRun := by
  unfold SubmitsFor
  decide +kernel

/-- Three seconds before k6 stops, the report has the queues drained two seconds
after the end of the load. -/
theorem underLoad_taken_as_drained :
    ¬ NeverEarly lengthRuntime minuteClock minuteRun underLoad ∧
    minuteRun.main.submissionStopped = 65000000 ∧
    ∃ summary, (summarizeQueueDrain lengthRuntime minuteClock (sampledRows minuteClock underLoad)
      (some (startText minuteClock minuteRun)) (some minuteRun.duration) []).1 = .ok (some summary) ∧
      summary.queueDrained = true ∧ summary.queueDrainSeconds = some (.finite 2) := by
  have recorded : (summarizeQueueDrain lengthRuntime minuteClock
      (sampledRows minuteClock underLoad) (some (startText minuteClock minuteRun))
      (some minuteRun.duration) []).2 = [61000000, 62000000] := by decide +kernel
  refine ⟨?_, by decide +kernel, ⟨7, some (.finite 2), true⟩, ?_, rfl, rfl⟩
  · intro never
    have late := never.summarized 61000000 (by rw [recorded]; exact List.mem_cons_self)
    exact absurd late (by decide +kernel)
  · decide +kernel

theorem load_end_never_early_iff_minute :
    ¬ ∀ samples : List Sample, (∀ sample ∈ samples, ReadsBack minuteClock sample.time) →
      NeverEarly lengthRuntime minuteClock minuteRun samples := by
  intro never
  have waits := (load_end_never_early_iff minuteClock_reads.1 minuteRun_submits
    minuteClock_reads.2.1).2.mp never
  exact absurd waits (by decide)

end ImagePipeline.Properties.LoadEnd
