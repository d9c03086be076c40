/-
The duration that k6 is given against the one that the analysis reads: one
string for both, in two languages.
-/

import ImagePipeline.Benchmark.Durations
import ImagePipeline.Benchmark.Samples

namespace ImagePipeline.Properties.DurationStrings

open Common Benchmark

/-- The analysis takes the duration for these seconds, and if `datetime` has the
end of the load, it comes to its end on all rows that can be read. -/
structure MeansTheSame (runtime : Runtime) (clock : Clock) (duration : Duration)
    (seconds : PyFloat) : Prop where
  parsed : parseDurationSeconds clock duration.text = .ok seconds
  lasts : ∃ delta, timedelta seconds = .ok delta ∧
    ∀ startedAt start ending, startedAt ≠ [] → clock.parseTime startedAt = .ok start →
      start.add delta = .ok ending →
        getLoadEndTime clock (some startedAt) (some duration.text) = .ok (some ending) ∧
        (∀ rows : List QueueRow,
          (∀ row ∈ rows, row.Reads runtime clock start.aware queueFields) →
            ∃ summary, (summarizeQueueDrain runtime clock rows (some startedAt)
              (some duration.text) []).1 = .ok summary) ∧
        ∀ (rows : List QueueRow) (fields : List Str),
          (∀ row ∈ rows, row.Reads runtime clock start.aware fields) →
            ∃ drained, (calculateDrainSeconds runtime clock rows fields (some startedAt)
              (some duration.text) []).1 = .ok drained

section Durations

variable {runtime : Runtime} {clock : Clock} {duration : Duration}

theorem isMissing_of_ne_nil {text : Str} (present : text ≠ []) : isMissing (some text) = false :=
  decide_eq_false present

theorem ends_of_parsed {seconds : PyFloat} {delta : Int} {startedAt : Str}
    {start ending : DateTime} (parsed : parseDurationSeconds clock duration.text = .ok seconds)
    (lasts : timedelta seconds = .ok delta) (present : startedAt ≠ [])
    (started : clock.parseTime startedAt = .ok start) (ended : start.add delta = .ok ending) :
    submissionEnd clock startedAt duration.text = .ok ending ∧
      Ends clock start.aware (some startedAt) (some duration.text) ending.instant := by
  have computed : submissionEnd clock startedAt duration.text = .ok ending := by
    unfold submissionEnd loadTime
    rw [started, parsed]
    dsimp only
    rw [lasts]
    exact ended
  exact ⟨computed, isMissing_of_ne_nil present, isMissing_of_ne_nil duration.text_ne_nil, ending,
    computed, (DateTime.add_eq_ok ended).1, rfl⟩

theorem getLoadEndTime_of_end {startedAt : Str} {ending : DateTime} (present : startedAt ≠ [])
    (computed : submissionEnd clock startedAt duration.text = .ok ending) :
    getLoadEndTime clock (some startedAt) (some duration.text) = .ok (some ending) := by
  unfold getLoadEndTime
  rw [isMissing_of_ne_nil present, isMissing_of_ne_nil duration.text_ne_nil, Bool.or_false,
    if_neg Bool.false_ne_true, Option.getD_some, Option.getD_some, computed]
  rfl

theorem meansTheSame_of_read (reads : ReadsDuration clock duration) {seconds : PyFloat}
    (read : duration.read = some seconds) : MeansTheSame runtime clock duration seconds := by
  have parsed : parseDurationSeconds clock duration.text = .ok seconds := by
    rw [parseDurationSeconds_eq reads, read]
  obtain ⟨value, finite, nonneg, bounded⟩ := Duration.read_bounded read
  have lasts : timedelta seconds = .ok (microseconds value) := by
    rw [finite]
    exact timedelta_finite nonneg bounded
  refine ⟨parsed, _, lasts, ?_⟩
  intro startedAt start ending present started ended
  obtain ⟨computed, ends⟩ := ends_of_parsed parsed lasts present started ended
  refine ⟨getLoadEndTime_of_end present computed, ?_, ?_⟩
  · intro rows readable
    by_cases empty : rows = []
    · rw [empty]
      exact ⟨none, rfl⟩
    · exact ⟨_, summarizeQueueDrain_eq empty ends readable []⟩
  · intro rows fields readable
    by_cases empty : rows = []
    · rw [empty]
      exact ⟨none, rfl⟩
    · exact ⟨_, calculateDrainSeconds_eq empty ends readable []⟩

/-- The analysis reads one number with one unit other than hours, rounded as
doubles are, and rejects every other duration. Nothing is rounded if the number
and the seconds it denotes are doubles. -/
theorem means_the_same_iff (reads : ReadsDuration clock duration) :
    (∀ seconds, MeansTheSame runtime clock duration seconds ↔ duration.read = some seconds) ∧
    (duration.read = none → parseDurationSeconds clock duration.text = .error .valueError) ∧
    ∀ part, duration.parts = [part] → part.unit ≠ .h →
      PyFloat.ofRat part.number.value = .finite part.number.value →
      PyFloat.ofRat duration.seconds = .finite duration.seconds →
        duration.read = some (.finite duration.seconds) := by
  have parsed := parseDurationSeconds_eq reads
  refine ⟨fun seconds => ⟨?_, meansTheSame_of_read reads⟩, ?_, ?_⟩
  · intro same
    have returned := same.parsed
    rw [parsed] at returned
    cases read : duration.read with
    | none =>
        rw [read] at returned
        cases returned
    | some found =>
        rw [read] at returned
        cases returned
        rfl
  · intro unread
    rw [parsed, unread]
  · intro part single noHours number value
    have total : duration.seconds = part.unit.seconds * part.number.value := by
      rw [Duration.seconds, single, List.map_singleton, List.sum_singleton]
    rw [total] at value ⊢
    rw [Duration.read, single]
    exact DurationPart.read_exact noHours number value

end Durations

/-! ### A minute and a half -/

/-- 2026-05-04T10:00:00 in UTC. -/
def morning : DateTime :=
  { wall := 1777888800000000
    offset := some 0
    inRange := by decide
    withinDay := DateTime.withinDay_utc }

/-- Python's clock and numbers on the texts below. -/
def numeralsClock : Clock :=
  { fromIsoFormat := fun text =>
      if text = str "2026-05-04T10:00:00+00:00" then some morning else none
    isoFormat := fun instant =>
      if instant = morning.wall then str "2026-05-04T10:00:00+00:00" else []
    localOffset := fun _ => 0
    lower := fun text => text
    floatOfStr := fun text =>
      if text = str "1" then some (.finite 1)
      else if text = str "30" then some (.finite 30)
      else if text = str "1.5" then some (.finite (3 / 2))
      else if text = str "0.13" then some (.ofRat (13 / 100))
      else none }

def numeralsRuntime : Runtime :=
  { intOfStr := fun _ => none
    floatRepr := fun _ => []
    sha256 := fun _ => [] }

def minuteThirty : Duration :=
  { parts := [⟨⟨[1], none, .inl (by decide)⟩, .m⟩, ⟨⟨[3, 0], none, .inl (by decide)⟩, .s⟩]
    somePart := List.cons_ne_nil _ _
    inRange := by decide +kernel }

def partOfMinute : Duration :=
  { parts := [⟨⟨[0], some [1, 3], .inl (by decide)⟩, .m⟩]
    somePart := List.cons_ne_nil _ _
    inRange := by decide +kernel }

/-- k6 takes the first string for 90 seconds, and the analysis raises. The
second one is 7.8 seconds and is read as another double than the nearest. -/
theorem minuteThirty_not_read :
    minuteThirty.text = str "1m30s" ∧ minuteThirty.seconds = 90 ∧
    parseDurationSeconds numeralsClock minuteThirty.text = .error .valueError ∧
    ¬ MeansTheSame numeralsRuntime numeralsClock minuteThirty (.finite 90) ∧
    partOfMinute.text = str "0.13m" ∧ partOfMinute.seconds = 78 / 10 ∧
    parseDurationSeconds numeralsClock partOfMinute.text ≠ .ok (.ofRat (78 / 10)) := by
  have raised : parseDurationSeconds numeralsClock minuteThirty.text = .error .valueError := by
    decide +kernel
  refine ⟨by decide +kernel, by decide +kernel, raised, ?_, by decide +kernel, by decide +kernel,
    by decide +kernel⟩
  intro same
  have parsed := same.parsed
  rw [raised] at parsed
  cases parsed

def oneAndHalf : Duration :=
  { parts := [⟨⟨[1], some [5], .inl (by decide)⟩, .m⟩]
    somePart := List.cons_ne_nil _ _
    inRange := by decide +kernel }

theorem numeralsClock_reads : ReadsDuration numeralsClock oneAndHalf := by
  refine ⟨fun _ _ => rfl, ?_, ?_⟩
  · intro text _ ⟨letter, member, isUnit⟩
    have other (numeral : Str) (plain : numeral.all (fun digit => digit ∉ unitLetters) = true) :
        text ≠ numeral := by
      rintro rfl
      exact of_decide_eq_true (List.all_eq_true.mp plain letter member) isUnit
    change (if text = str "1" then _ else if text = str "30" then _
      else if text = str "1.5" then _ else if text = str "0.13" then _ else none) = none
    rw [if_neg (other _ (by decide)), if_neg (other _ (by decide)), if_neg (other _ (by decide)),
      if_neg (other _ (by decide))]
  · intro part member
    rw [List.mem_singleton.mp member]
    decide +kernel

theorem means_the_same_iff_oneAndHalf :
    oneAndHalf.text = str "1.5m" ∧ oneAndHalf.seconds = 90 ∧
    MeansTheSame numeralsRuntime numeralsClock oneAndHalf (.finite 90) :=
  ⟨by decide +kernel, by decide +kernel,
    ((means_the_same_iff numeralsClock_reads).1 _).mpr (by decide +kernel)⟩

end ImagePipeline.Properties.DurationStrings
