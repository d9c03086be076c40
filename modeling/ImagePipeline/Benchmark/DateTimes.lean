/-
`datetime` as far as the analyses use it: times with or without a zone, and the
distances between them. Everything is in microseconds, from 1970 on.
-/

import ImagePipeline.Common.Doubles
import Mathlib.Algebra.Order.Group.Abs

namespace ImagePipeline.Benchmark

open Common

/-- The fields of a `datetime` from the year 1 to the year 9999, and how far an
aware one is ahead of UTC. -/
structure DateTime where
  wall : Int
  offset : Option Int
  inRange : -62135596800000000 ≤ wall ∧ wall < 253402300800000000
  withinDay : ∀ distance ∈ offset, |distance| < 86400000000
  deriving DecidableEq

namespace DateTime

theorem withinDay_utc : ∀ distance ∈ (some 0 : Option Int), |distance| < 86400000000 := by
  intro distance same
  cases same
  decide

/-- When it is; a naive time counts as one in UTC. -/
def instant (time : DateTime) : Int := time.wall - time.offset.getD 0

def aware (time : DateTime) : Bool := time.offset.isSome

/-- `time + delta`. -/
def add (time : DateTime) (delta : Int) : Except Exn DateTime :=
  if inRange : -62135596800000000 ≤ time.wall + delta ∧
      time.wall + delta < 253402300800000000 then
    .ok { time with wall := time.wall + delta, inRange }
  else .error .overflowError

/-- `left < right`; only two aware or two naive times have an order. -/
def lt (left right : DateTime) : Except Exn Bool :=
  if left.aware = right.aware then .ok (left.instant < right.instant) else .error .typeError

/-- `left - right`. -/
def sub (left right : DateTime) : Except Exn Int :=
  if left.aware = right.aware then .ok (left.instant - right.instant) else .error .typeError

theorem lt_of_aware {left right : DateTime} (same : left.aware = right.aware) :
    left.lt right = .ok (decide (left.instant < right.instant)) := if_pos same

theorem lt_of_mixed {left right : DateTime} (mixed : left.aware ≠ right.aware) :
    left.lt right = .error .typeError := if_neg mixed

theorem lt_eq_ok {left right : DateTime} {before : Bool} (compared : left.lt right = .ok before) :
    before = decide (left.instant < right.instant) := by
  unfold lt at compared
  split at compared
  · exact (Except.ok.inj compared).symm
  · cases compared

theorem sub_of_aware {left right : DateTime} (same : left.aware = right.aware) :
    left.sub right = .ok (left.instant - right.instant) := if_pos same

theorem add_eq_ok {time later : DateTime} {delta : Int} (added : time.add delta = .ok later) :
    later.aware = time.aware ∧ later.instant = time.instant + delta := by
  unfold add at added
  split at added
  · cases added
    refine ⟨rfl, ?_⟩
    unfold instant
    ring
  · cases added

theorem add_of_inRange {time : DateTime} {delta : Int}
    (inRange : -62135596800000000 ≤ time.wall + delta ∧
      time.wall + delta < 253402300800000000) :
    time.add delta = .ok { time with wall := time.wall + delta, inRange } := dif_pos inRange

end DateTime

/-! ### Distances -/

/-- The microseconds of seconds: the whole ones are exact, and the fraction is
multiplied as a double and rounded. -/
def microseconds (seconds : Rat) : Int :=
  let whole : Int := if seconds < 0 then -(-seconds).floor else seconds.floor
  whole * 1000000 +
    roundHalfEven ((PyFloat.finite 1000000).mul (.finite (seconds - whole))).toRat

def Expressible (delta : Int) : Prop :=
  -86399999913600000000 ≤ delta ∧ delta < 86400000000000000000

instance (delta : Int) : Decidable (Expressible delta) := inferInstanceAs (Decidable (_ ∧ _))

/-- `timedelta(seconds=value)`. -/
def timedelta : PyFloat → Except Exn Int
  | .nan => .error .valueError
  | .infinity _ => .error .overflowError
  | .finite value =>
      if Expressible (microseconds value) then .ok (microseconds value) else .error .overflowError
  | .negativeZero => .ok 0

/-- `round(delta.total_seconds(), 2)`. -/
def roundedSeconds (delta : Int) : PyFloat := (PyFloat.ofRat (delta / 1000000)).round 2

theorem fraction_bounds (fraction : Rat) (nonneg : 0 ≤ fraction) (below : fraction ≤ 1) :
    0 ≤ roundHalfEven ((PyFloat.finite 1000000).mul (.finite fraction)).toRat ∧
      roundHalfEven ((PyFloat.finite 1000000).mul (.finite fraction)).toRat ≤ 1000000 := by
  rcases nonneg.eq_or_lt with none | positive
  · rw [← none]
    decide +kernel
  · obtain ⟨exact, product, lower, upper⟩ :=
      PyFloat.ofRat_bounded (1000000 * fraction) 1000000 (by decide)
        (by linarith) (by push_cast; linarith)
    have atLeast := PyFloat.roundHalfEven_rounds.monotone _ _ lower
    have atMost := PyFloat.roundHalfEven_rounds.monotone _ _ upper
    have zero := PyFloat.roundHalfEven_rounds.fixes 0
    have million := PyFloat.roundHalfEven_rounds.fixes 1000000
    rw [Int.cast_zero] at zero
    rw [zero] at atLeast
    push_cast at million atMost
    rw [million] at atMost
    rw [PyFloat.mul_finite (by norm_num) positive, product]
    exact ⟨atLeast, atMost⟩

theorem microseconds_bounds {seconds : Rat} (nonneg : 0 ≤ seconds) :
    seconds.floor * 1000000 ≤ microseconds seconds ∧
      microseconds seconds ≤ (seconds.floor + 1) * 1000000 := by
  have below := Rat.floor_le seconds
  have above := Rat.lt_floor_add_one seconds
  push_cast at above
  have rest := fraction_bounds (seconds - seconds.floor) (by linarith) (by linarith)
  unfold microseconds
  rw [if_neg (not_lt.mpr nonneg)]
  dsimp only
  omega

theorem timedelta_finite {seconds : Rat} (nonneg : 0 ≤ seconds) (bounded : seconds ≤ 2 ^ 36) :
    timedelta (.finite seconds) = .ok (microseconds seconds) := by
  have bounds := microseconds_bounds nonneg
  have lower : 0 ≤ seconds.floor := Rat.le_floor_iff.mpr (by exact_mod_cast nonneg)
  have upper : seconds.floor ≤ 2 ^ 36 := by
    have rounded := (Rat.floor_le seconds).trans bounded
    exact_mod_cast rounded
  exact if_pos ⟨by omega, by omega⟩

theorem roundedSeconds_zero : roundedSeconds 0 = .finite 0 := by decide +kernel

theorem roundedSeconds_le {shorter longer : Int} (nonneg : 0 ≤ shorter)
    (ordered : shorter ≤ longer) :
    (roundedSeconds shorter).le (roundedSeconds longer) = true := by
  apply PyFloat.round_ofRat_le
  · have above : (0 : Rat) ≤ shorter := by exact_mod_cast nonneg
    positivity
  · apply div_le_div_of_nonneg_right _ (by norm_num)
    exact_mod_cast ordered

/-! ### What the analyses take from Python -/

structure Clock where
  /-- `datetime.fromisoformat(text)`; `none` is the `ValueError`. -/
  fromIsoFormat : Str → Option DateTime
  /-- `isoformat()` of an instant in UTC. -/
  isoFormat : Int → Str
  /-- How far local time is ahead of UTC at a naive time. -/
  localOffset : Int → Int
  /-- `text.lower()`. -/
  lower : Str → Str
  /-- `float(text)`; `none` is the `ValueError`. -/
  floatOfStr : Str → Option PyFloat

/-- `text.replace("Z", "+00:00")`. -/
def replaceZ (text : Str) : Str :=
  text.flatMap (fun letter => if letter = codePoint 'Z' then str "+00:00" else [letter])

namespace Clock

variable (clock : Clock)

/-- `float(text)`. -/
def float (text : Str) : Except Exn PyFloat :=
  match clock.floatOfStr text with
  | some value => .ok value
  | none => .error .valueError

/-- `datetime.fromisoformat(value.replace("Z", "+00:00"))`. -/
def parseTime (value : Str) : Except Exn DateTime :=
  match clock.fromIsoFormat (replaceZ value) with
  | some time => .ok time
  | none => .error .valueError

/-- `time.astimezone(timezone.utc)`; a naive time is local. -/
def toUtc (time : DateTime) : Except Exn Int :=
  let instant := time.wall - time.offset.getD (clock.localOffset time.wall)
  if -62135596800000000 ≤ instant ∧ instant < 253402300800000000 then .ok instant
  else .error .overflowError

end Clock

end ImagePipeline.Benchmark
