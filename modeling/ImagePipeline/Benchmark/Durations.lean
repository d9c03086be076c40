/-
The durations that k6 takes for `DURATION`, with what they denote, and how far
`parse_duration_seconds` reads them: it strips one unit and takes the rest for a
number.
-/

import ImagePipeline.Benchmark.QueueDrain
import Mathlib.Algebra.BigOperators.Group.List.Basic

namespace ImagePipeline.Benchmark

open Common

inductive DurationUnit where
  | ms
  | s
  | m
  | h
  deriving DecidableEq

namespace DurationUnit

def text : DurationUnit → Str
  | .ms => str "ms"
  | .s => str "s"
  | .m => str "m"
  | .h => str "h"

def seconds : DurationUnit → Rat
  | .ms => 1 / 1000
  | .s => 1
  | .m => 60
  | .h => 3600

end DurationUnit

structure Decimal where
  whole : List (Fin 10)
  fraction : Option (List (Fin 10))
  someDigit : whole ≠ [] ∨ fraction.getD [] ≠ []

def digitPoint (digit : Fin 10) : CodePoint := codePoint (Nat.digitChar digit.val)

def digitsValue (digits : List (Fin 10)) : Nat :=
  digits.foldl (fun value digit => 10 * value + digit.val) 0

namespace Decimal

def text (number : Decimal) : Str :=
  number.whole.map digitPoint ++
    match number.fraction with
    | none => []
    | some digits => codePoint '.' :: digits.map digitPoint

def value (number : Decimal) : Rat :=
  digitsValue number.whole +
    (digitsValue (number.fraction.getD []) : Rat) / 10 ^ (number.fraction.getD []).length

end Decimal

structure DurationPart where
  number : Decimal
  unit : DurationUnit

namespace DurationPart

def text (part : DurationPart) : Str := part.number.text ++ part.unit.text

/-- What Go adds up, in an `int64`. -/
def nanoseconds (part : DurationPart) : Int :=
  (part.number.value * (part.unit.seconds * 1000000000)).floor

end DurationPart

def partsText (parts : List DurationPart) : Str := parts.flatMap DurationPart.text

/-- A duration that k6 accepts. -/
structure Duration where
  parts : List DurationPart
  somePart : parts ≠ []
  inRange : (parts.map DurationPart.nanoseconds).sum < 2 ^ 63

namespace Duration

def text (duration : Duration) : Str := partsText duration.parts

def seconds (duration : Duration) : Rat :=
  (duration.parts.map (fun part => part.unit.seconds * part.number.value)).sum

end Duration

/-- What the analysis takes a number with a unit for: the double nearest to the
number, and one more rounding where it is not in seconds. -/
def DurationPart.read (part : DurationPart) : Option PyFloat :=
  match part.unit with
  | .ms => some ((PyFloat.ofRat part.number.value).div (.finite 1000))
  | .s => some (.ofRat part.number.value)
  | .m => some ((PyFloat.ofRat part.number.value).mul (.finite 60))
  | .h => none

/-- It takes no duration of several numbers. -/
def Duration.read (duration : Duration) : Option PyFloat :=
  match duration.parts with
  | [part] => part.read
  | _ => none

def decimalLetters : Str := str "0123456789."

def unitLetters : Str := str "msh"

/-- What Python does with texts of digits, points and unit letters: they are in
lower case, with a unit letter in it a text is no number, and a decimal number
is read as the double nearest to it. -/
structure ReadsDuration (clock : Clock) (duration : Duration) : Prop where
  lower : ∀ text : Str, (∀ letter ∈ text, letter ∈ decimalLetters ++ unitLetters) →
    clock.lower text = text
  noNumber : ∀ text : Str, (∀ letter ∈ text, letter ∈ decimalLetters ++ unitLetters) →
    (∃ letter ∈ text, letter ∈ unitLetters) → clock.floatOfStr text = none
  decimal : ∀ part ∈ duration.parts,
    clock.floatOfStr part.number.text = some (.ofRat part.number.value)

/-! ### The letters of a duration -/

theorem digitPoint_letter (digit : Fin 10) : digitPoint digit ∈ decimalLetters := by
  revert digit
  decide

theorem Decimal.text_letters (number : Decimal) :
    ∀ letter ∈ number.text, letter ∈ decimalLetters := by
  intro letter member
  unfold text at member
  rcases List.mem_append.mp member with inWhole | inFraction
  · obtain ⟨digit, _, rfl⟩ := List.mem_map.mp inWhole
    exact digitPoint_letter digit
  · cases fraction : number.fraction with
    | none =>
        rw [fraction] at inFraction
        cases inFraction
    | some digits =>
        rw [fraction] at inFraction
        rcases List.mem_cons.mp inFraction with rfl | inDigits
        · decide
        · obtain ⟨digit, _, rfl⟩ := List.mem_map.mp inDigits
          exact digitPoint_letter digit

theorem Decimal.text_ne_nil (number : Decimal) : number.text ≠ [] := by
  unfold text
  intro empty
  obtain ⟨noWhole, noFraction⟩ := List.append_eq_nil_iff.mp empty
  rcases number.someDigit with whole | fraction
  · exact whole (List.map_eq_nil_iff.mp noWhole)
  · cases given : number.fraction with
    | none =>
        rw [given] at fraction
        exact fraction rfl
    | some digits =>
        rw [given] at noFraction
        cases noFraction

theorem DurationUnit.text_letters (unit : DurationUnit) :
    ∀ letter ∈ unit.text, letter ∈ unitLetters := by
  cases unit <;> simp [text, unitLetters, str]

theorem DurationUnit.text_ne_nil (unit : DurationUnit) : unit.text ≠ [] := by
  cases unit <;> intro empty <;> cases empty

theorem partsText_letters (parts : List DurationPart) :
    ∀ letter ∈ partsText parts, letter ∈ decimalLetters ++ unitLetters := by
  intro letter member
  obtain ⟨part, _, inPart⟩ := List.mem_flatMap.mp member
  rcases List.mem_append.mp inPart with inNumber | inUnit
  · exact List.mem_append_left _ (part.number.text_letters letter inNumber)
  · exact List.mem_append_right _ (part.unit.text_letters letter inUnit)

theorem exists_unitLetter {parts : List DurationPart} (somePart : parts ≠ []) :
    ∃ letter ∈ partsText parts, letter ∈ unitLetters := by
  obtain ⟨part, member⟩ := List.exists_mem_of_ne_nil parts somePart
  obtain ⟨letter, inUnit⟩ := List.exists_mem_of_ne_nil part.unit.text part.unit.text_ne_nil
  exact ⟨letter, List.mem_flatMap.mpr ⟨part, member, List.mem_append_right _ inUnit⟩,
    part.unit.text_letters letter inUnit⟩

theorem Duration.text_ne_nil (duration : Duration) : duration.text ≠ [] := by
  obtain ⟨letter, member, _⟩ := exists_unitLetter duration.somePart
  exact List.ne_nil_of_mem member

/-! ### What is stripped -/

section Parsing

variable {clock : Clock}

theorem isSuffixOf_concat {ending text : Str} {left right : CodePoint} :
    (ending ++ [left]).isSuffixOf (text ++ [right]) =
      (left == right && ending.isSuffixOf text) := by
  unfold List.isSuffixOf
  rw [List.reverse_concat, List.reverse_concat]
  rfl

theorem isSuffixOf_other (ending text : Str) {left right : CodePoint} (other : left ≠ right) :
    (ending ++ [left]).isSuffixOf (text ++ [right]) = false := by
  rw [isSuffixOf_concat, beq_false_of_ne other, Bool.false_and]

theorem isSuffixOf_same (ending text : Str) : ending.isSuffixOf (text ++ ending) = true :=
  List.isSuffixOf_iff_suffix.mpr (List.suffix_append _ _)

theorem strip_letters {text : Str}
    (letters : ∀ letter ∈ text, letter ∈ decimalLetters ++ unitLetters) : strip text = text := by
  have plain : (decimalLetters ++ unitLetters).all (fun letter => !isSpace letter) = true := by
    decide +kernel
  apply strip_of_noSpace
  intro letter member
  simpa using List.all_eq_true.mp plain letter (letters letter member)

/-- What becomes of the number in front of a unit. -/
def DurationUnit.convert (number : Except Exn PyFloat) : DurationUnit → Except Exn PyFloat
  | .ms => number.map (fun value => value.div (.finite 1000))
  | .s => number
  | .m => number.map (fun value => value.mul (.finite 60))
  | .h => .error .valueError

theorem parseDurationSeconds_unit {front : Str} {letter : CodePoint}
    (digit : letter ∈ decimalLetters) (unit : DurationUnit)
    (lower : clock.lower (strip (front ++ [letter] ++ unit.text)) =
      front ++ [letter] ++ unit.text) :
    parseDurationSeconds clock (front ++ [letter] ++ unit.text) =
      unit.convert (clock.float (front ++ [letter])) := by
  have ms : str "ms" = [codePoint 'm'] ++ [codePoint 's'] := rfl
  have noUnit : codePoint 'm' ≠ letter := by
    rintro rfl
    exact absurd digit (by decide)
  unfold parseDurationSeconds
  rw [lower]
  cases unit with
  | ms =>
      change (if (str "ms").isSuffixOf (front ++ [letter] ++ str "ms") then _ else _) = _
      rw [if_pos (isSuffixOf_same _ _), DurationUnit.text, ms, ← List.append_assoc,
        List.dropLast_concat, List.dropLast_concat]
      rfl
  | s =>
      have noMs : (str "ms").isSuffixOf (front ++ [letter] ++ [codePoint 's']) = false := by
        rw [ms, isSuffixOf_concat, beq_self_eq_true, Bool.true_and]
        exact isSuffixOf_other [] _ noUnit
      change (if (str "ms").isSuffixOf (front ++ [letter] ++ [codePoint 's']) then _
        else if (str "s").isSuffixOf (front ++ [letter] ++ str "s") then _ else _) = _
      rw [noMs, if_neg Bool.false_ne_true, if_pos (isSuffixOf_same _ _), DurationUnit.text,
        show str "s" = [codePoint 's'] from rfl, List.dropLast_concat]
      rfl
  | m =>
      have apart : codePoint 's' ≠ codePoint 'm' := by decide
      change (if (str "ms").isSuffixOf (front ++ [letter] ++ [codePoint 'm']) then _
        else if ([] ++ [codePoint 's']).isSuffixOf (front ++ [letter] ++ [codePoint 'm']) then _
        else if (str "m").isSuffixOf (front ++ [letter] ++ str "m") then _ else _) = _
      rw [ms, isSuffixOf_other _ _ apart, isSuffixOf_other _ _ apart, if_neg Bool.false_ne_true,
        if_neg Bool.false_ne_true, if_pos (isSuffixOf_same _ _), DurationUnit.text,
        show str "m" = [codePoint 'm'] from rfl, List.dropLast_concat]
      rfl
  | h =>
      have apart : codePoint 's' ≠ codePoint 'h' ∧ codePoint 'm' ≠ codePoint 'h' := by decide
      change (if (str "ms").isSuffixOf (front ++ [letter] ++ [codePoint 'h']) then _
        else if ([] ++ [codePoint 's']).isSuffixOf (front ++ [letter] ++ [codePoint 'h']) then _
        else if ([] ++ [codePoint 'm']).isSuffixOf (front ++ [letter] ++ [codePoint 'h']) then _
        else _) = _
      rw [ms, isSuffixOf_other _ _ apart.1, isSuffixOf_other _ _ apart.1,
        isSuffixOf_other _ _ apart.2]
      rfl

variable {duration : Duration}

/-- Of a duration only the last unit is stripped. -/
theorem parseDurationSeconds_concat (reads : ReadsDuration clock duration)
    (before : List DurationPart) (last : DurationPart) :
    parseDurationSeconds clock (partsText (before ++ [last])) =
      last.unit.convert (clock.float (partsText before ++ last.number.text)) := by
  obtain ⟨front, letter, split⟩ :=
    (List.eq_nil_or_concat last.number.text).resolve_left last.number.text_ne_nil
  rw [List.concat_eq_append] at split
  have digit : letter ∈ decimalLetters :=
    last.number.text_letters letter (split ▸ List.mem_append_right _ List.mem_cons_self)
  have whole : partsText (before ++ [last]) =
      partsText before ++ front ++ [letter] ++ last.unit.text := by
    unfold partsText
    rw [List.flatMap_append, List.flatMap_singleton, DurationPart.text, split]
    simp only [List.append_assoc]
  have letters := partsText_letters (before ++ [last])
  have lower : clock.lower (strip (partsText (before ++ [last]))) = partsText (before ++ [last]) :=
    by rw [strip_letters letters, reads.lower _ letters]
  rw [whole] at lower
  rw [whole, parseDurationSeconds_unit digit last.unit lower, split, List.append_assoc]

theorem parseDurationSeconds_many (reads : ReadsDuration clock duration)
    {before : List DurationPart} (somePart : before ≠ []) (last : DurationPart) :
    parseDurationSeconds clock (partsText (before ++ [last])) = .error .valueError := by
  have letters : ∀ letter ∈ partsText before ++ last.number.text,
      letter ∈ decimalLetters ++ unitLetters := by
    intro letter member
    rcases List.mem_append.mp member with inBefore | inNumber
    · exact partsText_letters before letter inBefore
    · exact List.mem_append_left _ (last.number.text_letters letter inNumber)
  obtain ⟨letter, member, isUnit⟩ := exists_unitLetter somePart
  have noNumber : clock.float (partsText before ++ last.number.text) = .error .valueError := by
    unfold Clock.float
    rw [reads.noNumber _ letters ⟨letter, List.mem_append_left _ member, isUnit⟩]
  rw [parseDurationSeconds_concat reads, noNumber]
  cases last.unit <;> rfl

theorem parseDurationSeconds_one (reads : ReadsDuration clock duration) {part : DurationPart}
    (member : part ∈ duration.parts) :
    parseDurationSeconds clock (partsText [part]) =
      match part.read with
      | some seconds => .ok seconds
      | none => .error .valueError := by
  have number : clock.float (partsText [] ++ part.number.text) =
      .ok (.ofRat part.number.value) := by
    change clock.float part.number.text = _
    unfold Clock.float
    rw [reads.decimal part member]
  have concat := parseDurationSeconds_concat reads [] part
  rw [List.nil_append, number] at concat
  rw [concat, DurationPart.read]
  cases part.unit <;> rfl

/-- What is not read is rejected. -/
theorem parseDurationSeconds_eq (reads : ReadsDuration clock duration) :
    parseDurationSeconds clock duration.text =
      match duration.read with
      | some seconds => .ok seconds
      | none => .error .valueError := by
  obtain ⟨before, last, split⟩ :=
    (List.eq_nil_or_concat duration.parts).resolve_left duration.somePart
  rw [List.concat_eq_append] at split
  unfold Duration.text Duration.read
  cases before with
  | nil =>
      rw [List.nil_append] at split
      rw [split]
      exact parseDurationSeconds_one reads (split ▸ List.mem_cons_self)
  | cons first between =>
      rw [split, parseDurationSeconds_many reads (List.cons_ne_nil _ _) last]
      cases between <;> rfl

end Parsing

/-! ### How much a duration can be -/

theorem Decimal.value_nonneg (number : Decimal) : 0 ≤ number.value := by
  unfold value
  positivity

theorem Duration.single_bounded {duration : Duration} {part : DurationPart}
    (single : duration.parts = [part]) : part.number.value * part.unit.seconds ≤ 2 ^ 34 := by
  have total := duration.inRange
  rw [single, List.map_singleton, List.sum_singleton, DurationPart.nanoseconds,
    Rat.floor_lt_iff] at total
  push_cast at total
  linarith

theorem Duration.read_bounded {duration : Duration} {seconds : PyFloat}
    (read : duration.read = some seconds) :
    ∃ exact : Rat, seconds = .finite exact ∧ 0 ≤ exact ∧ exact ≤ 2 ^ 36 := by
  unfold Duration.read at read
  split at read
  · rename_i part single
    have bounded := Duration.single_bounded single
    have nonneg := part.number.value_nonneg
    unfold DurationPart.read at read
    split at read
    · rename_i unit
      rw [unit, DurationUnit.seconds] at bounded
      obtain ⟨double, number, lower, upper⟩ := PyFloat.ofRat_bounded
        part.number.value (2 ^ 44) (by decide) nonneg
        (by push_cast; linarith)
      rw [number, PyFloat.div_finite lower (by norm_num)] at read
      push_cast at upper
      obtain ⟨exact, rounded, above, below⟩ := PyFloat.ofRat_bounded
        (double / 1000) (2 ^ 36) (by decide) (by positivity)
        (by push_cast; linarith)
      cases read
      exact ⟨exact, rounded, above, by exact_mod_cast below⟩
    · rename_i unit
      rw [unit, DurationUnit.seconds] at bounded
      obtain ⟨exact, rounded, above, below⟩ := PyFloat.ofRat_bounded
        part.number.value (2 ^ 36) (by decide) nonneg
        (by push_cast; linarith)
      cases read
      exact ⟨exact, rounded, above, by exact_mod_cast below⟩
    · rename_i unit
      rw [unit, DurationUnit.seconds] at bounded
      obtain ⟨double, number, lower, upper⟩ := PyFloat.ofRat_bounded
        part.number.value (2 ^ 29) (by decide) nonneg
        (by push_cast; linarith)
      rw [number, PyFloat.mul_finite lower (by norm_num)] at read
      push_cast at upper
      obtain ⟨exact, rounded, above, below⟩ := PyFloat.ofRat_bounded
        (double * 60) (2 ^ 36) (by decide) (by positivity)
        (by push_cast; linarith)
      cases read
      exact ⟨exact, rounded, above, by exact_mod_cast below⟩
    · cases read
  · cases read

/-- Nothing is rounded if the number and its seconds are doubles. -/
theorem DurationPart.read_exact {part : DurationPart} (noHours : part.unit ≠ .h)
    (number : PyFloat.ofRat part.number.value = .finite part.number.value)
    (seconds : PyFloat.ofRat (part.unit.seconds * part.number.value) =
      .finite (part.unit.seconds * part.number.value)) :
    part.read = some (.finite (part.unit.seconds * part.number.value)) := by
  have nonneg := part.number.value_nonneg
  unfold DurationPart.read
  split
  · rename_i unit
    rw [unit, DurationUnit.seconds, one_div_mul_eq_div] at seconds
    rw [number, PyFloat.div_finite nonneg (by norm_num), seconds, unit, DurationUnit.seconds,
      one_div_mul_eq_div]
  · rename_i unit
    rw [number, unit, DurationUnit.seconds, one_mul]
  · rename_i unit
    rw [unit, DurationUnit.seconds, mul_comm] at seconds
    rw [number, PyFloat.mul_finite nonneg (by norm_num), seconds, unit, DurationUnit.seconds,
      mul_comm]
  · rename_i unit
    exact absurd unit noHours

end ImagePipeline.Benchmark
