/-
Arithmetic and order of Python floats. A result is the exact one, rounded to the
nearest double; a tie goes to the even one.
-/

import ImagePipeline.Common.Json
import ImagePipeline.Library.Rounding
import Mathlib.Tactic.Linarith

namespace ImagePipeline.Common.PyFloat

open Library (RoundsToIntegers roundToGrid roundToGrid_mono roundToGrid_nonneg
  roundToGrid_natCast)

def zero (negative : Bool) : PyFloat := if negative then .negativeZero else .finite 0

/-- The double nearest to a value. -/
def ofRat (value : Rat) : PyFloat :=
  let negative := decide (value < 0)
  let magnitude := if negative then -value else value
  let rounded := roundToGrid roundHalfEven 53 (-1074) magnitude
  if rounded = 0 then zero negative
  else if 2 ^ 1024 ≤ rounded then .infinity negative
  else .finite (if negative then -rounded else rounded)

def isNegative : PyFloat → Bool
  | .nan => false
  | .infinity negative => negative
  | .finite value => value < 0
  | .negativeZero => true

/-- `not value`. -/
def isZero (value : PyFloat) : Bool := value = .finite 0 || value = .negativeZero

def toRat : PyFloat → Rat
  | .finite value => value
  | .nan | .infinity _ | .negativeZero => 0

/-- An exact result; a zero has the sign of the operation. -/
def signed (negative : Bool) (value : Rat) : PyFloat :=
  if value = 0 then zero negative else ofRat value

/-- `left * right`. -/
def mul (left right : PyFloat) : PyFloat :=
  let negative := left.isNegative != right.isNegative
  match left, right with
  | .nan, _ | _, .nan => .nan
  | .infinity _, other | other, .infinity _ =>
      if other.isZero then .nan else .infinity negative
  | left, right => signed negative (left.toRat * right.toRat)

/-- `left / right` for a divisor that is not zero. -/
def div (left right : PyFloat) : PyFloat :=
  let negative := left.isNegative != right.isNegative
  match left, right with
  | .nan, _ | _, .nan | .infinity _, .infinity _ => .nan
  | .infinity _, _ => .infinity negative
  | _, .infinity _ => zero negative
  | left, right => signed negative (left.toRat / right.toRat)

/-- `left - right`. -/
def sub (left right : PyFloat) : PyFloat :=
  match left, right with
  | .nan, _ | _, .nan => .nan
  | .infinity negative, .infinity other => if negative = other then .nan else .infinity negative
  | .infinity negative, _ => .infinity negative
  | _, .infinity negative => .infinity !negative
  | .negativeZero, .finite 0 => .negativeZero
  | left, right => ofRat (left.toRat - right.toRat)

/-- `left <= right`. -/
def le : PyFloat → PyFloat → Bool
  | .nan, _ | _, .nan => false
  | .infinity true, _ | _, .infinity false => true
  | _, .infinity true | .infinity false, _ => false
  | left, right => left.toRat ≤ right.toRat

/-- `left < right`. -/
def lt (left right : PyFloat) : Bool := left.le right && !right.le left

/-- `max` of a list that is not empty: the first of the largest. -/
def maximum (first : PyFloat) (rest : List PyFloat) : PyFloat :=
  rest.foldl (fun largest value => if largest.lt value then value else largest) first

/-- `max(values) if values else None`. -/
def maximum? : List PyFloat → Option PyFloat
  | [] => none
  | first :: rest => some (maximum first rest)

/-- `round(value, digits)`. -/
def round (digits : Nat) : PyFloat → PyFloat
  | .finite value => signed (value < 0) (roundHalfEven (value * 10 ^ digits) / 10 ^ digits)
  | value => value

/-- The product with a power of two is exact or too large. -/
def timesPower (power : Nat) : PyFloat → PyFloat
  | .finite value =>
      if 2 ^ 1024 ≤ |value * 2 ^ power| then .infinity (value < 0) else .finite (value * 2 ^ power)
  | value => value

/-- A literal of the source. -/
def literal (numerator : Int) (denominator : Nat) : PyFloat := ofRat (numerator / denominator)

example : (mul (.finite 20) (literal 95 100)).le (.finite (37 / 2)) = false := by decide +kernel

/-! ### Rounding keeps the order -/

theorem roundHalfEven_bounds (value : Rat) :
    value.floor ≤ roundHalfEven value ∧ roundHalfEven value ≤ value.floor + 1 := by
  unfold roundHalfEven
  dsimp only
  split
  · omega
  · split
    · omega
    · split <;> omega

theorem roundHalfEven_rounds : RoundsToIntegers roundHalfEven := by
  constructor
  · intro left right ordered
    have floors := Rat.floor_monotone ordered
    by_cases same : left.floor = right.floor
    · have fractions : left - left.floor ≤ right - right.floor := by
        rw [same]
        linarith
      unfold roundHalfEven
      dsimp only
      rw [same] at fractions ⊢
      -- whatever the larger fraction decides, the smaller one does not exceed it
      by_cases low : right - (right.floor : Rat) < 1 / 2
      · rw [if_pos low, if_pos (fractions.trans_lt low)]
      · rw [if_neg low]
        by_cases high : 1 / 2 < right - (right.floor : Rat)
        · rw [if_pos high]
          split_ifs <;> omega
        · have notHigher : ¬ 1 / 2 < left - (right.floor : Rat) :=
            fun higher => high (higher.trans_le fractions)
          rw [if_neg high, if_neg notHigher]
          split_ifs <;> omega
    · have below := (roundHalfEven_bounds left).2
      have above := (roundHalfEven_bounds right).1
      omega
  · intro value
    unfold roundHalfEven
    rw [Rat.floor_intCast]
    norm_num

def ofGrid (rounded : Rat) : PyFloat :=
  if rounded = 0 then .finite 0
  else if 2 ^ 1024 ≤ rounded then .infinity false
  else .finite rounded

theorem ofRat_nonneg {value : Rat} (nonneg : 0 ≤ value) :
    ofRat value = ofGrid (roundToGrid roundHalfEven 53 (-1074) value) := by
  unfold ofRat ofGrid zero
  simp [not_lt.mpr nonneg]

theorem le_finite (left right : Rat) :
    (PyFloat.finite left).le (.finite right) = decide (left ≤ right) := rfl

theorem ofGrid_le {left right : Rat} (nonneg : 0 ≤ left) (ordered : left ≤ right) :
    (ofGrid left).le (ofGrid right) = true := by
  unfold ofGrid
  by_cases zero : left = 0
  · rw [if_pos zero]
    split_ifs
    · decide
    · rfl
    · rw [le_finite]
      exact decide_eq_true (nonneg.trans ordered)
  · have positive : ¬ right = 0 := by
      intro none
      exact zero (le_antisymm (ordered.trans_eq none) nonneg)
    rw [if_neg zero, if_neg positive]
    split_ifs with large larger
    · rfl
    · exact absurd (large.trans ordered) larger
    · rfl
    · rw [le_finite]
      exact decide_eq_true ordered

theorem ofRat_le {left right : Rat} (nonneg : 0 ≤ left) (ordered : left ≤ right) :
    (ofRat left).le (ofRat right) = true := by
  rw [ofRat_nonneg nonneg, ofRat_nonneg (nonneg.trans ordered)]
  rcases nonneg.eq_or_lt with none | positive
  · have zero : roundToGrid roundHalfEven 53 (-1074) left = 0 := by
      rw [← none]
      decide +kernel
    rw [zero]
    exact ofGrid_le le_rfl (roundToGrid_nonneg roundHalfEven_rounds (nonneg.trans ordered))
  · exact ofGrid_le (roundToGrid_nonneg roundHalfEven_rounds nonneg)
      (roundToGrid_mono roundHalfEven_rounds (by decide) positive ordered)

theorem ofRat_zero : ofRat 0 = .finite 0 := by decide +kernel

theorem ofRat_le_infinity (value : Rat) : (ofRat value).le (.infinity false) = true := by
  unfold ofRat zero
  dsimp only
  split_ifs <;> first | rfl | (cases decide (value < 0) <;> rfl)

theorem ofRat_cases {value : Rat} (nonneg : 0 ≤ value) :
    (∃ exact : Rat, 0 ≤ exact ∧ ofRat value = .finite exact) ∨ ofRat value = .infinity false := by
  have above : 0 ≤ roundToGrid roundHalfEven 53 (-1074) value :=
    roundToGrid_nonneg roundHalfEven_rounds nonneg
  rw [ofRat_nonneg nonneg, ofGrid]
  split_ifs
  · exact .inl ⟨0, le_rfl, rfl⟩
  · exact .inr rfl
  · exact .inl ⟨_, above, rfl⟩

theorem round_finite {value : Rat} (nonneg : 0 ≤ value) (digits : Nat) :
    (PyFloat.finite value).round digits =
      ofRat (roundHalfEven (value * 10 ^ digits) / 10 ^ digits) := by
  change signed (decide (value < 0)) _ = _
  rw [decide_eq_false (not_lt.mpr nonneg), signed]
  split
  · rename_i none
    rw [none, ofRat_zero]
    rfl
  · rfl

theorem round_le {small large : Rat} (above : 0 ≤ small) (between : small ≤ large)
    (digits : Nat) :
    ((PyFloat.finite small).round digits).le ((PyFloat.finite large).round digits) = true := by
  have power : (0 : Rat) < 10 ^ digits := by positivity
  rw [round_finite above, round_finite (above.trans between)]
  have scaled := mul_le_mul_of_nonneg_right between power.le
  have zero := roundHalfEven_rounds.fixes 0
  have lower := roundHalfEven_rounds.monotone _ _ (mul_nonneg above power.le)
  rw [Int.cast_zero] at zero
  rw [zero] at lower
  apply ofRat_le
  · exact div_nonneg (by exact_mod_cast lower) power.le
  · apply div_le_div_of_nonneg_right _ power.le
    exact_mod_cast roundHalfEven_rounds.monotone _ _ scaled

theorem round_ofRat_le {left right : Rat} (nonneg : 0 ≤ left) (ordered : left ≤ right)
    (digits : Nat) : ((ofRat left).round digits).le ((ofRat right).round digits) = true := by
  have between := ofRat_le nonneg ordered
  rcases ofRat_cases (nonneg.trans ordered) with ⟨large, aboveLarge, toLarge⟩ | unbounded
  · rcases ofRat_cases nonneg with ⟨small, above, toSmall⟩ | unbounded
    · rw [toSmall, toLarge, le_finite, decide_eq_true_iff] at between
      rw [toSmall, toLarge]
      exact round_le above between digits
    · rw [unbounded, toLarge] at between
      cases between
  · rw [unbounded]
    rcases ofRat_cases nonneg with ⟨small, above, toSmall⟩ | unboundedLeft
    · rw [toSmall, round_finite above]
      exact ofRat_le_infinity _
    · rw [unboundedLeft]
      rfl

theorem le_trans {first second third : PyFloat} (lower : first.le second = true)
    (upper : second.le third = true) : first.le third = true := by
  rcases first with _ | (_ | _) | first | _ <;> rcases second with _ | (_ | _) | second | _ <;>
    rcases third with _ | (_ | _) | third | _ <;>
    first
    | rfl
    | exact upper
    | exact absurd lower Bool.false_ne_true
    | exact absurd upper Bool.false_ne_true
    | exact decide_eq_true ((of_decide_eq_true lower).trans (of_decide_eq_true upper))

theorem le_total {left right : PyFloat} (numberLeft : left ≠ .nan) (numberRight : right ≠ .nan) :
    left.le right = true ∨ right.le left = true := by
  have rational (first second : PyFloat) (order : first.le second = decide (first.toRat ≤
      second.toRat)) (reverse : second.le first = decide (second.toRat ≤ first.toRat)) :
      first.le second = true ∨ second.le first = true := by
    rw [order, reverse, decide_eq_true_iff, decide_eq_true_iff]
    exact Std.le_total
  rcases left with _ | (_ | _) | left | _ <;> rcases right with _ | (_ | _) | right | _ <;>
    first
    | exact absurd rfl numberLeft
    | exact absurd rfl numberRight
    | exact .inl rfl
    | exact .inr rfl
    | exact rational _ _ rfl rfl

theorem le_of_not_lt {left right : PyFloat} (numberLeft : left ≠ .nan) (numberRight : right ≠ .nan)
    (notLess : left.lt right = false) : right.le left = true := by
  rcases le_total numberLeft numberRight with below | above
  · rw [lt, below, Bool.true_and] at notLess
    simpa using notLess
  · exact above

theorem le_refl {value : PyFloat} (number : value ≠ .nan) : value.le value = true :=
  (le_total number number).elim id id

/-- The largest of some numbers is one of them, and no smaller than any. -/
theorem maximum_spec {first : PyFloat} {rest : List PyFloat}
    (numbers : ∀ value ∈ first :: rest, value ≠ .nan) :
    maximum first rest ∈ first :: rest ∧
      ∀ value ∈ first :: rest, value.le (maximum first rest) = true := by
  induction rest generalizing first with
  | nil =>
      refine ⟨List.mem_cons_self, fun value member => ?_⟩
      rw [List.mem_singleton.mp member]
      exact le_refl (numbers first List.mem_cons_self)
  | cons second rest ih =>
      have numberFirst : first ≠ .nan := numbers first List.mem_cons_self
      have numberSecond : second ≠ .nan := numbers second (by simp)
      have later (kept : PyFloat) (number : kept ≠ .nan) :=
        @ih kept fun value member => by
          rcases List.mem_cons.mp member with rfl | inRest
          · exact number
          · exact numbers value (by simp [inRest])
      have unfolded : maximum first (second :: rest) =
          maximum (if first.lt second then second else first) rest := rfl
      rw [unfolded]
      cases less : first.lt second with
      | true =>
          rw [if_pos rfl]
          obtain ⟨inside, above⟩ := later second numberSecond
          refine ⟨List.mem_cons_of_mem _ inside, ?_⟩
          have ordered : first.le second = true := by
            rw [lt, Bool.and_eq_true] at less
            exact less.1
          exact List.forall_mem_cons.mpr
            ⟨le_trans ordered (above second List.mem_cons_self), above⟩
      | false =>
          rw [if_neg Bool.false_ne_true]
          obtain ⟨inside, above⟩ := later first numberFirst
          obtain ⟨aboveFirst, aboveRest⟩ := List.forall_mem_cons.mp above
          have ordered := le_of_not_lt numberFirst numberSecond less
          constructor
          · rcases List.mem_cons.mp inside with same | inRest
            · rw [same]
              exact List.mem_cons_self
            · exact List.mem_cons_of_mem _ (List.mem_cons_of_mem _ inRest)
          · exact List.forall_mem_cons.mpr ⟨aboveFirst, List.forall_mem_cons.mpr
              ⟨le_trans ordered aboveFirst, aboveRest⟩⟩

theorem nonneg_cases {value : PyFloat} (nonneg : (PyFloat.finite 0).le value = true) :
    (∃ exact : Rat, 0 ≤ exact ∧ value = .finite exact) ∨ value = .infinity false ∨
      value = .negativeZero := by
  rcases value with _ | (_ | _) | exact | _
  · cases nonneg
  · exact .inr (.inl rfl)
  · cases nonneg
  · exact .inl ⟨exact, of_decide_eq_true nonneg, rfl⟩
  · exact .inr (.inr rfl)

theorem le_refl_of_nonneg {value : PyFloat} (nonneg : (PyFloat.finite 0).le value = true) :
    value.le value = true := by
  apply le_refl
  rintro rfl
  cases nonneg

theorem mul_finite {value share : Rat} (nonneg : 0 ≤ value) (positive : 0 < share) :
    (PyFloat.finite value).mul (.finite share) = ofRat (value * share) := by
  change signed (decide (value < 0) != decide (share < 0)) (value * share) = _
  rw [decide_eq_false (not_lt.mpr nonneg), decide_eq_false (not_lt.mpr positive.le), signed]
  split
  · rename_i none
    rw [none, ofRat_zero]
    rfl
  · rfl

theorem div_finite {value divisor : Rat} (nonneg : 0 ≤ value) (positive : 0 < divisor) :
    (PyFloat.finite value).div (.finite divisor) = ofRat (value / divisor) := by
  change signed (decide (value < 0) != decide (divisor < 0)) (value / divisor) = _
  rw [decide_eq_false (not_lt.mpr nonneg), decide_eq_false (not_lt.mpr positive.le), signed]
  split
  · rename_i none
    rw [none, ofRat_zero]
    rfl
  · rfl

theorem mul_infinity (negative : Bool) {share : Rat} (positive : 0 < share) :
    (PyFloat.infinity negative).mul (.finite share) = .infinity negative := by
  have nonzero : (PyFloat.finite share).isZero = false := by simp [isZero, positive.ne']
  change (if (PyFloat.finite share).isZero then PyFloat.nan
    else .infinity (negative != decide (share < 0))) = _
  rw [nonzero, decide_eq_false (not_lt.mpr positive.le)]
  cases negative <;> rfl

/-- What reaches a share of a number that is not negative reaches smaller ones. -/
theorem mul_le_of_le {number : PyFloat} (nonneg : number.isNegative = false) {small large : Rat}
    (positive : 0 < small) (ordered : small ≤ large) {other : PyFloat}
    (reached : (number.mul (.finite large)).le other = true) :
    (number.mul (.finite small)).le other = true := by
  have larger : 0 < large := positive.trans_le ordered
  cases number with
  | nan => cases reached
  | negativeZero => cases nonneg
  | infinity negative =>
      rw [mul_infinity negative larger] at reached
      rw [mul_infinity negative positive]
      exact reached
  | finite value =>
      have above : 0 ≤ value := by simpa [isNegative] using nonneg
      rw [mul_finite above larger] at reached
      rw [mul_finite above positive]
      exact le_trans (ofRat_le (mul_nonneg above positive.le)
        (mul_le_mul_of_nonneg_left ordered above)) reached

/-! ### Whole numbers -/

theorem natCast_lt_overflow {value : Nat} (bounded : value ≤ 2 ^ 53) :
    ¬ (2 : Rat) ^ 1024 ≤ value := by
  rw [not_le]
  calc (value : Rat) ≤ 2 ^ 53 := by exact_mod_cast bounded
    _ < 2 ^ 1024 := pow_lt_pow_right₀ (by norm_num) (by decide)

theorem ofRat_natCast {value : Nat} (bounded : value ≤ 2 ^ 53) :
    ofRat (value : Rat) = .finite value := by
  rw [ofRat_nonneg (Nat.cast_nonneg value),
    roundToGrid_natCast roundHalfEven_rounds (by decide) (by decide) bounded, ofGrid,
    if_neg (natCast_lt_overflow bounded)]
  split
  · rename_i zero
    rw [zero]
  · rfl

theorem ofRat_neg_natCast {value : Nat} (bounded : value ≤ 2 ^ 53) (positive : 0 < value) :
    ofRat (-(value : Rat)) = .finite (-(value : Rat)) := by
  have above : (0 : Rat) < value := by exact_mod_cast positive
  have below : (-(value : Rat)) < 0 := neg_neg_of_pos above
  unfold ofRat
  simp only [below, decide_true, if_true, neg_neg]
  rw [roundToGrid_natCast roundHalfEven_rounds (by decide) (by decide) bounded,
    if_neg above.ne', if_neg (natCast_lt_overflow bounded)]

/-- Counters up to 2^53 are subtracted exactly. -/
theorem sub_natCast {left right : Nat} (boundedLeft : left ≤ 2 ^ 53)
    (boundedRight : right ≤ 2 ^ 53) :
    (ofRat (left : Rat)).sub (ofRat (right : Rat)) = .finite ((left : Rat) - right) := by
  rw [ofRat_natCast boundedLeft, ofRat_natCast boundedRight]
  change ofRat ((left : Rat) - right) = _
  rcases Nat.lt_or_ge left right with less | more
  · have difference : (left : Rat) - right = -((right - left : Nat) : Rat) := by
      rw [Nat.cast_sub less.le]
      ring
    rw [difference, ofRat_neg_natCast (by omega) (by omega)]
  · rw [← Nat.cast_sub more, ofRat_natCast (by omega)]

theorem ofRat_bounded (value : Rat) (bound : Nat) (small : bound ≤ 2 ^ 53) (nonneg : 0 ≤ value)
    (bounded : value ≤ bound) :
    ∃ exact : Rat, ofRat value = .finite exact ∧ 0 ≤ exact ∧ exact ≤ bound := by
  have between := ofRat_le nonneg bounded
  rw [ofRat_natCast small] at between
  rcases ofRat_cases nonneg with ⟨exact, above, same⟩ | unbounded
  · rw [same] at between
    exact ⟨exact, same, above, of_decide_eq_true between⟩
  · rw [unbounded] at between
    cases between

end ImagePipeline.Common.PyFloat
