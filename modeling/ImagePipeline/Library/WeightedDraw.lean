/-
Drawing an item by its weight. The weights are taken off a share of their sum
one after another, and the item whose weight uses the rest up is drawn. It is
the first one whose cumulative weight reaches the share, so the shares that draw
an item are an interval as long as its part of the sum.
-/

import Mathlib.Algebra.Order.Field.Basic
import Mathlib.Algebra.Order.BigOperators.Group.List
import Mathlib.Order.Interval.Set.Defs

namespace ImagePipeline.Library

section Cumulative

variable {K : Type} [AddCommGroup K]

/-- What the first weights sum up to. -/
def cumulative (weights : List K) (count : Nat) : K := (weights.take count).sum

@[simp] theorem cumulative_zero (weights : List K) : cumulative weights 0 = 0 := rfl

theorem cumulative_cons (weight : K) (rest : List K) (count : Nat) :
    cumulative (weight :: rest) (count + 1) = weight + cumulative rest count := by
  rw [cumulative, List.take_succ_cons, List.sum_cons, cumulative]

theorem cumulative_succ {weights : List K} {index : Nat} {weight : K}
    (atIndex : weights[index]? = some weight) :
    cumulative weights (index + 1) = cumulative weights index + weight := by
  rw [cumulative, List.take_add_one, atIndex, List.sum_append]
  simp [cumulative]

theorem cumulative_length (weights : List K) :
    cumulative weights weights.length = weights.sum := by
  rw [cumulative, List.take_length]

variable [LinearOrder K]

/-- The position whose weight uses up what the earlier ones leave. -/
def countdown : K → List K → Option Nat
  | _, [] => none
  | remaining, weight :: rest =>
      if remaining - weight ≤ 0 then some 0
      else (countdown (remaining - weight) rest).map (fun index => index + 1)

variable [IsOrderedAddMonoid K]

theorem cumulative_mono {weights : List K} (positive : ∀ weight ∈ weights, 0 < weight)
    {first second : Nat} (ordered : first ≤ second) :
    cumulative weights first ≤ cumulative weights second := by
  induction second, ordered using Nat.le_induction with
  | base => exact le_rfl
  | succ second _ ih =>
      refine ih.trans ?_
      cases atIndex : weights[second]? with
      | none =>
          have beyond := List.getElem?_eq_none_iff.mp atIndex
          unfold cumulative
          rw [List.take_of_length_le beyond, List.take_of_length_le (by omega)]
      | some weight =>
          rw [cumulative_succ atIndex]
          exact le_add_of_nonneg_right (positive weight (List.mem_of_getElem? atIndex)).le

/-- The first position where the cumulative weight reaches the draw. -/
theorem countdown_eq_some_iff {draw : K} {weights : List K} {index : Nat} :
    countdown draw weights = some index ↔
      index < weights.length ∧ draw ≤ cumulative weights (index + 1) ∧
        ∀ earlier < index, cumulative weights (earlier + 1) < draw := by
  induction weights generalizing draw index with
  | nil => simp [countdown]
  | cons weight rest ih =>
      unfold countdown
      by_cases used : draw - weight ≤ 0
      · rw [if_pos used]
        have reached : draw ≤ weight := sub_nonpos.mp used
        constructor
        · intro same
          cases same
          refine ⟨Nat.succ_pos _, ?_,
            fun earlier impossible => absurd impossible (Nat.not_lt_zero _)⟩
          rw [cumulative_cons, cumulative_zero, add_zero]
          exact reached
        · intro ⟨_, _, first⟩
          cases index with
          | zero => rfl
          | succ index =>
              have beyond := first 0 (Nat.succ_pos _)
              rw [cumulative_cons, cumulative_zero, add_zero] at beyond
              exact absurd reached (not_le.mpr beyond)
      · rw [if_neg used]
        have beyond : weight < draw := sub_pos.mp (not_le.mp used)
        cases index with
        | zero =>
            constructor
            · intro impossible
              obtain ⟨later, _, same⟩ := Option.map_eq_some_iff.mp impossible
              exact absurd same (Nat.succ_ne_zero later)
            · intro ⟨_, reached, _⟩
              rw [cumulative_cons, cumulative_zero, add_zero] at reached
              exact absurd reached (not_le.mpr beyond)
        | succ index =>
            have shifted : (countdown (draw - weight) rest).map (fun index => index + 1) =
                some (index + 1) ↔ countdown (draw - weight) rest = some index := by
              cases countdown (draw - weight) rest <;> simp
            rw [shifted, ih, List.length_cons, cumulative_cons, sub_le_iff_le_add']
            have positions : (∀ earlier < index, cumulative rest (earlier + 1) < draw - weight) ↔
                ∀ earlier < index + 1, cumulative (weight :: rest) (earlier + 1) < draw := by
              constructor
              · intro inRest earlier before
                cases earlier with
                | zero =>
                    rw [cumulative_cons, cumulative_zero, add_zero]
                    exact beyond
                | succ earlier =>
                    rw [cumulative_cons, ← lt_sub_iff_add_lt']
                    exact inRest earlier (Nat.lt_of_succ_lt_succ before)
              · intro inAll earlier before
                have later := inAll (earlier + 1) (Nat.succ_lt_succ before)
                rw [cumulative_cons, ← lt_sub_iff_add_lt'] at later
                exact later
            rw [positions, Nat.succ_lt_succ_iff]

theorem exists_countdown {draw : K} {weights : List K} (nonempty : weights ≠ [])
    (bounded : draw ≤ weights.sum) : ∃ index, countdown draw weights = some index := by
  induction weights generalizing draw with
  | nil => exact absurd rfl nonempty
  | cons weight rest ih =>
      unfold countdown
      by_cases used : draw - weight ≤ 0
      · rw [if_pos used]
        exact ⟨0, rfl⟩
      · rw [if_neg used]
        rw [List.sum_cons, ← sub_le_iff_le_add'] at bounded
        have some : rest ≠ [] := by
          rintro rfl
          exact used bounded
        obtain ⟨index, found⟩ := ih some bounded
        rw [found]
        exact ⟨index + 1, rfl⟩

/-- With positive weights it is enough that the item before is not drawn. -/
theorem countdown_eq_some_iff_between {draw : K} {weights : List K} {index : Nat}
    (positive : ∀ weight ∈ weights, 0 < weight) (inside : index < weights.length) :
    countdown draw weights = some index ↔
      draw ≤ cumulative weights (index + 1) ∧ (index = 0 ∨ cumulative weights index < draw) := by
  rw [countdown_eq_some_iff]
  constructor
  · intro ⟨_, reached, first⟩
    refine ⟨reached, ?_⟩
    cases index with
    | zero => exact .inl rfl
    | succ index => exact .inr (first index (Nat.lt_succ_self _))
  · intro ⟨reached, before⟩
    refine ⟨inside, reached, fun earlier isBefore => ?_⟩
    rcases before with rfl | before
    · exact absurd isBefore (Nat.not_lt_zero _)
    · exact (cumulative_mono positive isBefore).trans_lt before

end Cumulative

section Shares

variable {K : Type} [Field K] [LinearOrder K] [IsStrictOrderedRing K]

/-- An interval between two bounds; either of them may belong to it. -/
def Spans (shares : Set K) (lower upper : K) : Prop :=
  Set.Ioo lower upper ⊆ shares ∧ shares ⊆ Set.Icc lower upper

/-- The shares of the sum that draw the item at a position. -/
def drawingShares (weights : List K) (index : Nat) : Set K :=
  Set.Ico 0 1 ∩ {share | countdown (share * weights.sum) weights = some index}

theorem drawingShares_spans {weights : List K} (positive : ∀ weight ∈ weights, 0 < weight)
    {index : Nat} {weight : K} (atIndex : weights[index]? = some weight) :
    Spans (drawingShares weights index) (cumulative weights index / weights.sum)
      (cumulative weights index / weights.sum + weight / weights.sum) := by
  obtain ⟨inside, _⟩ := List.getElem?_eq_some_iff.mp atIndex
  have nonempty : weights ≠ [] := List.ne_nil_of_length_pos (by omega)
  have total : 0 < weights.sum := List.sum_pos weights positive nonempty
  have upper : cumulative weights index / weights.sum + weight / weights.sum =
      cumulative weights (index + 1) / weights.sum := by
    rw [cumulative_succ atIndex, add_div]
  have most : cumulative weights (index + 1) ≤ weights.sum := by
    rw [← cumulative_length]
    exact cumulative_mono positive inside
  have least : 0 ≤ cumulative weights index := by
    rw [← cumulative_zero weights]
    exact cumulative_mono positive (Nat.zero_le index)
  rw [upper]
  constructor
  · intro share ⟨above, below⟩
    refine ⟨⟨(div_nonneg least total.le).trans above.le, ?_⟩, ?_⟩
    · exact below.trans_le (div_le_one_of_le₀ most total.le)
    · exact (countdown_eq_some_iff_between positive inside).mpr
        ⟨((lt_div_iff₀ total).mp below).le, .inr ((div_lt_iff₀ total).mp above)⟩
  · intro share ⟨⟨nonneg, _⟩, drawn⟩
    obtain ⟨reached, before⟩ := (countdown_eq_some_iff_between positive inside).mp drawn
    refine ⟨?_, (le_div_iff₀ total).mpr reached⟩
    rcases before with rfl | before
    · rw [cumulative_zero, zero_div]
      exact nonneg
    · exact ((div_lt_iff₀ total).mpr before).le

theorem drawingShares_partition {weights : List K} (nonempty : weights ≠ [])
    (positive : ∀ weight ∈ weights, 0 < weight) {share : K} (inside : share ∈ Set.Ico 0 1) :
    ∃! index, index < weights.length ∧ share ∈ drawingShares weights index := by
  have total : 0 < weights.sum := List.sum_pos weights positive nonempty
  have bounded : share * weights.sum ≤ weights.sum :=
    mul_le_of_le_one_left total.le inside.2.le
  obtain ⟨index, drawn⟩ := exists_countdown nonempty bounded
  refine ⟨index, ⟨(countdown_eq_some_iff.mp drawn).1, inside, drawn⟩, ?_⟩
  intro other ⟨_, _, same⟩
  exact Option.some.inj (same.symm.trans drawn)

end Shares

end ImagePipeline.Library
