/-
Sorting by a comparison that may raise. Every item is compared with some other
one, so if comparable items fall into classes, the sort returns exactly if all
of them are in the same class.
-/

import ImagePipeline.Library.Itemwise
import Mathlib.Data.List.Induction
import Mathlib.Data.List.Pairwise
import Mathlib.Data.List.Perm.Basic

namespace ImagePipeline.Library

variable {α ε : Type} {less : α → α → Except ε Bool}

/-- An item goes in front of the first one that it is less than. -/
def insertBefore (less : α → α → Except ε Bool) (item : α) : List α → Except ε (List α)
  | [] => .ok [item]
  | other :: rest => do
      if ← less item other then pure (item :: other :: rest)
      else do
        let inserted ← insertBefore less item rest
        pure (other :: inserted)

/-- A stable sort: equal items stay in their order. -/
def raisingSort (less : α → α → Except ε Bool) (items : List α) : Except ε (List α) :=
  items.foldlM (fun sorted item => insertBefore less item sorted) []

theorem insertBefore_perm {item : α} {items sorted : List α}
    (inserted : insertBefore less item items = .ok sorted) : sorted.Perm (item :: items) := by
  induction items generalizing sorted with
  | nil =>
      cases inserted
      exact .refl _
  | cons other rest ih =>
      obtain ⟨before, _, branch⟩ := bind_ok_iff.mp inserted
      cases before with
      | true =>
          cases branch
          exact .refl _
      | false =>
          obtain ⟨later, atRest, same⟩ := bind_ok_iff.mp branch
          cases same
          exact ((ih atRest).cons other).trans (.swap item other rest)

theorem insertBefore_compares {item other : α} {rest sorted : List α}
    (inserted : insertBefore less item (other :: rest) = .ok sorted) :
    ∃ before, less item other = .ok before := by
  obtain ⟨before, compared, _⟩ := bind_ok_iff.mp inserted
  exact ⟨before, compared⟩

theorem insertBefore_returns {item : α} {items : List α}
    (compares : ∀ other ∈ items, ∃ before, less item other = .ok before) :
    ∃ sorted, insertBefore less item items = .ok sorted := by
  induction items with
  | nil => exact ⟨[item], rfl⟩
  | cons other rest ih =>
      obtain ⟨before, compared⟩ := compares other List.mem_cons_self
      obtain ⟨later, atRest⟩ := ih fun further member =>
        compares further (List.mem_cons_of_mem _ member)
      unfold insertBefore
      rw [compared]
      cases before with
      | true => exact ⟨_, rfl⟩
      | false =>
          simp only [bind, Except.bind, Bool.false_eq_true, if_false, atRest]
          exact ⟨_, rfl⟩

theorem raisingSort_concat (items : List α) (item : α) :
    raisingSort less (items ++ [item]) =
      (raisingSort less items) >>= fun sorted => insertBefore less item sorted := by
  unfold raisingSort
  rw [List.foldlM_append]
  congr 1
  funext sorted
  rw [List.foldlM_cons]
  cases insertBefore less item sorted <;> rfl

theorem raisingSort_perm {items sorted : List α} (returned : raisingSort less items = .ok sorted) :
    sorted.Perm items := by
  induction items using List.reverseRecOn generalizing sorted with
  | nil =>
      cases returned
      exact .refl _
  | append_singleton items item ih =>
      rw [raisingSort_concat] at returned
      obtain ⟨earlier, sortedEarlier, inserted⟩ := bind_ok_iff.mp returned
      exact (insertBefore_perm inserted).trans
        (((ih sortedEarlier).cons item).trans (List.perm_append_singleton item items).symm)

/-- A comparison that returns on the items of one class. -/
structure ComparesWithin (less : α → α → Except ε Bool) (alike : α → α → Prop) (items : List α) :
    Prop where
  symm : ∀ left right, alike left right → alike right left
  trans : ∀ left middle right, alike left middle → alike middle right → alike left right
  compares : ∀ left ∈ items, ∀ right ∈ items,
    (∃ before, less left right = .ok before) ↔ alike left right

theorem ComparesWithin.left {alike : α → α → Prop} {items more : List α}
    (within : ComparesWithin less alike (items ++ more)) : ComparesWithin less alike items :=
  { symm := within.symm
    trans := within.trans
    compares := fun left atLeft right atRight => within.compares left
      (List.mem_append_left _ atLeft) right (List.mem_append_left _ atRight) }

theorem raisingSort_returns_iff {alike : α → α → Prop} {items : List α}
    (within : ComparesWithin less alike items) :
    (∃ sorted, raisingSort less items = .ok sorted) ↔ items.Pairwise alike := by
  induction items using List.reverseRecOn with
  | nil => exact iff_of_true ⟨[], rfl⟩ .nil
  | append_singleton items item ih =>
      have last : item ∈ items ++ [item] := List.mem_append_right _ List.mem_cons_self
      rw [raisingSort_concat, List.pairwise_append]
      constructor
      · intro ⟨sorted, returned⟩
        obtain ⟨earlier, sortedEarlier, inserted⟩ := bind_ok_iff.mp returned
        have ordered := (ih within.left).mp ⟨earlier, sortedEarlier⟩
        refine ⟨ordered, List.pairwise_singleton _ _, ?_⟩
        intro left member right atRight
        rw [List.mem_singleton.mp atRight]
        have sameItems := raisingSort_perm sortedEarlier
        cases earlier with
        | nil => exact absurd (List.nil_perm.mp sameItems) (List.ne_nil_of_mem member)
        | cons other rest =>
            -- all items are alike the first one of the sorted ones, and so is the new one
            have otherIn := sameItems.mem_iff.mp List.mem_cons_self
            have toOther := (within.compares item last other (List.mem_append_left _ otherIn)).mp
              (insertBefore_compares inserted)
            by_cases same : left = other
            · rw [same]
              exact within.symm _ _ toOther
            · have symmetric : Std.Symm alike := ⟨fun left right => within.symm left right⟩
              have leftOther := ordered.forall member otherIn same
              exact within.trans _ _ _ leftOther (within.symm _ _ toOther)
      · intro ⟨ordered, _, across⟩
        obtain ⟨earlier, sortedEarlier⟩ := (ih within.left).mpr ordered
        have compares : ∀ other ∈ earlier, ∃ before, less item other = .ok before := by
          intro other member
          have otherIn := (raisingSort_perm sortedEarlier).mem_iff.mp member
          exact (within.compares item last other (List.mem_append_left _ otherIn)).mpr
            (within.symm _ _ (across other otherIn item List.mem_cons_self))
        obtain ⟨sorted, inserted⟩ := insertBefore_returns compares
        exact ⟨sorted, bind_ok_iff.mpr ⟨earlier, sortedEarlier, inserted⟩⟩

end ImagePipeline.Library
