/-
Lists grouped by a key, in the order in which the keys first occur. The group of
a key is what a filter for the key leaves, so each item is in one group; the
average of all items lies between the averages of the groups.
The items with a tag can be counted tag by tag.
-/

import Mathlib.Algebra.BigOperators.Group.List.Basic
import Mathlib.Algebra.BigOperators.Ring.List
import Mathlib.Algebra.GroupWithZero.Nat
import Mathlib.Algebra.Order.BigOperators.Group.List
import Mathlib.Algebra.Order.Field.Basic
import Mathlib.Algebra.Order.Group.Nat
import Mathlib.Algebra.Ring.Nat
import Mathlib.Data.List.Induction
import Mathlib.Data.List.Nodup

namespace ImagePipeline.Library

variable {α κ : Type} [DecidableEq κ]

/-- An item is put at the end of the group of its key. -/
def insertGroup (key : κ) (item : α) : List (κ × List α) → List (κ × List α)
  | [] => [(key, [item])]
  | (other, group) :: rest =>
      if other = key then (other, group ++ [item]) :: rest
      else (other, group) :: insertGroup key item rest

def groupBy (key : α → κ) (items : List α) : List (κ × List α) :=
  items.foldl (fun groups item => insertGroup (key item) item groups) []

theorem groupBy_append (key : α → κ) (items : List α) (item : α) :
    groupBy key (items ++ [item]) = insertGroup (key item) item (groupBy key items) := by
  rw [groupBy, List.foldl_append]
  rfl

theorem keys_insertGroup (key : κ) (item : α) (groups : List (κ × List α)) :
    (insertGroup key item groups).map Prod.fst =
      if key ∈ groups.map Prod.fst then groups.map Prod.fst else groups.map Prod.fst ++ [key] := by
  induction groups with
  | nil => rfl
  | cons head rest ih =>
      obtain ⟨other, group⟩ := head
      unfold insertGroup
      by_cases same : other = key
      · have first : key ∈ other :: rest.map Prod.fst := by
          rw [same]
          exact List.mem_cons_self
        rw [if_pos same, List.map_cons, List.map_cons, if_pos first]
      · rw [if_neg same, List.map_cons, ih, List.map_cons]
        by_cases known : key ∈ rest.map Prod.fst
        · rw [if_pos known, if_pos (List.mem_cons_of_mem _ known)]
        · have fresh : key ∉ other :: rest.map Prod.fst := by
            intro member
            rcases List.mem_cons.mp member with equal | later
            · exact same equal.symm
            · exact known later
          rw [if_neg known, if_neg fresh]
          rfl

theorem mem_insertGroup {key : κ} {item : α} {groups : List (κ × List α)} {entry : κ × List α}
    (distinct : (groups.map Prod.fst).Nodup) :
    entry ∈ insertGroup key item groups ↔
      (entry ∈ groups ∧ entry.1 ≠ key) ∨
      (entry.1 = key ∧ ((∃ group, (key, group) ∈ groups ∧ entry.2 = group ++ [item]) ∨
        (key ∉ groups.map Prod.fst ∧ entry.2 = [item]))) := by
  induction groups with
  | nil =>
      obtain ⟨name, group⟩ := entry
      simp [insertGroup]
  | cons head rest ih =>
      obtain ⟨other, group⟩ := head
      obtain ⟨name, members⟩ := entry
      rw [List.map_cons, List.nodup_cons] at distinct
      obtain ⟨fresh, distinct⟩ := distinct
      unfold insertGroup
      by_cases same : other = key
      · subst same
        have absent (group : List α) : (other, group) ∉ rest := by
          intro member
          exact fresh (List.mem_map.mpr ⟨_, member, rfl⟩)
        by_cases named : name = other
        · subst named
          simp [absent]
        · simp [named]
      · rw [if_neg same, List.mem_cons, ih distinct]
        by_cases named : name = key
        · subst named
          simp [Ne.symm same]
        · simp [named]

theorem groupBy_distinct (key : α → κ) (items : List α) :
    ((groupBy key items).map Prod.fst).Nodup := by
  induction items using List.reverseRecOn with
  | nil => exact List.nodup_nil
  | append_singleton items item ih =>
      rw [groupBy_append, keys_insertGroup]
      split
      · exact ih
      · rename_i fresh
        exact List.nodup_append.mpr ⟨ih, List.nodup_singleton _, fun other member last same => by
          rintro rfl
          exact fresh (List.mem_singleton.mp same ▸ member)⟩

/-- The groups are what the filters for the keys leave. -/
theorem mem_groupBy {key : α → κ} {items : List α} {entry : κ × List α} :
    entry ∈ groupBy key items ↔
      entry.2 = items.filter (fun item => key item = entry.1) ∧ entry.2 ≠ [] := by
  induction items using List.reverseRecOn generalizing entry with
  | nil =>
      constructor
      · intro impossible
        cases impossible
      · intro ⟨empty, nonempty⟩
        exact absurd empty nonempty
  | append_singleton items item ih =>
      rw [groupBy_append, mem_insertGroup (groupBy_distinct key items), List.filter_append]
      have fresh : key item ∉ (groupBy key items).map Prod.fst ↔
          items.filter (fun other => key other = key item) = [] := by
        constructor
        · intro absent
          by_contra some
          exact absent (List.mem_map.mpr ⟨(key item, _), ih.mpr ⟨rfl, some⟩, rfl⟩)
        · intro empty known
          obtain ⟨⟨name, group⟩, member, same⟩ := List.mem_map.mp known
          obtain ⟨isFilter, some⟩ := ih.mp member
          simp only at same isFilter some
          rw [same] at isFilter
          exact some (isFilter.trans empty)
      obtain ⟨name, group⟩ := entry
      simp only
      by_cases same : name = key item
      · subst same
        have own : [item].filter (fun other => key other = key item) = [item] := by simp
        rw [own, fresh]
        constructor
        · rintro (⟨_, other⟩ | ⟨_, ⟨earlier, member, extended⟩ | ⟨empty, alone⟩⟩)
          · exact absurd rfl other
          · obtain ⟨isFilter, _⟩ := ih.mp member
            simp only at isFilter
            rw [extended, isFilter]
            exact ⟨rfl, List.append_ne_nil_of_right_ne_nil _ (List.cons_ne_nil _ _)⟩
          · rw [alone, empty]
            exact ⟨rfl, List.cons_ne_nil _ _⟩
        · intro ⟨isFilter, _⟩
          refine .inr ⟨rfl, ?_⟩
          by_cases empty : items.filter (fun other => key other = key item) = []
          · rw [empty, List.nil_append] at isFilter
            exact .inr ⟨empty, isFilter⟩
          · exact .inl ⟨_, ih.mpr ⟨rfl, empty⟩, isFilter⟩
      · have none : [item].filter (fun other => key other = name) = [] := by
          simp [Ne.symm same]
        rw [none, List.append_nil, ih]
        simp [same]

theorem insertGroup_perm (key : κ) (item : α) (groups : List (κ × List α)) :
    ((insertGroup key item groups).flatMap Prod.snd).Perm (item :: groups.flatMap Prod.snd) := by
  induction groups with
  | nil => exact List.Perm.refl _
  | cons head rest ih =>
      obtain ⟨other, group⟩ := head
      unfold insertGroup
      by_cases same : other = key
      · rw [if_pos same, List.flatMap_cons, List.flatMap_cons, List.append_assoc]
        exact List.perm_middle
      · rw [if_neg same, List.flatMap_cons, List.flatMap_cons]
        exact (ih.append_left group).trans List.perm_middle

theorem groupBy_perm (key : α → κ) (items : List α) :
    ((groupBy key items).flatMap Prod.snd).Perm items := by
  induction items using List.reverseRecOn with
  | nil => exact List.Perm.refl _
  | append_singleton items item ih =>
      rw [groupBy_append]
      exact (insertGroup_perm (key item) item _).trans
        ((ih.cons item).trans (List.perm_append_singleton item items).symm)

theorem sum_length_groupBy (key : α → κ) (items : List α) :
    ((groupBy key items).map (fun group => group.2.length)).sum = items.length := by
  rw [← List.length_flatMap]
  exact (groupBy_perm key items).length_eq

theorem filter_insertGroup (kept : κ → Bool) (key : κ) (item : α) (groups : List (κ × List α)) :
    (insertGroup key item groups).filter (fun group => kept group.1) =
      if kept key then insertGroup key item (groups.filter (fun group => kept group.1))
      else groups.filter (fun group => kept group.1) := by
  induction groups with
  | nil => cases keep : kept key <;> simp [insertGroup, keep]
  | cons head rest ih =>
      obtain ⟨other, group⟩ := head
      by_cases same : other = key
      · subst same
        rw [insertGroup, if_pos rfl]
        cases keep : kept other with
        | false => simp [keep]
        | true => simp [keep, insertGroup]
      · rw [insertGroup, if_neg same, List.filter_cons, List.filter_cons, ih]
        cases keepOther : kept other with
        | false => rfl
        | true =>
            cases keep : kept key with
            | false => rfl
            | true => simp [insertGroup, same]

theorem filter_groupBy (kept : κ → Bool) (key : α → κ) (items : List α) :
    (groupBy key items).filter (fun group => kept group.1) =
      groupBy key (items.filter (fun item => kept (key item))) := by
  induction items using List.reverseRecOn with
  | nil => rfl
  | append_singleton items item ih =>
      rw [groupBy_append, filter_insertGroup, ih, List.filter_append]
      cases keep : kept (key item) with
      | true =>
          have alone : [item].filter (fun item => kept (key item)) = [item] := by simp [keep]
          rw [alone, groupBy_append, if_pos rfl]
      | false =>
          have none : [item].filter (fun item => kept (key item)) = [] := by simp [keep]
          rw [none, List.append_nil, if_neg Bool.false_ne_true]

theorem insertGroup_append {key : κ} {groups : List (κ × List α)}
    (fresh : key ∉ groups.map Prod.fst)
    (item : α) (rest : List (κ × List α)) :
    insertGroup key item (groups ++ rest) = groups ++ insertGroup key item rest := by
  induction groups with
  | nil => rfl
  | cons head groups ih =>
      rw [List.map_cons, List.mem_cons, not_or] at fresh
      have different : ¬head.1 = key := fun same => fresh.1 same.symm
      rw [List.cons_append, insertGroup, if_neg different, ih fresh.2]
      rfl

theorem groupBy_block {key : α → κ} {items more : List α} {name : κ} (some : more ≠ [])
    (own : ∀ item ∈ more, key item = name) (fresh : name ∉ (groupBy key items).map Prod.fst) :
    groupBy key (items ++ more) = groupBy key items ++ [(name, more)] := by
  induction more using List.reverseRecOn with
  | nil => exact absurd rfl some
  | append_singleton more item ih =>
      have last : key item = name := own item (List.mem_append_right _ List.mem_cons_self)
      rw [← List.append_assoc, groupBy_append, last]
      by_cases only : more = []
      · rw [only, List.append_nil]
        have alone := insertGroup_append fresh item []
        rw [List.append_nil] at alone
        exact alone
      · rw [ih only (fun other member => own other (List.mem_append_left _ member)),
          insertGroup_append fresh]
        simp only [insertGroup, if_true]

/-- Blocks with a key each are the groups of the list that they make up. -/
theorem groupBy_blocks {key : α → κ} {blocks : List (κ × List α)}
    (distinct : (blocks.map Prod.fst).Nodup)
    (own : ∀ block ∈ blocks, block.2 ≠ [] ∧ ∀ item ∈ block.2, key item = block.1) :
    groupBy key (blocks.flatMap Prod.snd) = blocks := by
  induction blocks using List.reverseRecOn with
  | nil => rfl
  | append_singleton blocks block ih =>
      rw [List.map_append, List.nodup_append] at distinct
      have earlier := ih distinct.1 fun other member => own other (List.mem_append_left _ member)
      obtain ⟨some, named⟩ := own block (List.mem_append_right _ List.mem_cons_self)
      have fresh : block.1 ∉ (groupBy key (blocks.flatMap Prod.snd)).map Prod.fst := by
        rw [earlier]
        exact fun member => distinct.2.2 _ member _ List.mem_cons_self rfl
      rw [List.flatMap_append, List.flatMap_singleton, groupBy_block some named fresh, earlier]

theorem lookup_of_mem {ν : Type} [BEq ν] [LawfulBEq ν] {entries : List (ν × α)}
    (distinct : (entries.map Prod.fst).Nodup) {key : ν} {value : α}
    (member : (key, value) ∈ entries) : entries.lookup key = some value := by
  obtain ⟨before, after, split⟩ := List.append_of_mem member
  subst split
  rw [List.lookup_eq_some_iff]
  refine ⟨before, after, rfl, ?_⟩
  intro earlier present
  rw [List.map_append, List.nodup_append] at distinct
  have other := distinct.2.2 earlier.1 (List.mem_map_of_mem present) key
    (List.mem_map_of_mem List.mem_cons_self)
  exact bne_iff_ne.mpr (Ne.symm other)

/-! ### Averages -/

section Averages

variable {K : Type} [Field K]

def average (values : List K) : K := values.sum / values.length

theorem average_perm {values others : List K} (same : values.Perm others) :
    average values = average others := by
  rw [average, average, same.sum_eq, same.length_eq]

variable [LinearOrder K] [IsStrictOrderedRing K]

theorem sum_eq_length_mul {values : List K} (some : values ≠ []) :
    values.sum = values.length * average values := by
  have positive : (0 : K) < values.length := by
    exact_mod_cast List.length_pos_iff.mpr some
  rw [average, mul_div_cancel₀ _ positive.ne']

theorem sum_averages {blocks : List (List K)} (full : ∀ block ∈ blocks, block ≠ []) :
    (blocks.map (fun block => (block.length : K) * average block)).sum =
      blocks.flatten.sum := by
  rw [List.sum_flatten]
  exact congrArg List.sum (List.map_congr_left fun block member =>
    (sum_eq_length_mul (full block member)).symm)

theorem average_between_full {blocks : List (List K)} (some : blocks.flatten ≠ [])
    (full : ∀ block ∈ blocks, block ≠ []) :
    (∃ block ∈ blocks, average block ≤ average blocks.flatten) ∧
      ∃ block ∈ blocks, average blocks.flatten ≤ average block := by
  have blocked : blocks ≠ [] := by
    rintro rfl
    exact some rfl
  have weighed : (blocks.map (fun block => (block.length : K) * average blocks.flatten)).sum =
      blocks.flatten.sum := by
    rw [List.sum_map_mul_right, sum_eq_length_mul some, List.length_flatten,
      ← Nat.coe_castAddMonoidHom, map_list_sum, List.map_map]
    rfl
  have cancel {block : List K} (member : block ∈ blocks) : (0 : K) < block.length := by
    exact_mod_cast List.length_pos_iff.mpr (full block member)
  constructor
  · obtain ⟨block, member, below⟩ := List.exists_le_of_sum_le blocked _ _
      ((sum_averages full).trans weighed.symm).le
    exact ⟨block, member, le_of_mul_le_mul_left below (cancel member)⟩
  · obtain ⟨block, member, above⟩ := List.exists_le_of_sum_le blocked _ _
      (weighed.trans (sum_averages full).symm).le
    exact ⟨block, member, le_of_mul_le_mul_left above (cancel member)⟩

/-- The average of all lies between the averages of some two blocks. -/
theorem average_between {blocks : List (List K)} (some : blocks.flatten ≠ []) :
    (∃ block ∈ blocks, block ≠ [] ∧ average block ≤ average blocks.flatten) ∧
      ∃ block ∈ blocks, block ≠ [] ∧ average blocks.flatten ≤ average block := by
  have same : (blocks.filter (fun block => block ≠ [])).flatten = blocks.flatten :=
    List.flatten_filter_ne_nil
  have kept {block : List K} (member : block ∈ blocks.filter (fun block => block ≠ [])) :
      block ∈ blocks ∧ block ≠ [] := by
    obtain ⟨inside, nonempty⟩ := List.mem_filter.mp member
    exact ⟨inside, of_decide_eq_true nonempty⟩
  obtain ⟨⟨lower, inLower, below⟩, upper, inUpper, above⟩ :=
    average_between_full (same ▸ some) fun block member => (kept member).2
  rw [same] at below above
  exact ⟨⟨lower, (kept inLower).1, (kept inLower).2, below⟩,
    upper, (kept inUpper).1, (kept inUpper).2, above⟩

end Averages

/-! ### Counts -/

theorem sum_indicator {α κ : Type} [DecidableEq α] (tag : κ → α) (keys : List κ) (item : α) :
    (keys.map (fun key => if tag key = item then 1 else 0)).sum = (keys.map tag).count item := by
  induction keys with
  | nil => rfl
  | cons key rest ih =>
      simp only [List.map_cons, List.sum_cons, ih, List.count_cons, beq_iff_eq]
      omega

/-- If no tag is given twice, the items with a tag are counted once each. -/
theorem sum_count_tags {α κ : Type} [DecidableEq α] {tag : κ → α} {keys : List κ}
    (distinct : (keys.map tag).Nodup) (items : List α) :
    (keys.map (fun key => items.count (tag key))).sum =
      items.countP (fun item => item ∈ keys.map tag) := by
  induction items with
  | nil => simp
  | cons item rest ih =>
      have terms : keys.map (fun key => (item :: rest).count (tag key)) =
          keys.map (fun key => rest.count (tag key) + if tag key = item then 1 else 0) := by
        simp only [List.count_cons, beq_iff_eq, @eq_comm _ item]
      rw [terms, List.sum_map_add, ih, sum_indicator, List.countP_cons]
      congr 1
      by_cases tagged : item ∈ keys.map tag
      · rw [List.count_eq_one_of_mem distinct tagged, if_pos (decide_eq_true tagged)]
      · rw [List.count_eq_zero_of_not_mem tagged, if_neg (by simpa using tagged)]

/-- Of two sums whose terms are ordered, none is larger exactly if all terms agree. -/
theorem sum_eq_iff_of_le {α : Type} {items : List α} {smaller larger : α → Nat}
    (ordered : ∀ item ∈ items, smaller item ≤ larger item) :
    (items.map smaller).sum = (items.map larger).sum ↔
      ∀ item ∈ items, smaller item = larger item := by
  induction items with
  | nil => simp
  | cons item rest ih =>
      have first := ordered item List.mem_cons_self
      have later : ∀ other ∈ rest, smaller other ≤ larger other :=
        fun other member => ordered other (List.mem_cons_of_mem _ member)
      have rests := List.sum_le_sum later
      simp only [List.map_cons, List.sum_cons, List.forall_mem_cons, ← ih later]
      omega

end ImagePipeline.Library
