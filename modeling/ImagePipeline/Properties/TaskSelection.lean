/-
`selectTask` draws every entry of a profile for a part of the random numbers that
is as large as its part of the weights.
-/

import ImagePipeline.Loadtest.Profiles

namespace ImagePipeline.Properties.TaskSelection

open Common Loadtest
open Library (cumulative countdown countdown_eq_some_iff exists_countdown Spans drawingShares
  drawingShares_spans drawingShares_partition)

variable {K : Type} [Field K] [LinearOrder K]

def weights (profile : List (Entry K)) : List K := profile.map Entry.weight

/-- The random numbers for which the loop returns at an entry. -/
def drawsOf (profile : List (Entry K)) (index : Nat) : Set K :=
  {random | 0 ≤ random ∧ random < 1 ∧
    ∃ entry, selectLoop (random * totalWeight profile) 0 profile = some (index, entry)}

theorem selectLoop_eq_some_iff {profile : List (Entry K)} {randomValue : K} {index : Nat}
    {entry : Entry K} :
    selectLoop randomValue 0 profile = some (index, entry) ↔
      countdown randomValue (weights profile) = some index ∧ profile[index]? = some entry := by
  rw [selectLoop_eq, weights]
  constructor
  · intro found
    obtain ⟨position, counted, atPosition⟩ := Option.bind_eq_some_iff.mp found
    obtain ⟨_, atIndex, same⟩ := Option.map_eq_some_iff.mp atPosition
    rw [Nat.zero_add] at same
    cases same
    exact ⟨counted, atIndex⟩
  · intro ⟨counted, atIndex⟩
    rw [counted, Option.bind_some, atIndex, Option.map_some, Nat.zero_add]

variable [IsStrictOrderedRing K]

/-- The object is the one that the catalog has for the task of the entry. -/
structure Describes (numberText : PyFloat → Str) (catalog : Catalog K) (entry : Entry K)
    (task : TaskSpec) (selected : SelectedTask) : Prop where
  defined : catalog.tasks.lookup entry.task = some task
  name : selected.name = entry.task
  taskClass : selected.taskClass = task.taskClass
  imageSize : selected.imageSize = task.imageSize
  pipeline : selected.pipeline = stringify numberText task.pipeline
  image : selected.image = catalog.images.lookup task.imageSize

structure SelectionExact (numberText : PyFloat → Str) (catalog : Catalog K) (profileName : Str)
    (profile : List (Entry K)) : Prop where
  /-- The loop returns at the first entry that reaches the draw, so the code
  after it does not run, and the task of that entry is returned. -/
  first : ∀ random, 0 ≤ random → random < 1 → ∃ index entry task selected,
    profile[index]? = some entry ∧
    random * totalWeight profile ≤ cumulative (weights profile) (index + 1) ∧
    (∀ earlier < index,
      cumulative (weights profile) (earlier + 1) < random * totalWeight profile) ∧
    selectLoop (random * totalWeight profile) 0 profile = some (index, entry) ∧
    selectTask numberText catalog profileName random = .ok selected ∧
    Describes numberText catalog entry task selected
  intervals : ∀ index entry, profile[index]? = some entry →
    Spans (drawsOf profile index) (cumulative (weights profile) index / totalWeight profile)
      (cumulative (weights profile) index / totalWeight profile +
        entry.weight / totalWeight profile)
  partition : ∀ random, 0 ≤ random → random < 1 →
    ∃! index, index < profile.length ∧ random ∈ drawsOf profile index

theorem exists_entry {profile : List (Entry K)} {randomValue : K} {index : Nat}
    (counted : countdown randomValue (weights profile) = some index) :
    ∃ entry, profile[index]? = some entry := by
  have inside := (countdown_eq_some_iff.mp counted).1
  rw [weights, List.length_map] at inside
  exact ⟨profile[index], List.getElem?_eq_getElem inside⟩

theorem drawsOf_eq (profile : List (Entry K)) (index : Nat) :
    drawsOf profile index = drawingShares (weights profile) index := by
  ext random
  unfold drawsOf drawingShares
  rw [totalWeight_eq]
  constructor
  · intro ⟨nonneg, below, entry, drawn⟩
    exact ⟨⟨nonneg, below⟩, (selectLoop_eq_some_iff.mp drawn).1⟩
  · intro ⟨⟨nonneg, below⟩, counted⟩
    obtain ⟨entry, atIndex⟩ := exists_entry counted
    exact ⟨nonneg, below, entry, selectLoop_eq_some_iff.mpr ⟨counted, atIndex⟩⟩

variable {catalog : Catalog K} {profileName : Str} {profile : List (Entry K)}

theorem task_selection_exact (numberText : PyFloat → Str)
    (found : catalog.profiles.lookup profileName = some profile) (nonempty : profile ≠ [])
    (positive : ∀ entry ∈ profile, 0 < entry.weight)
    (defined : ∀ entry ∈ profile, ∃ task, catalog.tasks.lookup entry.task = some task) :
    SelectionExact numberText catalog profileName profile := by
  have some : weights profile ≠ [] := by simpa [weights] using nonempty
  have positives : ∀ weight ∈ weights profile, 0 < weight := by
    intro weight member
    obtain ⟨entry, present, rfl⟩ := List.mem_map.mp member
    exact positive entry present
  have total : totalWeight profile = (weights profile).sum := totalWeight_eq profile
  constructor
  · intro random nonneg below
    have bounded : random * totalWeight profile ≤ (weights profile).sum := by
      rw [total]
      exact mul_le_of_le_one_left (List.sum_pos _ positives some).le below.le
    obtain ⟨index, counted⟩ := exists_countdown some bounded
    obtain ⟨entry, atIndex⟩ := exists_entry counted
    have drawn : selectLoop (random * totalWeight profile) 0 profile = .some (index, entry) :=
      selectLoop_eq_some_iff.mpr ⟨counted, atIndex⟩
    obtain ⟨_, reached, earlier⟩ := countdown_eq_some_iff.mp counted
    obtain ⟨task, isTask⟩ := defined entry (List.mem_of_getElem? atIndex)
    refine ⟨index, entry, task, selectedTask numberText catalog entry task, atIndex, reached,
      earlier, drawn, ?_, ⟨isTask, rfl, rfl, rfl, rfl, rfl⟩⟩
    unfold selectTask
    rw [found]
    dsimp only
    rw [drawn]
    dsimp only
    rw [isTask]
  · intro index entry atIndex
    rw [drawsOf_eq, total]
    refine drawingShares_spans positives ?_
    rw [weights, List.getElem?_map, atIndex, Option.map_some]
  · intro random nonneg below
    have only := drawingShares_partition some positives ⟨nonneg, below⟩
    have entries : (weights profile).length = profile.length := List.length_map _
    rw [entries] at only
    simpa only [drawsOf_eq] using only

/-- The mixed profile of the repository. -/
def mixedProfile : List (Entry Rat) := (profileTable.lookup (str "representative_mixed")).getD []

theorem task_selection_exact_mixed :
    SelectionExact (fun _ => []) (profileCatalog []) (str "representative_mixed") mixedProfile := by
  have known := profileTable_defined (str "representative_mixed", mixedProfile)
    (by decide +kernel)
  exact task_selection_exact _ rfl (by decide +kernel) (fun entry member => (known entry member).1)
    (fun entry member => Option.isSome_iff_exists.mp (known entry member).2)

end ImagePipeline.Properties.TaskSelection
