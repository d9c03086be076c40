/-
`selectTask` of `loadtests/jobs.js` and the tables of `loadtests/profiles.js` it
reads. Numbers are exact; their type is a parameter.
-/

import ImagePipeline.Loadtest.JsonStringify
import ImagePipeline.Library.WeightedDraw
import Mathlib.Algebra.Order.Ring.Rat

namespace ImagePipeline.Loadtest

open Common
open Library (countdown)

structure TaskSpec where
  taskClass : Str
  imageSize : Str
  pipeline : Json

structure Entry (K : Type) where
  task : Str
  weight : K
  deriving DecidableEq

/-- What the script reads from `profiles.js` and from the image files. -/
structure Catalog (K : Type) where
  profiles : List (Str × List (Entry K))
  tasks : List (Str × TaskSpec)
  images : List (Str × Bytes)

/-- The object that `selectTask` returns; `image` may be `undefined`. -/
structure SelectedTask where
  name : Str
  taskClass : Str
  imageSize : Str
  pipeline : Str
  image : Option Bytes

inductive SelectError where
  | error (message : Str)
  | typeError

section Select

variable {K : Type} [CommRing K]

def totalWeight (profile : List (Entry K)) : K :=
  profile.foldl (fun sum entry => sum + entry.weight) 0

variable [LinearOrder K]

/-- The loop of `selectTask`: where it returns, and at which entry. -/
def selectLoop (randomValue : K) (index : Nat) : List (Entry K) → Option (Nat × Entry K)
  | [] => none
  | entry :: rest =>
      let randomValue := randomValue - entry.weight
      if randomValue ≤ 0 then some (index, entry) else selectLoop randomValue (index + 1) rest

variable (numberText : PyFloat → Str) (catalog : Catalog K)

def selectedTask (entry : Entry K) (task : TaskSpec) : SelectedTask :=
  { name := entry.task
    taskClass := task.taskClass
    imageSize := task.imageSize
    pipeline := stringify numberText task.pipeline
    image := catalog.images.lookup task.imageSize }

/-- `random` is what `Math.random()` returns. -/
def selectTask (profileName : Str) (random : K) : Except SelectError SelectedTask :=
  match catalog.profiles.lookup profileName with
  | none => .error (.error (str "Unknown PROFILE: " ++ profileName))
  | some profile =>
      match selectLoop (random * totalWeight profile) 0 profile with
      | some (_, entry) =>
          match catalog.tasks.lookup entry.task with
          | some task => .ok (selectedTask numberText catalog entry task)
          | none => .error (.error (str "Unknown task in profile: " ++ entry.task))
      | none =>
          match profile.getLast? with
          | none => .error .typeError
          | some fallback =>
              match catalog.tasks.lookup fallback.task with
              | some task => .ok (selectedTask numberText catalog fallback task)
              | none => .error .typeError

end Select

/-! ### The tables -/

def operation (name : String) (parameters : Dict) : Json :=
  .obj [(str "operation", .str (str name)), (str "parameters", .obj parameters)]

def profileTasks : List (Str × TaskSpec) :=
  [(str "light_grayscale_small",
      ⟨str "light", str "small", .arr [operation "grayscale" []]⟩),
    (str "light_rotate_small",
      ⟨str "light", str "small", .arr [operation "rotate" [(str "angle", .int 90)]]⟩),
    (str "light_region_blur_medium",
      ⟨str "light", str "medium", .arr [operation "blur" [(str "radius", .int 8),
        (str "region", .obj [(str "x", .int 100), (str "y", .int 100), (str "width", .int 400),
          (str "height", .int 300)])]]⟩),
    (str "medium_thumbnail_medium",
      ⟨str "medium", str "medium",
        .arr [operation "thumbnail" [(str "width", .int 600), (str "height", .int 600)]]⟩),
    (str "medium_edge_detect_medium",
      ⟨str "medium", str "medium", .arr [operation "edge_detect" []]⟩),
    (str "heavy_blur_repeat_medium",
      ⟨str "heavy", str "medium",
        .arr [operation "blur" [(str "radius", .int 8), (str "repeat", .int 10)]]⟩),
    (str "heavy_mixed_pipeline_medium",
      ⟨str "heavy", str "medium", .arr [
        operation "thumbnail" [(str "width", .int 1200), (str "height", .int 1200)],
        operation "blur" [(str "radius", .int 6), (str "repeat", .int 5)],
        operation "sharpen" [(str "factor", .float (.finite (5 / 2))), (str "repeat", .int 3)],
        operation "edge_detect" []]⟩),
    (str "medium_edge_detect_large",
      ⟨str "medium", str "large", .arr [operation "edge_detect" []]⟩),
    (str "heavy_blur_repeat_large",
      ⟨str "heavy", str "large",
        .arr [operation "blur" [(str "radius", .int 8), (str "repeat", .int 10)]]⟩),
    (str "heavy_mixed_pipeline_large",
      ⟨str "heavy", str "large", .arr [
        operation "thumbnail" [(str "width", .int 1600), (str "height", .int 1600)],
        operation "blur" [(str "radius", .int 6), (str "repeat", .int 5)],
        operation "sharpen" [(str "factor", .float (.finite (5 / 2))), (str "repeat", .int 3)],
        operation "edge_detect" []]⟩)]

def profileTable : List (Str × List (Entry Rat)) :=
  [(str "light_only",
      [⟨str "light_grayscale_small", 40⟩, ⟨str "light_rotate_small", 30⟩,
        ⟨str "light_region_blur_medium", 30⟩]),
    (str "heavy_only",
      [⟨str "heavy_blur_repeat_medium", 70⟩, ⟨str "heavy_mixed_pipeline_medium", 30⟩]),
    (str "representative_mixed",
      [⟨str "light_grayscale_small", 15⟩, ⟨str "light_rotate_small", 10⟩,
        ⟨str "light_region_blur_medium", 10⟩, ⟨str "medium_thumbnail_medium", 15⟩,
        ⟨str "medium_edge_detect_medium", 15⟩, ⟨str "medium_edge_detect_large", 10⟩,
        ⟨str "heavy_blur_repeat_medium", 10⟩, ⟨str "heavy_blur_repeat_large", 10⟩,
        ⟨str "heavy_mixed_pipeline_large", 5⟩]),
    (str "stress_mixed",
      [⟨str "light_grayscale_small", 20⟩, ⟨str "medium_thumbnail_medium", 20⟩,
        ⟨str "heavy_blur_repeat_medium", 40⟩, ⟨str "heavy_mixed_pipeline_medium", 20⟩])]

/-- The catalog of the repository. -/
def profileCatalog (images : List (Str × Bytes)) : Catalog Rat :=
  { profiles := profileTable, tasks := profileTasks, images := images }

/-! ### The loop counts the weights down -/

section Loop

variable {K : Type} [CommRing K]

theorem totalWeight_eq (profile : List (Entry K)) :
    totalWeight profile = (profile.map Entry.weight).sum := by
  unfold totalWeight
  rw [List.sum_eq_foldl, List.foldl_map]

variable [LinearOrder K]

theorem selectLoop_eq (randomValue : K) (index : Nat) (profile : List (Entry K)) :
    selectLoop randomValue index profile =
      (countdown randomValue (profile.map Entry.weight)).bind
        (fun position => profile[position]?.map (fun entry => (index + position, entry))) := by
  induction profile generalizing randomValue index with
  | nil => rfl
  | cons entry rest ih =>
      rw [selectLoop, List.map_cons, countdown]
      by_cases used : randomValue - entry.weight ≤ 0
      · rw [if_pos used, if_pos used]
        rfl
      · rw [if_neg used, if_neg used, ih]
        cases countdown (randomValue - entry.weight) (rest.map Entry.weight) with
        | none => rfl
        | some position =>
            simp only [Option.bind_some, Option.map_some, List.getElem?_cons_succ]
            rw [Nat.add_assoc, Nat.add_comm 1 position]

end Loop

theorem profileTable_defined : ∀ profile ∈ profileTable, ∀ entry ∈ profile.2,
    0 < entry.weight ∧ (profileTasks.lookup entry.task).isSome = true := by
  decide +kernel

end ImagePipeline.Loadtest
