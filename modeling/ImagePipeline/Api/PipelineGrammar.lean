/-
The language of the pipeline form field, as a relation between JSON and steps,
and that `parse_pipeline` computes it.
-/

import ImagePipeline.Api.Pipeline
import ImagePipeline.Common.JsonValues
import ImagePipeline.Library.Itemwise

namespace ImagePipeline.Api

open Common

/-- An element of the list as the grammar has it: an object with an allowed
operation, whose parameters are absent or an object. -/
structure Denotes (item : Json) (step : PipelineStep) : Prop where
  fields : ∃ fields, item = .obj fields ∧
    Dict.get? fields (str "operation") = some (.str step.operation) ∧
    Dict.getD fields (str "parameters") (.obj []) = .obj step.parameters
  allowed : step.operation ∈ allowedOperations

theorem parseStep_ok_iff {runtime : Runtime} {item : Json} {step : PipelineStep} :
    parseStep runtime item = .ok step ↔ Denotes item step := by
  constructor
  · intro parsed
    unfold parseStep at parsed
    split at parsed
    · rename_i fields
      split at parsed
      · cases parsed
      · cases parsed
      · rename_i operation named
        split at parsed
        · rename_i allowed
          split at parsed
          · rename_i parameters given
            cases parsed
            refine ⟨⟨fields, rfl, ?_, given⟩, allowed⟩
            unfold Dict.getD at named
            cases found : Dict.get? fields (str "operation") with
            | none =>
                rw [found] at named
                cases named
            | some value =>
                rw [found] at named
                exact congrArg some named
          · cases parsed
        · cases parsed
      · cases parsed
    · cases parsed
  · rintro ⟨⟨fields, rfl, named, given⟩, allowed⟩
    have operation : Dict.getD fields (str "operation") .null = .str step.operation := by
      rw [Dict.getD, named, Option.getD_some]
    simp only [parseStep, operation, given, allowed, if_true]

theorem parsePipeline_ok_iff {runtime : Runtime} {form : Option Json}
    {pipeline : List PipelineStep} :
    parsePipeline runtime form = .ok pipeline ↔
      ∃ items, form = some (.arr items) ∧ items ≠ [] ∧ List.Forall₂ Denotes items pipeline := by
  have steps (items : List Json) : items.mapM (parseStep runtime) = .ok pipeline ↔
      List.Forall₂ Denotes items pipeline := by
    rw [Library.mapM_ok_iff]
    constructor <;> intro itemwise <;> refine itemwise.imp ?_ <;> intro item step
    · exact parseStep_ok_iff.mp
    · exact parseStep_ok_iff.mpr
  constructor
  · intro parsed
    unfold parsePipeline at parsed
    split at parsed
    · cases parsed
    · cases parsed
    · rename_i items nonempty
      exact ⟨items, rfl, fun empty => nonempty empty, (steps items).mp parsed⟩
    · cases parsed
  · rintro ⟨items, rfl, nonempty, itemwise⟩
    cases items with
    | nil => exact absurd rfl nonempty
    | cons item rest => exact (steps (item :: rest)).mpr itemwise

theorem Denotes.unique {item : Json} {step other : PipelineStep} (left : Denotes item step)
    (right : Denotes item other) : step = other := by
  obtain ⟨fields, rfl, named, given⟩ := left.fields
  obtain ⟨_, same, namedOther, givenOther⟩ := right.fields
  cases same
  rw [named] at namedOther
  rw [given] at givenOther
  cases step
  cases other
  cases namedOther
  cases givenOther
  rfl

def WellFormed (item : Json) : Prop :=
  ∃ fields operation, item = .obj fields ∧
    Dict.get? fields (str "operation") = some (.str operation) ∧
    operation ∈ allowedOperations ∧
    ∀ value, Dict.get? fields (str "parameters") = some value →
      ∃ parameters, value = .obj parameters

theorem wellFormed_iff {item : Json} : WellFormed item ↔ ∃ step, Denotes item step := by
  constructor
  · rintro ⟨fields, operation, rfl, named, allowed, given⟩
    cases found : Dict.get? fields (str "parameters") with
    | none =>
        refine ⟨⟨operation, []⟩, ⟨fields, rfl, named, ?_⟩, allowed⟩
        rw [Dict.getD, found, Option.getD_none]
    | some value =>
        obtain ⟨parameters, rfl⟩ := given value found
        refine ⟨⟨operation, parameters⟩, ⟨fields, rfl, named, ?_⟩, allowed⟩
        rw [Dict.getD, found, Option.getD_some]
  · rintro ⟨step, ⟨fields, rfl, named, given⟩, allowed⟩
    refine ⟨fields, step.operation, rfl, named, allowed, ?_⟩
    intro value found
    rw [Dict.getD, found, Option.getD_some] at given
    exact ⟨step.parameters, given⟩

def InGrammar (form : Option Json) : Prop :=
  ∃ items, form = some (.arr items) ∧ items ≠ [] ∧ ∀ item ∈ items, WellFormed item

theorem parsePipeline_accepts_iff {runtime : Runtime} {form : Option Json} :
    (∃ pipeline, parsePipeline runtime form = .ok pipeline) ↔ InGrammar form := by
  constructor
  · intro ⟨pipeline, accepted⟩
    obtain ⟨items, rfl, nonempty, itemwise⟩ := parsePipeline_ok_iff.mp accepted
    refine ⟨items, rfl, nonempty, ?_⟩
    intro item member
    obtain ⟨step, _, denotes⟩ := Library.exists_mem_of_mem_left itemwise member
    exact wellFormed_iff.mpr ⟨step, denotes⟩
  · rintro ⟨items, rfl, nonempty, wellFormed⟩
    obtain ⟨pipeline, itemwise⟩ := Library.exists_forall₂
      fun item member => wellFormed_iff.mp (wellFormed item member)
    exact ⟨pipeline, parsePipeline_ok_iff.mpr ⟨items, rfl, nonempty, itemwise⟩⟩

/-- An element whose operation has no hash: a list or a dict. -/
def Unhashable (item : Json) : Prop :=
  ∃ fields, item = .obj fields ∧ (Dict.getD fields (str "operation") .null).scalar = false

theorem unhashable_obj {fields : List (Str × Json)} :
    Unhashable (.obj fields) ↔ (Dict.getD fields (str "operation") .null).scalar = false := by
  constructor
  · intro ⟨_, same, unhashable⟩
    cases same
    exact unhashable
  · intro unhashable
    exact ⟨fields, rfl, unhashable⟩

/-- An element is a step, or its operation has no hash, or it is answered with
400. -/
theorem parseStep_cases (runtime : Runtime) (item : Json) :
    (∃ step, parseStep runtime item = .ok step) ∨
    (Unhashable item ∧ parseStep runtime item = .error .typeError) ∨
    (¬ Unhashable item ∧ ∃ detail, parseStep runtime item = .error (badRequest detail)) := by
  cases item with
  | obj fields =>
      rw [unhashable_obj]
      cases named : Dict.getD fields (str "operation") .null with
      | arr | obj =>
          refine .inr (.inl ⟨rfl, ?_⟩)
          simp only [parseStep, named]
      | str operation =>
          by_cases allowed : operation ∈ allowedOperations
          · cases given : Dict.getD fields (str "parameters") (.obj []) with
            | obj parameters =>
                left
                simp only [parseStep, named, given, allowed, if_true]
                exact ⟨_, rfl⟩
            | null | bool | int | float | str | arr =>
                refine .inr (.inr ⟨Bool.true_eq_false.mp, ?_⟩)
                simp only [parseStep, named, given, allowed, if_true]
                exact ⟨_, rfl⟩
          · refine .inr (.inr ⟨Bool.true_eq_false.mp, ?_⟩)
            simp only [parseStep, named, allowed, if_false]
            exact ⟨_, rfl⟩
      | null | bool | int | float =>
          refine .inr (.inr ⟨Bool.true_eq_false.mp, ?_⟩)
          simp only [parseStep, named]
          exact ⟨_, rfl⟩
  | null | bool | int | float | str | arr =>
      refine .inr (.inr ⟨?_, _, rfl⟩)
      intro ⟨_, impossible, _⟩
      cases impossible

/-- The one way to miss a 400: the first element that is no step has an
operation without a hash. -/
theorem parsePipeline_typeError_iff {runtime : Runtime} {form : Option Json} :
    parsePipeline runtime form = .error .typeError ↔
      ∃ before item after, form = some (.arr (before ++ item :: after)) ∧
        (∀ earlier ∈ before, WellFormed earlier) ∧ Unhashable item := by
  have wellFormed (item : Json) :
      (∃ step, parseStep runtime item = .ok step) ↔ WellFormed item := by
    simp only [parseStep_ok_iff, wellFormed_iff]
  have unhashable (item : Json) : parseStep runtime item = .error .typeError ↔ Unhashable item := by
    rcases parseStep_cases runtime item with
      ⟨step, parsed⟩ | ⟨noHash, failed⟩ | ⟨hash, detail, failed⟩
    · obtain ⟨⟨fields, rfl, named, _⟩, _⟩ := parseStep_ok_iff.mp parsed
      rw [parsed, unhashable_obj, Dict.getD, named]
      constructor <;> intro impossible <;> cases impossible
    · exact ⟨fun _ => noHash, fun _ => failed⟩
    · rw [failed]
      constructor
      · intro impossible
        cases impossible
      · exact fun noHash => absurd noHash hash
  constructor
  · intro failed
    unfold parsePipeline at failed
    split at failed
    · cases failed
    · cases failed
    · rename_i items _
      obtain ⟨before, item, after, rfl, fine, culprit⟩ := Library.mapM_error_iff.mp failed
      exact ⟨before, item, after, rfl, fun earlier member => (wellFormed earlier).mp
        (fine earlier member), (unhashable item).mp culprit⟩
    · cases failed
  · rintro ⟨before, item, after, rfl, fine, culprit⟩
    have failed : (before ++ item :: after).mapM (parseStep runtime) = .error .typeError :=
      Library.mapM_error_iff.mpr ⟨before, item, after, rfl, fun earlier member =>
        (wellFormed earlier).mpr (fine earlier member), (unhashable item).mpr culprit⟩
    cases before <;> exact failed

theorem parsePipeline_error_cases {runtime : Runtime} {form : Option Json} {raised : Exn}
    (failed : parsePipeline runtime form = .error raised) :
    raised = .typeError ∨ ∃ detail, raised = badRequest detail := by
  unfold parsePipeline at failed
  split at failed
  · cases failed
    exact .inr ⟨_, rfl⟩
  · cases failed
    exact .inr ⟨_, rfl⟩
  · obtain ⟨_, item, _, _, _, culprit⟩ := Library.mapM_error_iff.mp failed
    rcases parseStep_cases runtime item with ⟨step, parsed⟩ | ⟨_, other⟩ | ⟨_, detail, other⟩
    · rw [parsed] at culprit
      cases culprit
    · rw [other] at culprit
      cases culprit
      exact .inl rfl
    · rw [other] at culprit
      cases culprit
      exact .inr ⟨detail, rfl⟩
  · cases failed
    exact .inr ⟨_, rfl⟩

theorem parsePipeline_allowed {runtime : Runtime} {form : Option Json}
    {pipeline : List PipelineStep} (accepted : parsePipeline runtime form = .ok pipeline)
    {step : PipelineStep} (member : step ∈ pipeline) : step.operation ∈ allowedOperations := by
  obtain ⟨items, _, _, itemwise⟩ := parsePipeline_ok_iff.mp accepted
  obtain ⟨_, _, denotes⟩ := Library.exists_mem_of_mem_right itemwise member
  exact denotes.allowed

/-! ### A runtime -/

/-- Python where only the text `3` is converted, no float is printed and
nothing is hashed. -/
def plainRuntime : Runtime :=
  { intOfStr := fun text => if text = str "3" then some 3 else none
    floatRepr := fun _ => []
    sha256 := fun _ => [] }

end ImagePipeline.Api
