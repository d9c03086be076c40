/-
The JSONB column of the jobs table. Which values it takes is decided at any
depth, and a SELECT gives back an equal value, not the same one: PostgreSQL
keeps no order of keys and compares numbers by value.
-/

import ImagePipeline.Common.JobRepository
import ImagePipeline.Common.JsonValues
import Mathlib.Data.List.Permutation

namespace ImagePipeline.Common

open Json (Part HasText Alike AlikeField)

/-- The tokens `NaN`, `Infinity` and `-Infinity`, which Python reads and writes
and JSON does not have. -/
def Json.nonFinite : Json → Bool
  | .float .nan | .float (.infinity _) => true
  | _ => false

/-- Standard JSON that PostgreSQL can hold as text. -/
structure Json.Standard (value : Json) : Prop where
  finite : ∀ part, Part part value → part.nonFinite = false
  noNul : ∀ text, HasText value text → 0 ∉ text

theorem storableItems_iff {items : List Json} :
    storableItems items = true ↔ ∀ item ∈ items, storable item = true := by
  induction items with
  | nil => simp [storableItems]
  | cons item rest ih => simp [storableItems, ih]

theorem storableFields_iff {fields : List (Str × Json)} :
    storableFields fields = true ↔
      ∀ field ∈ fields, 0 ∉ field.1 ∧ storable field.2 = true := by
  induction fields with
  | nil => simp [storableFields]
  | cons field rest ih => simp [storableFields, ih]

theorem standard_scalar {value : Json} (scalar : value.scalar = true) :
    value.Standard ↔ value.nonFinite = false ∧ ∀ text, value = .str text → 0 ∉ text := by
  constructor
  · intro standard
    exact ⟨standard.finite value (.self value), fun text same =>
      standard.noNul text ((Json.hasText_scalar scalar).mpr same)⟩
  · intro ⟨finite, noNul⟩
    constructor
    · intro part inside
      rw [(Json.part_scalar scalar).mp inside]
      exact finite
    · intro text has
      exact noNul text ((Json.hasText_scalar scalar).mp has)

theorem standard_arr {items : List Json} :
    (Json.arr items).Standard ↔ ∀ item ∈ items, item.Standard := by
  constructor
  · intro standard item member
    constructor
    · intro part inside
      exact standard.finite part (.item member inside)
    · intro text has
      exact standard.noNul text (Json.hasText_arr.mpr ⟨item, member, has⟩)
  · intro items
    constructor
    · intro part inside
      rcases Json.part_arr.mp inside with rfl | ⟨item, member, deeper⟩
      · rfl
      · exact (items item member).finite part deeper
    · intro text has
      obtain ⟨item, member, deeper⟩ := Json.hasText_arr.mp has
      exact (items item member).noNul text deeper

theorem standard_obj {fields : List (Str × Json)} :
    (Json.obj fields).Standard ↔ ∀ field ∈ fields, 0 ∉ field.1 ∧ field.2.Standard := by
  constructor
  · intro standard field member
    constructor
    · exact standard.noNul field.1 (Json.hasText_obj.mpr ⟨field, member, .inl rfl⟩)
    · constructor
      · intro part inside
        exact standard.finite part (.field member inside)
      · intro text has
        exact standard.noNul text (Json.hasText_obj.mpr ⟨field, member, .inr has⟩)
  · intro fields
    constructor
    · intro part inside
      rcases Json.part_obj.mp inside with rfl | ⟨field, member, deeper⟩
      · rfl
      · exact (fields field member).2.finite part deeper
    · intro text has
      obtain ⟨field, member, rfl | deeper⟩ := Json.hasText_obj.mp has
      · exact (fields field member).1
      · exact (fields field member).2.noNul text deeper

theorem storable_iff (value : Json) : storable value = true ↔ value.Standard := by
  induction value using Json.induction with
  | null =>
      rw [standard_scalar rfl]
      simp [storable, Json.nonFinite]
  | bool value =>
      rw [standard_scalar rfl]
      simp [storable, Json.nonFinite]
  | int value =>
      rw [standard_scalar rfl]
      simp [storable, Json.nonFinite]
  | float value =>
      rw [standard_scalar rfl]
      cases value <;> simp [storable, Json.nonFinite]
  | str value =>
      rw [standard_scalar rfl]
      simp [storable, Json.nonFinite]
  | arr items ih =>
      rw [storable, storableItems_iff, standard_arr]
      constructor
      · intro stored item member
        exact (ih item member).mp (stored item member)
      · intro standard item member
        exact (ih item member).mpr (standard item member)
  | obj fields ih =>
      rw [storable, storableFields_iff, standard_obj]
      constructor
      · intro stored field member
        exact ⟨(stored field member).1, (ih field member).mp (stored field member).2⟩
      · intro standard field member
        exact ⟨(standard field member).1, (ih field member).mpr (standard field member).2⟩

/-! ### What a SELECT gives back -/

/-- The number a value is, if it is one. -/
def Json.number? : Json → Option Rat
  | .int value => some value
  | .float (.finite value) => some value
  | .float .negativeZero => some 0
  | _ => none

/-- Equal as JSONB: numbers by value, anything else as it is. -/
def jsonbSame (left right : Json) : Prop :=
  left = right ∨ ∃ value, left.number? = some value ∧ right.number? = some value

/-- How PostgreSQL gives a stored value back. -/
structure Jsonb where
  readBack : Json → Json
  equal : ∀ value, storable value = true → Alike jsonbSame (readBack value) value

/-- The rows as a SELECT sees them. -/
def JobsTable.selected (jsonb : Jsonb) (table : JobsTable) : JobsTable :=
  { rows := table.rows.map (fun row => { row with pipeline := jsonb.readBack row.pipeline })
    distinct := by
      rw [List.pairwise_map]
      exact table.distinct }

/-- The same operation with the same parameter values. -/
def SameStep (left right : PipelineStep) : Prop :=
  left.operation = right.operation ∧
    Alike jsonbSame (.obj left.parameters) (.obj right.parameters)

theorem alike_jsonb_arr {value : Json} {others : List Json}
    (alike : Alike jsonbSame value (.arr others)) :
    ∃ items, value = .arr items ∧ List.Forall₂ (Alike jsonbSame) items others := by
  cases value with
  | arr items => exact ⟨items, rfl, Json.alike_arr.mp alike⟩
  | obj fields =>
      obtain ⟨_, _, impossible, _⟩ := alike
      cases impossible
  | null | bool | int | float | str =>
      rcases alike with impossible | ⟨_, _, impossible⟩ <;> cases impossible

theorem alike_jsonb_obj {value : Json} {others : List (Str × Json)}
    (alike : Alike jsonbSame value (.obj others)) :
    ∃ fields, value = .obj fields ∧ ∃ arranged, arranged.Perm others ∧
      List.Forall₂ (AlikeField jsonbSame) fields arranged := by
  cases value with
  | arr items =>
      obtain ⟨_, impossible, _⟩ := alike
      cases impossible
  | obj fields => exact ⟨fields, rfl, Json.alike_obj.mp alike⟩
  | null | bool | int | float | str =>
      rcases alike with impossible | ⟨_, _, impossible⟩ <;> cases impossible

theorem alike_jsonb_str {value : Json} {text : Str}
    (alike : Alike jsonbSame value (.str text)) : value = .str text := by
  cases value with
  | arr items =>
      obtain ⟨_, impossible, _⟩ := alike
      cases impossible
  | obj fields =>
      obtain ⟨_, _, impossible, _⟩ := alike
      cases impossible
  | null | bool | int | float | str =>
      rcases alike with same | ⟨_, _, impossible⟩
      · exact same
      · cases impossible

/-- `_pipeline_from_json` does not depend on the order in which a step's two
fields come back. -/
theorem pipelineStepFromJson_alike {item : Json} {step : PipelineStep}
    (alike : Alike jsonbSame item (.obj [(str "operation", .str step.operation),
      (str "parameters", .obj step.parameters)])) :
    ∃ decoded, pipelineStepFromJson item = .ok decoded ∧ SameStep decoded step := by
  have different : str "operation" ≠ str "parameters" := by
    rw [Ne, str_inj]
    decide
  obtain ⟨fields, rfl, arranged, rearranged, fieldwise⟩ := alike_jsonb_obj alike
  rcases List.perm_pair.mp rearranged with rfl | rfl
  · rw [List.forall₂_cons_right_iff] at fieldwise
    obtain ⟨⟨_, operation⟩, _, ⟨rfl, sameOperation⟩, later, rfl⟩ := fieldwise
    rw [List.forall₂_cons_right_iff] at later
    obtain ⟨⟨_, parameters⟩, _, ⟨rfl, sameParameters⟩, nothing, rfl⟩ := later
    rw [List.forall₂_nil_right_iff] at nothing
    subst nothing
    cases alike_jsonb_str sameOperation
    obtain ⟨inner, rfl, _⟩ := alike_jsonb_obj sameParameters
    refine ⟨⟨step.operation, inner⟩, ?_, rfl, sameParameters⟩
    simp only [pipelineStepFromJson, Dict.getD, Dict.get?_cons_self,
      Dict.get?_cons_ne different, Option.getD_some]
  · rw [List.forall₂_cons_right_iff] at fieldwise
    obtain ⟨⟨_, parameters⟩, _, ⟨rfl, sameParameters⟩, later, rfl⟩ := fieldwise
    rw [List.forall₂_cons_right_iff] at later
    obtain ⟨⟨_, operation⟩, _, ⟨rfl, sameOperation⟩, nothing, rfl⟩ := later
    rw [List.forall₂_nil_right_iff] at nothing
    subst nothing
    cases alike_jsonb_str sameOperation
    obtain ⟨inner, rfl, _⟩ := alike_jsonb_obj sameParameters
    refine ⟨⟨step.operation, inner⟩, ?_, rfl, sameParameters⟩
    simp only [pipelineStepFromJson, Dict.getD, Dict.get?_cons_self,
      Dict.get?_cons_ne (Ne.symm different), Option.getD_some]

theorem pipelineFromJson_alike {column : Json} {pipeline : List PipelineStep}
    (alike : Alike jsonbSame column (pipelineToJson pipeline)) :
    ∃ steps, pipelineFromJson column = .ok steps ∧ List.Forall₂ SameStep steps pipeline := by
  obtain ⟨items, rfl, itemwise⟩ := alike_jsonb_arr alike
  unfold pipelineFromJson
  clear alike
  induction pipeline generalizing items with
  | nil =>
      rw [List.map_nil, List.forall₂_nil_right_iff] at itemwise
      subst itemwise
      exact ⟨[], rfl, .nil⟩
  | cons step rest ih =>
      rw [List.map_cons, List.forall₂_cons_right_iff] at itemwise
      obtain ⟨item, others, atStep, atRest, rfl⟩ := itemwise
      obtain ⟨decoded, first, sameFirst⟩ := pipelineStepFromJson_alike atStep
      obtain ⟨steps, later, sameLater⟩ := ih others atRest
      refine ⟨decoded :: steps, ?_, .cons sameFirst sameLater⟩
      exact (Library.mapM_cons_ok first).trans (congrArg _ later)

end ImagePipeline.Common
