/-
What it is to be inside a JSON value and when two of them are the same. Two
objects are the same in any order of their keys; what makes two scalars the
same is a parameter, because Python, PostgreSQL and the printer disagree on it.
-/

import ImagePipeline.Common.Json
import Mathlib.Data.List.Forall2
import Mathlib.Data.List.Perm.Basic
import Mathlib.Data.List.Permutation

namespace ImagePipeline.Common

namespace Json

/-- Induction on a value, through the lists of its items and fields. -/
theorem induction {motive : Json → Prop} (null : motive .null)
    (bool : ∀ value, motive (.bool value)) (int : ∀ value, motive (.int value))
    (float : ∀ value, motive (.float value)) (str : ∀ value, motive (.str value))
    (arr : ∀ items, (∀ item ∈ items, motive item) → motive (.arr items))
    (obj : ∀ fields, (∀ field ∈ fields, motive field.2) → motive (.obj fields))
    (value : Json) : motive value := by
  refine @Json.rec motive (fun items => ∀ item ∈ items, motive item)
    (fun fields => ∀ field ∈ fields, motive field.2) (fun field => motive field.2)
    null bool int float str arr obj ?_ ?_ ?_ ?_ ?_ value
  · intro item member
    cases member
  · intro head tail atHead atTail item member
    cases member with
    | head => exact atHead
    | tail _ later => exact atTail item later
  · intro field member
    cases member
  · intro head tail atHead atTail field member
    cases member with
    | head => exact atHead
    | tail _ later => exact atTail field later
  · intro key value atValue
    exact atValue

/-- A value inside another one, at any depth. -/
inductive Part : Json → Json → Prop
  | self (value : Json) : Part value value
  | item {part item : Json} {items : List Json} (member : item ∈ items)
      (inside : Part part item) : Part part (.arr items)
  | field {part : Json} {field : Str × Json} {fields : List (Str × Json)}
      (member : field ∈ fields) (inside : Part part field.2) : Part part (.obj fields)

/-- Neither an array nor an object. -/
def scalar : Json → Bool
  | .arr _ | .obj _ => false
  | _ => true

/-- A text in a value, at any depth: one of its strings or of its keys. -/
inductive HasText (value : Json) (text : Str) : Prop
  | string (inside : Part (.str text) value)
  | key {fields : List (Str × Json)} {content : Json} (inside : Part (.obj fields) value)
      (member : (text, content) ∈ fields)

theorem part_scalar {part value : Json} (scalar : value.scalar = true) :
    Part part value ↔ part = value := by
  constructor
  · intro inside
    cases inside with
    | self => rfl
    | item _ _ => cases scalar
    | field _ _ => cases scalar
  · rintro rfl
    exact .self _

theorem hasText_scalar {value : Json} {text : Str} (scalar : value.scalar = true) :
    HasText value text ↔ value = .str text := by
  constructor
  · intro has
    cases has with
    | string inside => exact ((part_scalar scalar).mp inside).symm
    | key inside _ =>
        rw [← (part_scalar scalar).mp inside] at scalar
        cases scalar
  · rintro rfl
    exact .string (.self _)

theorem part_arr {part : Json} {items : List Json} :
    Part part (.arr items) ↔ part = .arr items ∨ ∃ item ∈ items, Part part item := by
  constructor
  · intro inside
    cases inside with
    | self => exact .inl rfl
    | item member deeper => exact .inr ⟨_, member, deeper⟩
  · rintro (rfl | ⟨item, member, deeper⟩)
    · exact .self _
    · exact .item member deeper

theorem part_obj {part : Json} {fields : List (Str × Json)} :
    Part part (.obj fields) ↔ part = .obj fields ∨ ∃ field ∈ fields, Part part field.2 := by
  constructor
  · intro inside
    cases inside with
    | self => exact .inl rfl
    | field member deeper => exact .inr ⟨_, member, deeper⟩
  · rintro (rfl | ⟨field, member, deeper⟩)
    · exact .self _
    · exact .field member deeper

theorem hasText_arr {items : List Json} {text : Str} :
    HasText (.arr items) text ↔ ∃ item ∈ items, HasText item text := by
  constructor
  · intro has
    cases has with
    | string inside =>
        cases inside with
        | item member deeper => exact ⟨_, member, .string deeper⟩
    | key inside named =>
        cases inside with
        | item member deeper => exact ⟨_, member, .key deeper named⟩
  · intro ⟨item, member, has⟩
    cases has with
    | string inside => exact .string (.item member inside)
    | key inside named => exact .key (.item member inside) named

theorem hasText_obj {fields : List (Str × Json)} {text : Str} :
    HasText (.obj fields) text ↔ ∃ field ∈ fields, text = field.1 ∨ HasText field.2 text := by
  constructor
  · intro has
    cases has with
    | string inside =>
        cases inside with
        | field member deeper => exact ⟨_, member, .inr (.string deeper)⟩
    | key inside named =>
        cases inside with
        | self => exact ⟨_, named, .inl rfl⟩
        | field member deeper => exact ⟨_, member, .inr (.key deeper named)⟩
  · rintro ⟨field, member, rfl | has⟩
    · exact .key (.self _) member
    · cases has with
      | string inside => exact .string (.field member inside)
      | key inside named => exact .key (.field member inside) named

/-! ### The same value -/

mutual

/-- The same value up to the order of keys at every depth, if `same` says when
two scalars are. -/
def Alike (same : Json → Json → Prop) : Json → Json → Prop
  | .arr items, right => ∃ others, right = .arr others ∧ AlikeItems same items others
  | .obj fields, right => ∃ others arranged, right = .obj others ∧ arranged.Perm others ∧
      AlikeFields same fields arranged
  | left, right => same left right

def AlikeItems (same : Json → Json → Prop) : List Json → List Json → Prop
  | [], others => others = []
  | item :: rest, others => ∃ other more, others = other :: more ∧ Alike same item other ∧
      AlikeItems same rest more

def AlikeFields (same : Json → Json → Prop) : List (Str × Json) → List (Str × Json) → Prop
  | [], others => others = []
  | (key, value) :: rest, others => ∃ other more, others = (key, other) :: more ∧
      Alike same value other ∧ AlikeFields same rest more

end

variable {same : Json → Json → Prop}

theorem alikeItems_iff {items others : List Json} :
    AlikeItems same items others ↔ List.Forall₂ (Alike same) items others := by
  induction items generalizing others with
  | nil => simp only [AlikeItems, List.forall₂_nil_left_iff]
  | cons item rest ih =>
      simp only [AlikeItems, List.forall₂_cons_left_iff, ih]
      constructor
      · rintro ⟨other, more, rfl, atItem, atRest⟩
        exact ⟨other, more, atItem, atRest, rfl⟩
      · rintro ⟨other, more, atItem, atRest, rfl⟩
        exact ⟨other, more, rfl, atItem, atRest⟩

/-- Two fields with the same key and the same value. -/
def AlikeField (same : Json → Json → Prop) (left right : Str × Json) : Prop :=
  left.1 = right.1 ∧ Alike same left.2 right.2

theorem alikeFields_iff {fields others : List (Str × Json)} :
    AlikeFields same fields others ↔ List.Forall₂ (AlikeField same) fields others := by
  induction fields generalizing others with
  | nil => simp only [AlikeFields, List.forall₂_nil_left_iff]
  | cons field rest ih =>
      obtain ⟨key, value⟩ := field
      simp only [AlikeFields, List.forall₂_cons_left_iff, ih]
      constructor
      · rintro ⟨other, more, rfl, atValue, atRest⟩
        exact ⟨(key, other), more, ⟨rfl, atValue⟩, atRest, rfl⟩
      · rintro ⟨⟨name, other⟩, more, ⟨sameKey, atValue⟩, atRest, rfl⟩
        cases sameKey
        exact ⟨other, more, rfl, atValue, atRest⟩

theorem alike_arr {items others : List Json} :
    Alike same (.arr items) (.arr others) ↔ List.Forall₂ (Alike same) items others := by
  simp only [Alike, arr.injEq, exists_eq_left', alikeItems_iff]

theorem alike_obj {fields others : List (Str × Json)} :
    Alike same (.obj fields) (.obj others) ↔
      ∃ arranged, arranged.Perm others ∧ List.Forall₂ (AlikeField same) fields arranged := by
  simp only [Alike, obj.injEq, exists_and_left, exists_eq_left', alikeFields_iff]

theorem alike_pair {first second : Str} (different : first ≠ second)
    {left right otherLeft otherRight : Json} :
    Alike same (.obj [(first, left), (second, right)])
        (.obj [(first, otherLeft), (second, otherRight)]) ↔
      Alike same left otherLeft ∧ Alike same right otherRight := by
  rw [alike_obj]
  constructor
  · intro ⟨arranged, rearranged, fieldwise⟩
    rcases List.perm_pair.mp rearranged with rfl | rfl
    · cases fieldwise with
      | cons atFirst rest =>
          cases rest with
          | cons atSecond _ => exact ⟨atFirst.2, atSecond.2⟩
    · cases fieldwise with
      | cons atFirst _ => exact absurd atFirst.1 different
  · intro ⟨atFirst, atSecond⟩
    exact ⟨_, .refl _, .cons ⟨rfl, atFirst⟩ (.cons ⟨rfl, atSecond⟩ .nil)⟩

theorem alike_refl (scalars : ∀ value, same value value) (value : Json) :
    Alike same value value := by
  induction value using Json.induction with
  | null | bool | int | float | str => exact scalars _
  | arr items ih =>
      rw [alike_arr]
      exact List.forall₂_same.mpr ih
  | obj fields ih =>
      rw [alike_obj]
      exact ⟨fields, .refl _, List.forall₂_same.mpr fun field member => ⟨rfl, ih field member⟩⟩

end Json

end ImagePipeline.Common
