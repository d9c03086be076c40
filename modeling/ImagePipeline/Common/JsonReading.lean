/-
What `json.dumps` with sorted keys prints says which value it was, up to the
order of keys, and the value's own order of keys does not show.
-/

import ImagePipeline.Common.JsonPrinter
import ImagePipeline.Library.Itemwise

namespace ImagePipeline.Common

open Json (Alike AlikeField Part HasText)
open Library (Reads Stops)

variable {runtime : Runtime}

/-- A value as `json.loads` yields it: no key twice in an object, and no string
with a surrogate pair in two halves. -/
structure Json.Loaded (value : Json) : Prop where
  keys : ∀ fields, Part (.obj fields) value → (fields.map Prod.fst).Nodup
  texts : ∀ text, HasText value text → Joined text

theorem Json.Loaded.item {items : List Json} (loaded : (Json.arr items).Loaded) {item : Json}
    (member : item ∈ items) : item.Loaded :=
  { keys := fun fields inside => loaded.keys fields (.item member inside)
    texts := fun text has => loaded.texts text (Json.hasText_arr.mpr ⟨item, member, has⟩) }

theorem Json.Loaded.field {fields : List (Str × Json)} (loaded : (Json.obj fields).Loaded)
    {field : Str × Json} (member : field ∈ fields) : Joined field.1 ∧ field.2.Loaded := by
  constructor
  · exact loaded.texts field.1 (Json.hasText_obj.mpr ⟨field, member, .inl rfl⟩)
  · exact
      { keys := fun fields inside => loaded.keys fields (.field member inside)
        texts := fun text has =>
          loaded.texts text (Json.hasText_obj.mpr ⟨field, member, .inr has⟩) }

theorem Json.Loaded.ofStr {text : Str} (joined : Joined text) : (Json.str text).Loaded := by
  constructor
  · intro fields inside
    cases (Json.part_scalar rfl).mp inside
  · intro other has
    cases (Json.hasText_scalar rfl).mp has
    exact joined

theorem Json.Loaded.ofArr {items : List Json} (loaded : ∀ item ∈ items, item.Loaded) :
    (Json.arr items).Loaded := by
  constructor
  · intro fields inside
    obtain impossible | ⟨item, member, deeper⟩ := Json.part_arr.mp inside
    · cases impossible
    · exact (loaded item member).keys fields deeper
  · intro text has
    obtain ⟨item, member, deeper⟩ := Json.hasText_arr.mp has
    exact (loaded item member).texts text deeper

theorem Json.Loaded.ofObj {fields : List (Str × Json)} (distinct : (fields.map Prod.fst).Nodup)
    (loaded : ∀ field ∈ fields, Joined field.1 ∧ field.2.Loaded) : (Json.obj fields).Loaded := by
  constructor
  · intro inner inside
    obtain same | ⟨field, member, deeper⟩ := Json.part_obj.mp inside
    · cases same
      exact distinct
    · exact (loaded field member).2.keys inner deeper
  · intro text has
    obtain ⟨field, member, rfl | deeper⟩ := Json.hasText_obj.mp has
    · exact (loaded field member).1
    · exact (loaded field member).2.texts text deeper

/-- The letter that opens a text or a container. -/
def Json.opening : Json → Option CodePoint
  | .str _ => some (codePoint '"')
  | .arr _ => some (codePoint '[')
  | .obj _ => some (codePoint '\x7b')
  | _ => none

/-- A field as it is printed. -/
def fieldText (runtime : Runtime) (field : Str × Json) : Str :=
  quote field.1 ++ str ":" ++ dumps runtime field.2

theorem dumps_arr (items : List Json) :
    dumps runtime (.arr items) = codePoint '[' ::
      (Library.joinWith comma (items.map (dumps runtime)) ++ [codePoint ']']) := by
  rw [dumps, dumpsItems_eq, joinComma_eq, List.append_assoc]
  rfl

theorem dumps_obj (fields : List (Str × Json)) :
    dumps runtime (.obj fields) = codePoint '\x7b' ::
      (Library.joinWith comma ((sortFields fields).map (fieldText runtime)) ++
        [codePoint '\x7d']) := by
  rw [dumps, dumpsFields_eq, sortFields_map, List.map_map, joinComma_eq, List.append_assoc]
  rfl

theorem dumps_starts (floats : runtime.PrintsFloats) (value : Json) :
    ∃ first rest, dumps runtime value = first :: rest ∧
      (value.opening = some first ∨ value.isToken = true ∧ first ∈ tokenLetters) := by
  cases token : value.isToken with
  | true =>
      obtain ⟨nonempty, letters⟩ := token_letters floats token
      obtain ⟨first, rest, printed⟩ := List.exists_cons_of_ne_nil nonempty
      refine ⟨first, rest, printed, .inr ⟨rfl, letters first ?_⟩⟩
      rw [printed]
      exact List.mem_cons_self
  | false =>
      cases value with
      | str text => exact ⟨_, _, rfl, .inl rfl⟩
      | arr items => exact ⟨_, _, dumps_arr items, .inl rfl⟩
      | obj fields => exact ⟨_, _, dumps_obj fields, .inl rfl⟩
      | null | bool | int | float => cases token

theorem opening_isToken {value : Json} : value.opening = none ↔ value.isToken = true := by
  cases value <;> simp [Json.opening, Json.isToken]

theorem opening_noToken {value : Json} {letter : CodePoint} (opens : value.opening = some letter) :
    letter ∉ tokenLetters := by
  cases value <;> cases opens <;> decide

theorem same_opening (floats : runtime.PrintsFloats) {left right : Json}
    {restLeft restRight : Str}
    (same : dumps runtime left ++ restLeft = dumps runtime right ++ restRight) :
    left.opening = right.opening := by
  obtain ⟨first, more, printedLeft, kindLeft⟩ := dumps_starts floats left
  obtain ⟨second, others, printedRight, kindRight⟩ := dumps_starts floats right
  rw [printedLeft, printedRight] at same
  obtain rfl := (List.cons.inj same).1
  rcases kindLeft with opensLeft | ⟨tokenLeft, letterLeft⟩
  · rcases kindRight with opensRight | ⟨_, letterRight⟩
    · rw [opensLeft, opensRight]
    · exact absurd letterRight (opening_noToken opensLeft)
  · rcases kindRight with opensRight | ⟨tokenRight, _⟩
    · exact absurd letterLeft (opening_noToken opensRight)
    · rw [opening_isToken.mpr tokenLeft, opening_isToken.mpr tokenRight]

/-- Printed values are read back up to the letters that follow them. -/
abbrev DumpReads (runtime : Runtime) : Json → Json → Prop :=
  Reads (fun letter => letter ∈ stopLetters) (dumps runtime) (Alike Eq)

theorem token_reads (floats : runtime.PrintsFloats) {left : Json} (token : left.isToken = true)
    (right : Json) : DumpReads runtime left right := by
  intro restLeft restRight stopsLeft stopsRight same
  have opens := same_opening floats same
  rw [opening_isToken.mpr token] at opens
  have tokenRight := opening_isToken.mp opens.symm
  obtain ⟨printed, rest⟩ := Library.run_reads
    (fun letter member => tokenLetters_noStop letter ((token_letters floats token).2 letter member))
    (fun letter member =>
      tokenLetters_noStop letter ((token_letters floats tokenRight).2 letter member))
    stopsLeft stopsRight same
  refine ⟨?_, rest⟩
  obtain rfl := token_injective floats token tokenRight printed
  exact Json.alike_refl (fun _ => rfl) left

theorem eq_str_of_opening {value : Json} (opens : value.opening = some (codePoint '"')) :
    ∃ text, value = .str text := by
  cases value with
  | str text => exact ⟨text, rfl⟩
  | arr | obj => exact absurd (Option.some.inj opens) (by decide)
  | null | bool | int | float => cases opens

theorem eq_arr_of_opening {value : Json} (opens : value.opening = some (codePoint '[')) :
    ∃ items, value = .arr items := by
  cases value with
  | arr items => exact ⟨items, rfl⟩
  | str | obj => exact absurd (Option.some.inj opens) (by decide)
  | null | bool | int | float => cases opens

theorem eq_obj_of_opening {value : Json} (opens : value.opening = some (codePoint '\x7b')) :
    ∃ fields, value = .obj fields := by
  cases value with
  | obj fields => exact ⟨fields, rfl⟩
  | str | arr => exact absurd (Option.some.inj opens) (by decide)
  | null | bool | int | float => cases opens

theorem dumps_opens (floats : runtime.PrintsFloats) (value : Json) :
    ∃ first rest, dumps runtime value = first :: rest ∧ first ≠ codePoint ']' := by
  obtain ⟨first, rest, printed, kind⟩ := dumps_starts floats value
  refine ⟨first, rest, printed, ?_⟩
  rintro rfl
  rcases kind with opens | ⟨_, letter⟩
  · cases value <;> cases opens
  · exact absurd letter (by decide)

theorem fieldText_reads {left right : Str × Json} (joinedLeft : Joined left.1)
    (joinedRight : Joined right.1) (reads : DumpReads runtime left.2 right.2) :
    Reads (fun letter => letter ∈ stopLetters) (fieldText runtime) (AlikeField Eq) left right := by
  intro restLeft restRight stopsLeft stopsRight same
  unfold fieldText at same
  rw [List.append_assoc, List.append_assoc, List.append_assoc, List.append_assoc] at same
  obtain ⟨key, values⟩ := quote_reads joinedLeft joinedRight same
  obtain ⟨alike, rest⟩ := reads _ _ stopsLeft stopsRight (List.cons.inj values).2
  exact ⟨⟨key, alike⟩, rest⟩

/-- The printer is unambiguous: what follows a value does not matter. -/
theorem dumps_reads (floats : runtime.PrintsFloats) {left right : Json}
    (loadedLeft : left.Loaded) (loadedRight : right.Loaded) : DumpReads runtime left right := by
  induction left using Json.induction generalizing right with
  | null => exact token_reads floats rfl right
  | bool value => exact token_reads floats rfl right
  | int value => exact token_reads floats rfl right
  | float value => exact token_reads floats rfl right
  | str text =>
      intro restLeft restRight stopsLeft stopsRight same
      obtain ⟨other, rfl⟩ := eq_str_of_opening (same_opening floats same).symm
      obtain ⟨rfl, rest⟩ := quote_reads
        (loadedLeft.texts text (.string (.self _)))
        (loadedRight.texts other (.string (.self _))) same
      exact ⟨rfl, rest⟩
  | arr items ih =>
      intro restLeft restRight stopsLeft stopsRight same
      obtain ⟨others, rfl⟩ := eq_arr_of_opening (same_opening floats same).symm
      rw [dumps_arr, dumps_arr, List.cons_append, List.cons_append, List.append_assoc,
        List.append_assoc] at same
      have reads (item : Json) (member : item ∈ items) (other : Json) (present : other ∈ others) :
          Reads (fun letter => letter ∈ stopLetters) (dumps runtime) (Alike Eq) item other :=
        ih item member (loadedLeft.item member) (loadedRight.item present)
      obtain ⟨itemwise, rest⟩ := Library.joinWith_reads (by decide) (by decide) (by decide)
        (dumps_opens floats) reads (List.cons.inj same).2
      exact ⟨Json.alike_arr.mpr itemwise, rest⟩
  | obj fields ih =>
      intro restLeft restRight stopsLeft stopsRight same
      obtain ⟨others, rfl⟩ := eq_obj_of_opening (same_opening floats same).symm
      rw [dumps_obj, dumps_obj, List.cons_append, List.cons_append, List.append_assoc,
        List.append_assoc] at same
      have opens (field : Str × Json) : ∃ first rest,
          fieldText runtime field = first :: rest ∧ first ≠ codePoint '\x7d' :=
        ⟨_, _, rfl, by decide⟩
      have reads (field : Str × Json) (sorted : field ∈ sortFields fields) (other : Str × Json)
          (otherSorted : other ∈ sortFields others) :
          Reads (fun letter => letter ∈ stopLetters) (fieldText runtime) (AlikeField Eq)
            field other := by
        have member := (sortFields_perm fields).mem_iff.mp sorted
        have present := (sortFields_perm others).mem_iff.mp otherSorted
        obtain ⟨joinedLeft, contentLeft⟩ := loadedLeft.field member
        obtain ⟨joinedRight, contentRight⟩ := loadedRight.field present
        exact fieldText_reads joinedLeft joinedRight (ih field member contentLeft contentRight)
      obtain ⟨fieldwise, rest⟩ := Library.joinWith_reads (by decide) (by decide) (by decide) opens
        reads (List.cons.inj same).2
      -- the sorted fields are alike one by one, so the fields are up to their order
      obtain ⟨arranged, alike, rearranged⟩ :=
        List.perm_comp_forall₂ (sortFields_perm fields).symm fieldwise
      exact ⟨Json.alike_obj.mpr ⟨arranged, rearranged.trans (sortFields_perm others), alike⟩, rest⟩

/-- Alike values print alike: the order of keys does not show. -/
theorem dumps_eq_of_alike {left right : Json} (loaded : right.Loaded)
    (alike : Alike Eq left right) : dumps runtime left = dumps runtime right := by
  induction left using Json.induction generalizing right with
  | null | bool | int | float | str =>
      have same : _ = right := alike
      rw [same]
  | arr items ih =>
      obtain ⟨others, rfl, itemwise⟩ := alike
      rw [Json.alikeItems_iff] at itemwise
      have printed : items.map (dumps runtime) = others.map (dumps runtime) :=
        Library.map_eq_of_forall₂ itemwise fun item member other present same =>
          ih item member (loaded.item present) same
      rw [dumps_arr, dumps_arr, printed]
  | obj fields ih =>
      obtain ⟨others, arranged, rfl, rearranged, fieldwise⟩ := alike
      rw [Json.alikeFields_iff] at fieldwise
      have printed : fields.map (fun field => (field.1, dumps runtime field.2)) =
          arranged.map (fun field => (field.1, dumps runtime field.2)) :=
        Library.map_eq_of_forall₂ fieldwise fun field member other present same =>
          Prod.ext same.1 (ih field member
            (loaded.field (rearranged.mem_iff.mp present)).2 same.2)
      have distinct : ((others.map (fun field => (field.1, dumps runtime field.2))).map
          Prod.fst).Nodup := by
        rw [List.map_map]
        exact loaded.keys others (.self _)
      rw [dumps, dumps, dumpsFields_eq, dumpsFields_eq, printed,
        sortFields_eq_of_perm (rearranged.map _) distinct]

/-- The canonical text of a value is the value, up to the order of keys. -/
theorem dumps_eq_iff (floats : runtime.PrintsFloats) {left right : Json}
    (loadedLeft : left.Loaded) (loadedRight : right.Loaded) :
    dumps runtime left = dumps runtime right ↔ Alike Eq left right := by
  constructor
  · intro same
    have ended : dumps runtime left ++ [] = dumps runtime right ++ [] := by rw [same]
    exact (dumps_reads floats loadedLeft loadedRight [] [] Stops.nil Stops.nil ended).1
  · exact dumps_eq_of_alike loadedRight

end ImagePipeline.Common
