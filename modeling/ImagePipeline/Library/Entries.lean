/-
Dictionaries as lists of entries in the order in which their keys were first
set.
-/

import Mathlib.Data.List.Induction
import Mathlib.Data.List.Nodup

namespace ImagePipeline.Library

variable {κ ν : Type} [BEq κ] [LawfulBEq κ]

/-- The value of a key that is there is replaced where it stands. -/
def setEntry (key : κ) (value : ν) : List (κ × ν) → List (κ × ν)
  | [] => [(key, value)]
  | entry :: rest =>
      if entry.1 == key then (key, value) :: rest else entry :: setEntry key value rest

/-- The pairs are set one after the other. -/
def setEntries (pairs entries : List (κ × ν)) : List (κ × ν) :=
  pairs.foldl (fun entries pair => setEntry pair.1 pair.2 entries) entries

def entriesOf (pairs : List (κ × ν)) : List (κ × ν) := setEntries pairs []

omit [LawfulBEq κ] in
theorem setEntries_append (first second entries : List (κ × ν)) :
    setEntries (first ++ second) entries = setEntries second (setEntries first entries) :=
  List.foldl_append

omit [LawfulBEq κ] in
theorem entriesOf_append (pairs : List (κ × ν)) (pair : κ × ν) :
    entriesOf (pairs ++ [pair]) = setEntry pair.1 pair.2 (entriesOf pairs) :=
  setEntries_append pairs [pair] []

theorem keys_setEntry_of_mem {key : κ} {entries : List (κ × ν)}
    (known : key ∈ entries.map Prod.fst) (value : ν) :
    (setEntry key value entries).map Prod.fst = entries.map Prod.fst := by
  induction entries with
  | nil => exact absurd known List.not_mem_nil
  | cons entry rest ih =>
      rw [setEntry]
      by_cases same : (entry.1 == key) = true
      · rw [if_pos same, List.map_cons, List.map_cons, eq_of_beq same]
      · rw [if_neg same, List.map_cons, List.map_cons]
        rcases List.mem_cons.mp known with first | later
        · exact absurd (beq_iff_eq.mpr first.symm) same
        · rw [ih later]

theorem setEntry_of_not_mem {key : κ} {entries : List (κ × ν)}
    (fresh : key ∉ entries.map Prod.fst) (value : ν) :
    setEntry key value entries = entries ++ [(key, value)] := by
  induction entries with
  | nil => rfl
  | cons entry rest ih =>
      rw [List.map_cons, List.mem_cons, not_or] at fresh
      have different : ¬(entry.1 == key) = true := fun same => fresh.1 (eq_of_beq same).symm
      rw [setEntry, if_neg different, ih fresh.2]
      rfl

omit [LawfulBEq κ] in
theorem mem_setEntry {key : κ} {value : ν} {entries : List (κ × ν)} {entry : κ × ν}
    (member : entry ∈ setEntry key value entries) : entry = (key, value) ∨ entry ∈ entries := by
  induction entries with
  | nil => exact .inl (List.mem_singleton.mp member)
  | cons first rest ih =>
      rw [setEntry] at member
      split_ifs at member with same
      · rcases List.mem_cons.mp member with here | later
        · exact .inl here
        · exact .inr (List.mem_cons_of_mem _ later)
      · rcases List.mem_cons.mp member with here | later
        · rw [here]
          exact .inr List.mem_cons_self
        · exact (ih later).imp_right (List.mem_cons_of_mem _)

omit [LawfulBEq κ] in
theorem mem_of_mem_entriesOf {pairs : List (κ × ν)} {entry : κ × ν}
    (member : entry ∈ entriesOf pairs) : entry ∈ pairs := by
  induction pairs using List.reverseRecOn with
  | nil => exact member
  | append_singleton pairs pair ih =>
      rw [entriesOf_append] at member
      rcases mem_setEntry member with here | earlier
      · rw [here]
        exact List.mem_append_right _ List.mem_cons_self
      · exact List.mem_append_left _ (ih earlier)

theorem entriesOf_nodup (pairs : List (κ × ν)) : ((entriesOf pairs).map Prod.fst).Nodup := by
  induction pairs using List.reverseRecOn with
  | nil => exact List.nodup_nil
  | append_singleton pairs pair ih =>
      rw [entriesOf_append]
      by_cases known : pair.1 ∈ (entriesOf pairs).map Prod.fst
      · rw [keys_setEntry_of_mem known]
        exact ih
      · rw [setEntry_of_not_mem known, List.map_append]
        exact ih.append (List.nodup_singleton _)
          (List.disjoint_singleton.mpr known)

theorem keys_entriesOf {μ : Type} {pairs : List (κ × ν)} {others : List (κ × μ)}
    (same : pairs.map Prod.fst = others.map Prod.fst) :
    (entriesOf pairs).map Prod.fst = (entriesOf others).map Prod.fst := by
  induction pairs using List.reverseRecOn generalizing others with
  | nil =>
      rw [List.map_eq_nil_iff.mp same.symm]
      rfl
  | append_singleton pairs pair ih =>
      rw [List.map_append] at same
      obtain ⟨first, last, rfl, firsts, lasts⟩ := List.map_eq_append_iff.mp same.symm
      obtain ⟨other, rfl, name⟩ := List.map_eq_singleton_iff.mp lasts
      have keys := ih firsts.symm
      rw [entriesOf_append, entriesOf_append]
      by_cases known : pair.1 ∈ (entriesOf pairs).map Prod.fst
      · have knownHere : other.1 ∈ (entriesOf first).map Prod.fst := by
          rw [name, ← keys]
          exact known
        rw [keys_setEntry_of_mem known, keys_setEntry_of_mem knownHere, keys]
      · have freshHere : other.1 ∉ (entriesOf first).map Prod.fst := by
          rw [name, ← keys]
          exact known
        rw [setEntry_of_not_mem known, setEntry_of_not_mem freshHere, List.map_append,
          List.map_append, keys]
        exact congrArg (_ ++ [·]) name.symm

theorem lookup_isSome_of_mem {entries : List (κ × ν)} {key : κ}
    (member : key ∈ entries.map Prod.fst) : ∃ value, entries.lookup key = some value := by
  induction entries with
  | nil => exact absurd member List.not_mem_nil
  | cons entry rest ih =>
      obtain ⟨name, value⟩ := entry
      by_cases same : (key == name) = true
      · exact ⟨value, by rw [List.lookup_cons, same]⟩
      · rcases List.mem_cons.mp member with first | later
        · exact absurd (beq_iff_eq.mpr first) same
        · rw [List.lookup_cons, Bool.eq_false_iff.mpr same]
          exact ih later

theorem mem_of_lookup {entries : List (κ × ν)} {key : κ} {value : ν}
    (found : entries.lookup key = some value) : (key, value) ∈ entries := by
  obtain ⟨before, after, rfl, _⟩ := List.lookup_eq_some_iff.mp found
  exact List.mem_append_right _ List.mem_cons_self

omit [LawfulBEq κ] in
theorem lookup_map_values {μ : Type} (change : ν → μ) (entries : List (κ × ν)) (key : κ) :
    (entries.map (fun entry => (entry.1, change entry.2))).lookup key =
      (entries.lookup key).map change := by
  induction entries with
  | nil => rfl
  | cons entry rest ih =>
      obtain ⟨name, value⟩ := entry
      rw [List.map_cons, List.lookup_cons, List.lookup_cons, ih]
      cases key == name <;> rfl

theorem lookup_setEntry (key : κ) (value : ν) (entries : List (κ × ν)) (other : κ) :
    (setEntry key value entries).lookup other =
      if other == key then some value else entries.lookup other := by
  induction entries with
  | nil =>
      rw [setEntry, List.lookup_cons]
      cases other == key <;> rfl
  | cons entry rest ih =>
      obtain ⟨name, old⟩ := entry
      rw [setEntry]
      by_cases same : (name == key) = true
      · obtain rfl := eq_of_beq same
        rw [if_pos same, List.lookup_cons, List.lookup_cons]
        cases other == name <;> rfl
      · rw [if_neg same, List.lookup_cons, List.lookup_cons, ih]
        by_cases here : (other == name) = true
        · obtain rfl := eq_of_beq here
          rw [here, Bool.eq_false_iff.mpr same]
          rfl
        · rw [Bool.eq_false_iff.mpr here]

theorem lookup_setEntries_of_not_mem {pairs : List (κ × ν)} {key : κ}
    (other : key ∉ pairs.map Prod.fst) (entries : List (κ × ν)) :
    (setEntries pairs entries).lookup key = entries.lookup key := by
  induction pairs generalizing entries with
  | nil => rfl
  | cons pair rest ih =>
      rw [List.map_cons, List.mem_cons, not_or] at other
      refine (ih other.2 (setEntry pair.1 pair.2 entries)).trans ?_
      rw [lookup_setEntry, beq_eq_false_iff_ne.mpr other.1]
      rfl

/-- Where all pairs with a key have one value, it is there in the end. -/
theorem lookup_setEntries_of_values {pairs : List (κ × ν)} {key : κ} {value : ν}
    (known : key ∈ pairs.map Prod.fst) (values : ∀ pair ∈ pairs, pair.1 = key → pair.2 = value)
    (entries : List (κ × ν)) : (setEntries pairs entries).lookup key = some value := by
  induction pairs generalizing entries with
  | nil => exact absurd known List.not_mem_nil
  | cons pair rest ih =>
      by_cases again : key ∈ rest.map Prod.fst
      · exact ih again (fun other member => values other (List.mem_cons_of_mem _ member))
          (setEntry pair.1 pair.2 entries)
      · have here : pair.1 = key := by
          rcases List.mem_cons.mp known with here | later
          · exact here.symm
          · exact absurd later again
        refine (lookup_setEntries_of_not_mem again _).trans ?_
        rw [lookup_setEntry, here, beq_self_eq_true, values pair List.mem_cons_self here]
        rfl

theorem setEntries_of_fresh {pairs entries : List (κ × ν)}
    (distinct : (pairs.map Prod.fst).Nodup)
    (fresh : ∀ key ∈ pairs.map Prod.fst, key ∉ entries.map Prod.fst) :
    setEntries pairs entries = entries ++ pairs := by
  induction pairs generalizing entries with
  | nil => exact (List.append_nil entries).symm
  | cons pair rest ih =>
      rw [List.map_cons] at distinct fresh
      rw [List.nodup_cons] at distinct
      have here := setEntry_of_not_mem (fresh pair.1 List.mem_cons_self) pair.2
      change setEntries rest (setEntry pair.1 pair.2 entries) = _
      rw [here, ih distinct.2 ?_, List.append_assoc]
      · rfl
      · intro key member known
        rw [List.map_append, List.mem_append] at known
        rcases known with earlier | new
        · exact fresh key (List.mem_cons_of_mem _ member) earlier
        · exact distinct.1 (List.mem_singleton.mp new ▸ member)

theorem entriesOf_of_nodup {pairs : List (κ × ν)} (distinct : (pairs.map Prod.fst).Nodup) :
    entriesOf pairs = pairs :=
  setEntries_of_fresh distinct fun _ _ => List.not_mem_nil

/-- If the values of the pairs are given by their keys, so are those of the
dictionary. -/
theorem lookup_entriesOf_of_values {pairs : List (κ × ν)} (value : κ → ν)
    (values : ∀ pair ∈ pairs, pair.2 = value pair.1) {key : κ}
    (member : key ∈ (entriesOf pairs).map Prod.fst) :
    (entriesOf pairs).lookup key = some (value key) := by
  obtain ⟨found, looked⟩ := lookup_isSome_of_mem member
  have given : found = value key := values _ (mem_of_mem_entriesOf (mem_of_lookup looked))
  rw [looked, given]

/-- Dictionaries with the same keys and the same values are the same. -/
theorem entries_ext {left right : List (κ × ν)} (distinct : (left.map Prod.fst).Nodup)
    (keys : left.map Prod.fst = right.map Prod.fst)
    (values : ∀ key ∈ left.map Prod.fst, left.lookup key = right.lookup key) : left = right := by
  induction left generalizing right with
  | nil => exact (List.map_eq_nil_iff.mp keys.symm).symm
  | cons entry left ih =>
      cases right with
      | nil => cases keys
      | cons other right =>
          obtain ⟨name, value⟩ := entry
          obtain ⟨otherName, otherValue⟩ := other
          rw [List.map_cons, List.map_cons, List.cons.injEq] at keys
          obtain ⟨rfl, keys⟩ := keys
          rw [List.map_cons, List.nodup_cons] at distinct
          have here := values name List.mem_cons_self
          rw [List.lookup_cons, List.lookup_cons, beq_self_eq_true] at here
          cases here
          rw [ih distinct.2 keys]
          intro key member
          have different : (key == name) = false := by
            refine Bool.eq_false_iff.mpr fun same => ?_
            obtain rfl := eq_of_beq same
            exact distinct.1 member
          have later := values key (List.mem_cons_of_mem _ member)
          rw [List.lookup_cons, List.lookup_cons, different] at later
          exact later

end ImagePipeline.Library
