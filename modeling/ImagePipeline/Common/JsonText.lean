/-
Strings in printed JSON can be read back, and so can UTF-8. Python escapes
UTF-16 units, so a string that holds both halves of a surrogate pair next to each
other prints like the one that holds the code point; `json.loads` never yields
the former.
-/

import ImagePipeline.Common.Json
import ImagePipeline.Library.Readable
import Mathlib.Data.List.Chain

namespace ImagePipeline.Common

open Library (Instant)

abbrev Utf16Unit := Fin 0x10000

/-- The UTF-16 units of a code point. -/
def utf16 (point : CodePoint) : List Utf16Unit :=
  if basic : point.val < 0x10000 then [⟨point.val, basic⟩]
  else
    [⟨0xD800 + (point.val - 0x10000) / 1024, by have := point.isLt; omega⟩,
      ⟨0xDC00 + (point.val - 0x10000) % 1024, by omega⟩]

def CodePoint.high (point : CodePoint) : Prop := 0xD800 ≤ point.val ∧ point.val ≤ 0xDBFF

def CodePoint.low (point : CodePoint) : Prop := 0xDC00 ≤ point.val ∧ point.val ≤ 0xDFFF

/-- No two halves of a surrogate pair stand next to each other. -/
def Joined (text : Str) : Prop :=
  text.IsChain (fun left right => ¬ (CodePoint.high left ∧ CodePoint.low right))

theorem utf16_ne_nil (point : CodePoint) : utf16 point ≠ [] := by
  unfold utf16
  split_ifs <;> exact List.cons_ne_nil _ _

theorem low_of_utf16 {text : Str} {unit : Utf16Unit} {rest : List Utf16Unit}
    (starts : text.flatMap utf16 = unit :: rest) (low : 0xDC00 ≤ unit.val ∧ unit.val ≤ 0xDFFF) :
    ∃ point more, text = point :: more ∧ CodePoint.low point := by
  cases text with
  | nil => cases starts
  | cons point more =>
      refine ⟨point, more, rfl, ?_⟩
      rw [List.flatMap_cons] at starts
      unfold utf16 at starts
      split_ifs at starts with basic
      · cases starts
        exact low
      · cases starts
        have bound := point.isLt
        simp only at low
        omega

/-- The first code points of two texts with the same units. A basic one against
an astral one would be a high surrogate before a low one. -/
theorem utf16_cons {left right : CodePoint} {restLeft restRight : Str}
    (joinedLeft : Joined (left :: restLeft)) (joinedRight : Joined (right :: restRight))
    (same : (left :: restLeft).flatMap utf16 = (right :: restRight).flatMap utf16) :
    left = right ∧ restLeft.flatMap utf16 = restRight.flatMap utf16 := by
  have mixed {astral basic : CodePoint} {rest : List Utf16Unit} {later : Str}
      (beyond : ¬ astral.val < 0x10000) (joined : Joined (basic :: later))
      (high : basic.val = 0xD800 + (astral.val - 0x10000) / 1024)
      (units : later.flatMap utf16 =
        ⟨0xDC00 + (astral.val - 0x10000) % 1024, by omega⟩ :: rest) : False := by
    have bound := astral.isLt
    obtain ⟨point, more, rfl, low⟩ := low_of_utf16 units (by simp only; omega)
    have pair : CodePoint.high basic := by
      unfold CodePoint.high
      omega
    exact (List.isChain_cons_cons.mp joined).1 ⟨pair, low⟩
  rw [List.flatMap_cons, List.flatMap_cons] at same
  unfold utf16 at same
  split_ifs at same with basicLeft basicRight basicRight
  · have heads := Fin.mk.inj (List.cons.inj same).1
    exact ⟨Fin.ext heads, (List.cons.inj same).2⟩
  · have heads := congrArg Fin.val (List.cons.inj same).1
    exact absurd (mixed basicRight joinedLeft heads (List.cons.inj same).2) id
  · have heads := congrArg Fin.val (List.cons.inj same).1
    exact absurd (mixed basicLeft joinedRight heads.symm (List.cons.inj same).2.symm) id
  · have heads := congrArg Fin.val (List.cons.inj same).1
    have seconds := congrArg Fin.val (List.cons.inj (List.cons.inj same).2).1
    simp only at heads seconds
    refine ⟨Fin.ext (by omega), (List.cons.inj (List.cons.inj same).2).2⟩

theorem utf16_injective {left right : Str} (joinedLeft : Joined left) (joinedRight : Joined right)
    (same : left.flatMap utf16 = right.flatMap utf16) : left = right := by
  induction left generalizing right with
  | nil =>
      cases right with
      | nil => rfl
      | cons point rest =>
          rw [List.flatMap_nil, List.flatMap_cons] at same
          exact absurd (List.append_eq_nil_iff.mp same.symm).1 (utf16_ne_nil point)
  | cons head tail ih =>
      cases right with
      | nil =>
          rw [List.flatMap_nil, List.flatMap_cons] at same
          exact absurd (List.append_eq_nil_iff.mp same).1 (utf16_ne_nil head)
      | cons point rest =>
          obtain ⟨rfl, later⟩ := utf16_cons joinedLeft joinedRight same
          have tailLeft : Joined tail := joinedLeft.tail
          have tailRight : Joined rest := joinedRight.tail
          rw [ih tailLeft tailRight later]

/-- The second letter of the two-letter escapes. -/
def shortEscape (value : Nat) : Option CodePoint :=
  if value = 0x22 then some (codePoint '"')
  else if value = 0x5C then some (codePoint '\\')
  else if value = 0x0A then some (codePoint 'n')
  else if value = 0x0D then some (codePoint 'r')
  else if value = 0x09 then some (codePoint 't')
  else if value = 0x0C then some (codePoint 'f')
  else if value = 0x08 then some (codePoint 'b')
  else none

/-- The escape of one UTF-16 unit. -/
def escapeUnit (unit : Utf16Unit) : Str :=
  match shortEscape unit.val with
  | some letter => [codePoint '\\', letter]
  | none =>
      if 0x20 ≤ unit.val ∧ unit.val ≤ 0x7E then [⟨unit.val, by have := unit.isLt; omega⟩]
      else codePoint '\\' :: codePoint 'u' :: hex4 unit.val

theorem escapeUnit_of_ge {unit : Utf16Unit} (beyond : 0x7F ≤ unit.val) :
    escapeUnit unit = codePoint '\\' :: codePoint 'u' :: hex4 unit.val := by
  have none : shortEscape unit.val = none := by
    unfold shortEscape
    split_ifs <;> first | rfl | omega
  unfold escapeUnit
  rw [none]
  exact if_neg (by omega)

theorem escapeCodePoint_basic {point : CodePoint} (basic : point.val < 0x10000) :
    escapeCodePoint point = escapeUnit ⟨point.val, basic⟩ := by
  unfold escapeCodePoint escapeUnit shortEscape
  dsimp only
  split_ifs <;> rfl

theorem escapeCodePoint_astral {point : CodePoint} (astral : 0x10000 ≤ point.val) :
    escapeCodePoint point = str "\\u" ++ hex4 (0xD800 + (point.val - 0x10000) / 1024) ++
      (str "\\u" ++ hex4 (0xDC00 + (point.val - 0x10000) % 1024)) := by
  unfold escapeCodePoint
  dsimp only
  split_ifs <;> first | rfl | omega

theorem escapeCodePoint_eq (point : CodePoint) :
    escapeCodePoint point = (utf16 point).flatMap escapeUnit := by
  unfold utf16
  by_cases basic : point.val < 0x10000
  · rw [dif_pos basic, List.flatMap_singleton, escapeCodePoint_basic basic]
  · rw [dif_neg basic, escapeCodePoint_astral (by omega), List.flatMap_cons,
      List.flatMap_singleton, escapeUnit_of_ge, escapeUnit_of_ge]
    · rfl
    · exact Nat.le_add_right_of_le (by omega)
    · exact Nat.le_add_right_of_le (by omega)

theorem digitChar_injective : ∀ left < 16, ∀ right < 16,
    Nat.digitChar left = Nat.digitChar right → left = right := by
  decide

theorem hex4_injective {left right : Nat} (boundLeft : left < 0x10000)
    (boundRight : right < 0x10000) (same : hex4 left = hex4 right) : left = right := by
  have digit (left right : Nat)
      (same : codePoint (Nat.digitChar (left % 16)) = codePoint (Nat.digitChar (right % 16))) :
      left % 16 = right % 16 :=
    digitChar_injective _ (Nat.mod_lt _ (by decide)) _ (Nat.mod_lt _ (by decide))
      (codePoint_injective same)
  simp only [hex4, List.map_cons, List.map_nil, List.cons.injEq, and_true] at same
  have first := digit _ _ same.1
  have second := digit _ _ same.2.1
  have third := digit _ _ same.2.2.1
  have fourth := digit _ _ same.2.2.2
  omega

theorem escapeUnit_cases (unit : Utf16Unit) :
    (∃ letter, shortEscape unit.val = some letter ∧
      escapeUnit unit = [codePoint '\\', letter]) ∨
    (∃ letter : CodePoint, letter.val = unit.val ∧ letter ≠ codePoint '\\' ∧
      letter ≠ codePoint '"' ∧ escapeUnit unit = [letter]) ∨
    escapeUnit unit = codePoint '\\' :: codePoint 'u' :: hex4 unit.val := by
  unfold escapeUnit
  cases short : shortEscape unit.val with
  | some letter => exact .inl ⟨letter, rfl, rfl⟩
  | none =>
      refine .inr ?_
      by_cases plain : 0x20 ≤ unit.val ∧ unit.val ≤ 0x7E
      · refine .inl ⟨_, rfl, ?_, ?_, if_pos plain⟩
        · intro same
          have value : unit.val = 0x5C := congrArg Fin.val same
          rw [value] at short
          revert short
          decide
        · intro same
          have value : unit.val = 0x22 := congrArg Fin.val same
          rw [value] at short
          revert short
          decide
      · exact .inr (if_neg plain)

def shortEscapes : List (Nat × CodePoint) :=
  [(0x22, codePoint '"'), (0x5C, codePoint '\\'), (0x0A, codePoint 'n'), (0x0D, codePoint 'r'),
    (0x09, codePoint 't'), (0x0C, codePoint 'f'), (0x08, codePoint 'b')]

theorem shortEscape_mem {value : Nat} {letter : CodePoint}
    (short : shortEscape value = some letter) : (value, letter) ∈ shortEscapes := by
  unfold shortEscape at short
  split_ifs at short
  all_goals
    subst value
    cases short
    decide

theorem shortEscape_injective {left right : Nat} {letter : CodePoint}
    (atLeft : shortEscape left = some letter) (atRight : shortEscape right = some letter) :
    left = right := by
  have distinct : ∀ first ∈ shortEscapes, ∀ second ∈ shortEscapes,
      first.2 = second.2 → first.1 = second.1 := by decide
  exact distinct _ (shortEscape_mem atLeft) _ (shortEscape_mem atRight) rfl

theorem shortEscape_ne_u {value : Nat} {letter : CodePoint}
    (short : shortEscape value = some letter) : letter ≠ codePoint 'u' := by
  have other : ∀ escape ∈ shortEscapes, escape.2 ≠ codePoint 'u' := by decide
  exact other _ (shortEscape_mem short)

theorem escapeUnit_instant : Instant escapeUnit := by
  intro left right restLeft restRight same
  rcases escapeUnit_cases left with
    ⟨letter, short, atLeft⟩ | ⟨letter, value, plain, _, atLeft⟩ | atLeft
  · rcases escapeUnit_cases right with
      ⟨other, shortRight, atRight⟩ | ⟨other, _, plain, _, atRight⟩ | atRight
    · rw [atLeft, atRight] at same
      obtain ⟨rfl, rest⟩ := List.cons.inj (List.cons.inj same).2
      exact ⟨Fin.ext (shortEscape_injective short shortRight), rest⟩
    · rw [atLeft, atRight] at same
      exact absurd (List.cons.inj same).1.symm plain
    · rw [atLeft, atRight] at same
      exact absurd (List.cons.inj (List.cons.inj same).2).1 (shortEscape_ne_u short)
  · rcases escapeUnit_cases right with
      ⟨other, _, atRight⟩ | ⟨other, valueRight, _, _, atRight⟩ | atRight
    · rw [atLeft, atRight] at same
      exact absurd (List.cons.inj same).1 plain
    · rw [atLeft, atRight] at same
      obtain ⟨rfl, rest⟩ := List.cons.inj same
      exact ⟨Fin.ext (value.symm.trans valueRight), rest⟩
    · rw [atLeft, atRight] at same
      exact absurd (List.cons.inj same).1 plain
  · rcases escapeUnit_cases right with
      ⟨other, short, atRight⟩ | ⟨other, _, plain, _, atRight⟩ | atRight
    · rw [atLeft, atRight] at same
      exact absurd (List.cons.inj (List.cons.inj same).2).1.symm (shortEscape_ne_u short)
    · rw [atLeft, atRight] at same
      exact absurd (List.cons.inj same).1.symm plain
    · rw [atLeft, atRight] at same
      obtain ⟨digits, rest⟩ := List.append_inj (List.cons.inj (List.cons.inj same).2).2 rfl
      exact ⟨Fin.ext (hex4_injective left.isLt right.isLt digits), rest⟩

/-- A quoted text ends at its closing quote, and no other text prints like it. -/
theorem quote_reads {left right restLeft restRight : Str} (joinedLeft : Joined left)
    (joinedRight : Joined right) (same : quote left ++ restLeft = quote right ++ restRight) :
    left = right ∧ restLeft = restRight := by
  have units (text : Str) :
      text.flatMap escapeCodePoint = (text.flatMap utf16).flatMap escapeUnit := by
    rw [List.flatMap_assoc]
    exact List.flatMap_congr fun point _ => escapeCodePoint_eq point
  have opens (unit : Utf16Unit) (rest : Str) : escapeUnit unit ≠ codePoint '"' :: rest := by
    intro impossible
    rcases escapeUnit_cases unit with ⟨_, _, escaped⟩ | ⟨letter, _, _, plain, escaped⟩ | escaped
    · rw [escaped] at impossible
      exact absurd (List.cons.inj impossible).1 (by decide)
    · rw [escaped] at impossible
      exact plain (List.cons.inj impossible).1
    · rw [escaped] at impossible
      exact absurd (List.cons.inj impossible).1 (by decide)
  have nonempty (unit : Utf16Unit) : escapeUnit unit ≠ [] := by
    rcases escapeUnit_cases unit with ⟨_, _, escaped⟩ | ⟨_, _, _, _, escaped⟩ | escaped <;>
      rw [escaped] <;> exact List.cons_ne_nil _ _
  unfold quote at same
  rw [units, units, List.append_assoc, List.append_assoc, List.append_assoc,
    List.append_assoc] at same
  obtain ⟨sameUnits, rest⟩ :=
    escapeUnit_instant.flatMap_reads opens nonempty (List.cons.inj same).2
  exact ⟨utf16_injective joinedLeft joinedRight sameUnits, rest⟩

/-! ### UTF-8 -/

theorem encodeCodePoint_ne_nil (point : CodePoint) : encodeCodePoint point ≠ [] := by
  unfold encodeCodePoint
  dsimp only
  split_ifs <;> exact List.cons_ne_nil _ _

theorem encodeCodePoint_instant : Instant encodeCodePoint := by
  intro left right restLeft restRight same
  have boundLeft := left.isLt
  have boundRight := right.isLt
  have byte {value other : Nat} (equal : UInt8.ofNat value = UInt8.ofNat other) :
      value % 256 = other % 256 := by
    simpa using congrArg UInt8.toNat equal
  unfold encodeCodePoint at same
  dsimp only at same
  split_ifs at same <;> simp only [List.cons_append, List.nil_append, List.cons.injEq] at same
  -- words of different lengths differ in their first byte
  any_goals
    have first := byte same.1
    exfalso
    omega
  · have first := byte same.1
    exact ⟨Fin.ext (by omega), same.2⟩
  · have first := byte same.1
    have second := byte same.2.1
    exact ⟨Fin.ext (by omega), same.2.2⟩
  · have first := byte same.1
    have second := byte same.2.1
    have third := byte same.2.2.1
    exact ⟨Fin.ext (by omega), same.2.2.2⟩
  · have first := byte same.1
    have second := byte same.2.1
    have third := byte same.2.2.1
    have fourth := byte same.2.2.2.1
    exact ⟨Fin.ext (by omega), same.2.2.2.2⟩

theorem encodeUtf8_injective {left right : Str} (same : encodeUtf8 left = encodeUtf8 right) :
    left = right :=
  encodeCodePoint_instant.flatMap_injective encodeCodePoint_ne_nil same

end ImagePipeline.Common
