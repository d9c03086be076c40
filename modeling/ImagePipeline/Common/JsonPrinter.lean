/-
The parts `json.dumps` prints a value from: lists with a comma, fields sorted
by key, and tokens. Python's `1`, `1.0` and `True` are three different tokens.
-/

import ImagePipeline.Common.JsonText
import ImagePipeline.Common.JsonValues
import Mathlib.Data.List.Sort
import Mathlib.Tactic.IntervalCases

namespace ImagePipeline.Common

open Json (Alike AlikeField Part HasText)
open Library (Reads Stops)

/-! ### The lists of the printer -/

theorem dumpsItems_eq (runtime : Runtime) (items : List Json) :
    dumpsItems runtime items = items.map (dumps runtime) := by
  induction items with
  | nil => rfl
  | cons item rest ih => rw [dumpsItems, ih, List.map_cons]

theorem dumpsFields_eq (runtime : Runtime) (fields : List (Str × Json)) :
    dumpsFields runtime fields = fields.map (fun field => (field.1, dumps runtime field.2)) := by
  induction fields with
  | nil => rfl
  | cons field rest ih =>
      obtain ⟨key, value⟩ := field
      rw [dumpsFields, ih, List.map_cons]

def comma : CodePoint := codePoint ','

theorem joinComma_eq (texts : List Str) : joinComma texts = Library.joinWith comma texts := by
  induction texts with
  | nil => rfl
  | cons text rest ih =>
      cases rest with
      | nil => rfl
      | cons next more =>
          rw [joinComma, ih, List.append_assoc]
          · rfl
          · exact List.cons_ne_nil _ _

/-! ### Sorting by key -/

section Sorting

variable {α β : Type}

theorem insertField_map (print : α → β) (field : Str × α) (fields : List (Str × α)) :
    insertField (field.1, print field.2) (fields.map (fun field => (field.1, print field.2))) =
      (insertField field fields).map (fun field => (field.1, print field.2)) := by
  induction fields with
  | nil => rfl
  | cons head rest ih =>
      simp only [List.map_cons, insertField]
      split
      · rfl
      · rw [ih, List.map_cons]

theorem sortFields_map (print : α → β) (fields : List (Str × α)) :
    sortFields (fields.map (fun field => (field.1, print field.2))) =
      (sortFields fields).map (fun field => (field.1, print field.2)) := by
  induction fields with
  | nil => rfl
  | cons head rest ih => rw [List.map_cons, sortFields, ih, insertField_map, sortFields]

theorem insertField_perm (field : Str × α) (fields : List (Str × α)) :
    (insertField field fields).Perm (field :: fields) := by
  induction fields with
  | nil => exact .refl _
  | cons head rest ih =>
      rw [insertField]
      split
      · exact .refl _
      · exact (ih.cons head).trans (.swap field head rest)

theorem sortFields_perm (fields : List (Str × α)) : (sortFields fields).Perm fields := by
  induction fields with
  | nil => exact .refl _
  | cons head rest ih => exact (insertField_perm head _).trans (ih.cons head)

theorem Str.le_total (left right : Str) : Str.le left right = true ∨ Str.le right left = true := by
  induction left generalizing right with
  | nil => exact .inl rfl
  | cons head tail ih =>
      cases right with
      | nil => exact .inr rfl
      | cons other more =>
          rcases ih more with le | le <;> simp only [Str.le, le, Bool.or_eq_true, Bool.and_eq_true,
            decide_eq_true_eq, and_true] <;> omega

theorem Str.le_trans {first second third : Str} (left : Str.le first second = true)
    (right : Str.le second third = true) : Str.le first third = true := by
  induction first generalizing second third with
  | nil => rfl
  | cons head tail ih =>
      cases second with
      | nil => cases left
      | cons middle between =>
          cases third with
          | nil => cases right
          | cons last more =>
              simp only [Str.le, Bool.or_eq_true, Bool.and_eq_true, decide_eq_true_eq] at *
              rcases left with less | ⟨equal, rest⟩
              · rcases right with further | ⟨same, _⟩ <;> exact .inl (by omega)
              · rcases right with further | ⟨same, later⟩
                · exact .inl (by omega)
                · exact .inr ⟨by omega, ih rest later⟩

theorem Str.le_antisymm {left right : Str} (forth : Str.le left right = true)
    (back : Str.le right left = true) : left = right := by
  induction left generalizing right with
  | nil =>
      cases right with
      | nil => rfl
      | cons head tail => cases back
  | cons head tail ih =>
      cases right with
      | nil => cases forth
      | cons other more =>
          simp only [Str.le, Bool.or_eq_true, Bool.and_eq_true, decide_eq_true_eq] at forth back
          rcases forth with less | ⟨equal, rest⟩
          · rcases back with less' | ⟨equal, _⟩ <;> omega
          · rcases back with less | ⟨_, rest'⟩
            · omega
            · rw [Fin.ext equal, ih rest rest']

theorem insertField_sorted (field : Str × α) {fields : List (Str × α)}
    (sorted : fields.Pairwise (fun left right => Str.le left.1 right.1 = true)) :
    (insertField field fields).Pairwise (fun left right => Str.le left.1 right.1 = true) := by
  induction fields with
  | nil => exact List.pairwise_singleton _ _
  | cons head rest ih =>
      rw [List.pairwise_cons] at sorted
      rw [insertField]
      split
      · rename_i before
        rw [List.pairwise_cons]
        refine ⟨?_, List.pairwise_cons.mpr sorted⟩
        intro other member
        rcases List.mem_cons.mp member with rfl | later
        · exact before
        · exact Str.le_trans before (sorted.1 other later)
      · rename_i notBefore
        rw [List.pairwise_cons]
        refine ⟨?_, ih sorted.2⟩
        intro other member
        rcases List.mem_cons.mp ((insertField_perm field rest).mem_iff.mp member) with rfl | later
        · exact (Str.le_total _ _).resolve_left notBefore
        · exact sorted.1 other later

theorem sortFields_sorted (fields : List (Str × α)) :
    (sortFields fields).Pairwise (fun left right => Str.le left.1 right.1 = true) := by
  induction fields with
  | nil => exact .nil
  | cons head rest ih => exact insertField_sorted head ih

theorem insertField_of_le {field : Str × α} {fields : List (Str × α)}
    (first : ∀ other ∈ fields, Str.le field.1 other.1 = true) :
    insertField field fields = field :: fields := by
  cases fields with
  | nil => rfl
  | cons head rest => rw [insertField, if_pos (first head List.mem_cons_self)]

theorem insertField_filter (kept : Str × α → Bool) (field : Str × α) {fields : List (Str × α)}
    (sorted : fields.Pairwise (fun left right => Str.le left.1 right.1 = true)) :
    (insertField field fields).filter kept =
      if kept field then insertField field (fields.filter kept) else fields.filter kept := by
  induction fields with
  | nil => cases keep : kept field <;> simp [insertField, keep]
  | cons head rest ih =>
      rw [List.pairwise_cons] at sorted
      rw [insertField]
      split
      · rename_i before
        cases keep : kept field with
        | false => rw [List.filter_cons_of_neg (by simp [keep]), if_neg Bool.false_ne_true]
        | true =>
            rw [List.filter_cons_of_pos keep, if_pos rfl, insertField_of_le]
            intro other member
            rcases List.mem_cons.mp (List.mem_filter.mp member).1 with rfl | later
            · exact before
            · exact Str.le_trans before (sorted.1 other later)
      · rename_i notBefore
        cases keepHead : kept head with
        | false =>
            rw [List.filter_cons_of_neg (by simp [keepHead]),
              List.filter_cons_of_neg (by simp [keepHead]), ih sorted.2]
        | true =>
            rw [List.filter_cons_of_pos keepHead, List.filter_cons_of_pos keepHead, ih sorted.2]
            cases keep : kept field with
            | false => rfl
            | true => rw [if_pos rfl, if_pos rfl, insertField, if_neg notBefore]

/-- The sort is stable, so that it does not matter whether fields are left out
before or after it. -/
theorem sortFields_filter (kept : Str × α → Bool) (fields : List (Str × α)) :
    (sortFields fields).filter kept = sortFields (fields.filter kept) := by
  induction fields with
  | nil => rfl
  | cons field rest ih =>
      rw [sortFields, insertField_filter kept field (sortFields_sorted rest), ih]
      cases keep : kept field with
      | false => rw [List.filter_cons_of_neg (by simp [keep]), if_neg Bool.false_ne_true]
      | true => rw [List.filter_cons_of_pos keep, if_pos rfl, sortFields]

theorem sortFields_eq_of_perm {left right : List (Str × α)} (rearranged : left.Perm right)
    (distinct : (right.map Prod.fst).Nodup) : sortFields left = sortFields right := by
  have both : (sortFields left).Perm (sortFields right) :=
    (sortFields_perm left).trans (rearranged.trans (sortFields_perm right).symm)
  apply both.eq_of_pairwise ?_ (sortFields_sorted left) (sortFields_sorted right)
  intro first second inLeft inRight forth back
  have memberFirst := (sortFields_perm right).mem_iff.mp (both.mem_iff.mp inLeft)
  have memberSecond := (sortFields_perm right).mem_iff.mp inRight
  exact List.inj_on_of_nodup_map distinct memberFirst memberSecond (Str.le_antisymm forth back)

end Sorting

/-! ### Tokens -/

def decimalDigits : Str := str "0123456789"

def integerLetters : Str := decimalDigits ++ str "-"

def numberLetters : Str := integerLetters ++ str "+.e"

def tokenLetters : Str := numberLetters ++ str "nultrfasNIiy"

/-- The letters that can follow a printed value. -/
def stopLetters : Str := str ",]\x7d"

-- `decide` on a quantifier over letters would go through all code points
theorem all_letters {text : Str} {property : CodePoint → Prop} [DecidablePred property]
    (all : text.all (fun letter => decide (property letter)) = true) :
    ∀ letter ∈ text, property letter := by
  simpa only [List.all_eq_true, decide_eq_true_eq] using all

theorem some_letter {text : Str} {property : CodePoint → Prop} [DecidablePred property]
    (any : text.any (fun letter => decide (property letter)) = true) :
    ∃ letter ∈ text, property letter := by
  simpa only [List.any_eq_true, decide_eq_true_eq] using any

theorem tokenLetters_noStop : ∀ letter ∈ tokenLetters, letter ∉ stopLetters :=
  all_letters (by decide)

def PyFloat.isFinite : PyFloat → Bool
  | .finite _ | .negativeZero => true
  | .nan | .infinity _ => false

/-- What `float.__repr__` is known for: different finite floats print
differently, in the usual letters, and never like an integer. -/
structure Runtime.PrintsFloats (runtime : Runtime) : Prop where
  injective : ∀ left right : PyFloat, left.isFinite = true → right.isFinite = true →
    runtime.floatRepr left = runtime.floatRepr right → left = right
  letters : ∀ value : PyFloat, value.isFinite = true →
    ∀ letter ∈ runtime.floatRepr value, letter ∈ numberLetters
  nonempty : ∀ value : PyFloat, value.isFinite = true → runtime.floatRepr value ≠ []
  notInteger : ∀ (value : PyFloat) (number : Int), value.isFinite = true →
    runtime.floatRepr value ≠ intRepr number

theorem natDigits_injective {left right : Nat} (same : natDigits left = natDigits right) :
    left = right := by
  have digits : Nat.toDigits 10 left = Nat.toDigits 10 right :=
    List.map_injective_iff.mpr codePoint_injective same
  rw [← Nat.ofDigitChars_ten_toDigits (n := left), digits, Nat.ofDigitChars_ten_toDigits]

theorem natDigits_ne_nil (value : Nat) : natDigits value ≠ [] := by
  unfold natDigits
  rw [Ne, List.map_eq_nil_iff]
  exact Nat.toDigits_ne_nil

theorem natDigits_letters (value : Nat) : ∀ letter ∈ natDigits value, letter ∈ decimalDigits := by
  intro letter member
  obtain ⟨char, present, rfl⟩ := List.mem_map.mp member
  have digit := Nat.isDigit_of_mem_toDigits (by decide) (by decide) present
  have range : ∀ point : CodePoint, 48 ≤ point.val → point.val ≤ 57 → point ∈ decimalDigits := by
    intro ⟨value, bound⟩ least most
    simp only at least most
    interval_cases value <;> decide +revert
  simp only [Char.isDigit, Bool.and_eq_true, decide_eq_true_eq] at digit
  exact range (codePoint char) digit.1 digit.2

theorem intRepr_letters (value : Int) : ∀ letter ∈ intRepr value, letter ∈ integerLetters := by
  intro letter member
  cases value with
  | ofNat value => exact List.mem_append_left _ (natDigits_letters value letter member)
  | negSucc value =>
      rcases List.mem_append.mp member with sign | digit
      · exact List.mem_append_right _ sign
      · exact List.mem_append_left _ (natDigits_letters _ letter digit)

theorem intRepr_ne_nil (value : Int) : intRepr value ≠ [] := by
  cases value with
  | ofNat value => exact natDigits_ne_nil value
  | negSucc value => exact List.cons_ne_nil _ _

theorem intRepr_injective {left right : Int} (same : intRepr left = intRepr right) :
    left = right := by
  have signed (number : Nat) (digits : Str) : natDigits number ≠ str "-" ++ digits := by
    intro same
    have sign : codePoint '-' ∈ natDigits number := by
      rw [same]
      exact List.mem_cons_self
    have none : codePoint '-' ∉ decimalDigits := by decide
    exact none (natDigits_letters number _ sign)
  cases left with
  | ofNat left =>
      cases right with
      | ofNat right => exact congrArg Int.ofNat (natDigits_injective same)
      | negSucc right => exact absurd same (signed left _)
  | negSucc left =>
      cases right with
      | ofNat right => exact absurd same.symm (signed right _)
      | negSucc right =>
          have digits := natDigits_injective (List.append_cancel_left same)
          exact congrArg Int.negSucc (Nat.succ.inj digits)

/-- Everything but texts and containers prints as one token. -/
def Json.isToken : Json → Bool
  | .str _ | .arr _ | .obj _ => false
  | _ => true

/-- The tokens that are words. -/
def Json.word? : Json → Option String
  | .null => some "null"
  | .bool true => some "true"
  | .bool false => some "false"
  | .float .nan => some "NaN"
  | .float (.infinity false) => some "Infinity"
  | .float (.infinity true) => some "-Infinity"
  | _ => none

variable {runtime : Runtime}

theorem dumps_word {value : Json} {word : String} (isWord : value.word? = some word) :
    dumps runtime value = str word := by
  unfold Json.word? at isWord
  split at isWord <;> cases isWord <;> rfl

theorem word_injective {left right : Json} {word : String} (atLeft : left.word? = some word)
    (atRight : right.word? = some word) : left = right := by
  unfold Json.word? at atLeft atRight
  split at atLeft <;> cases atLeft <;> split at atRight <;>
    first | rfl | exact absurd (Option.some.inj atRight) (by decide) | cases atRight

theorem word_letters {value : Json} {word : String} (isWord : value.word? = some word) :
    (∃ letter ∈ str word, letter ∉ numberLetters) ∧ ∀ letter ∈ str word, letter ∈ tokenLetters := by
  unfold Json.word? at isWord
  split at isWord <;> cases isWord <;>
    exact ⟨some_letter (by decide), all_letters (by decide)⟩

theorem number_cases {value : Json} (token : value.isToken = true) (noWord : value.word? = none) :
    (∃ number, value = .int number) ∨ ∃ number, value = .float number ∧ number.isFinite = true := by
  cases value with
  | null => cases noWord
  | bool value => cases value <;> cases noWord
  | int value => exact .inl ⟨value, rfl⟩
  | float value =>
      cases value with
      | nan => cases noWord
      | infinity negative => cases negative <;> cases noWord
      | finite value => exact .inr ⟨_, rfl, rfl⟩
      | negativeZero => exact .inr ⟨_, rfl, rfl⟩
  | str | arr | obj => cases token

theorem dumps_finite {value : PyFloat} (finite : value.isFinite = true) :
    dumps runtime (.float value) = runtime.floatRepr value := by
  cases value with
  | finite | negativeZero => rfl
  | nan | infinity => cases finite

theorem number_letters (floats : runtime.PrintsFloats) {value : Json}
    (token : value.isToken = true) (noWord : value.word? = none) :
    dumps runtime value ≠ [] ∧ ∀ letter ∈ dumps runtime value, letter ∈ numberLetters := by
  rcases number_cases token noWord with ⟨number, rfl⟩ | ⟨number, rfl, finite⟩
  · exact ⟨intRepr_ne_nil number, fun letter member =>
      List.mem_append_left _ (intRepr_letters number letter member)⟩
  · rw [dumps_finite finite]
    exact ⟨floats.nonempty number finite, floats.letters number finite⟩

theorem token_letters (floats : runtime.PrintsFloats) {value : Json}
    (token : value.isToken = true) :
    dumps runtime value ≠ [] ∧ ∀ letter ∈ dumps runtime value, letter ∈ tokenLetters := by
  cases word : value.word? with
  | none =>
      obtain ⟨nonempty, letters⟩ := number_letters floats token word
      exact ⟨nonempty, fun letter member => List.mem_append_left _ (letters letter member)⟩
  | some text =>
      obtain ⟨⟨letter, member, _⟩, letters⟩ := word_letters word
      rw [dumps_word word]
      exact ⟨List.ne_nil_of_mem member, letters⟩

theorem number_injective (floats : runtime.PrintsFloats) {left right : Json}
    (tokenLeft : left.isToken = true) (tokenRight : right.isToken = true)
    (wordLeft : left.word? = none) (wordRight : right.word? = none)
    (same : dumps runtime left = dumps runtime right) : left = right := by
  rcases number_cases tokenLeft wordLeft with ⟨number, rfl⟩ | ⟨number, rfl, finite⟩
  · rcases number_cases tokenRight wordRight with ⟨other, rfl⟩ | ⟨other, rfl, finiteRight⟩
    · exact congrArg Json.int (intRepr_injective same)
    · rw [dumps_finite finiteRight] at same
      exact absurd same.symm (floats.notInteger other number finiteRight)
  · rcases number_cases tokenRight wordRight with ⟨other, rfl⟩ | ⟨other, rfl, finiteRight⟩
    · rw [dumps_finite finite] at same
      exact absurd same (floats.notInteger number other finite)
    · rw [dumps_finite finite, dumps_finite finiteRight] at same
      exact congrArg Json.float (floats.injective number other finite finiteRight same)

theorem token_injective (floats : runtime.PrintsFloats) {left right : Json}
    (tokenLeft : left.isToken = true) (tokenRight : right.isToken = true)
    (same : dumps runtime left = dumps runtime right) : left = right := by
  -- a word has a letter that no number has
  have mixed {word number : Json} {text : String} (isWord : word.word? = some text)
      (token : number.isToken = true) (noWord : number.word? = none)
      (same : dumps runtime word = dumps runtime number) : False := by
    obtain ⟨⟨letter, member, notNumber⟩, _⟩ := word_letters isWord
    rw [← show dumps runtime word = str text from dumps_word isWord, same] at member
    exact notNumber ((number_letters floats token noWord).2 letter member)
  cases wordLeft : left.word? with
  | some text =>
      cases wordRight : right.word? with
      | some other =>
          rw [dumps_word wordLeft, dumps_word wordRight, str_inj] at same
          subst other
          exact word_injective wordLeft wordRight
      | none => exact absurd (mixed wordLeft tokenRight wordRight same) id
  | none =>
      cases wordRight : right.word? with
      | some other => exact absurd (mixed wordRight tokenLeft wordLeft same.symm) id
      | none => exact number_injective floats tokenLeft tokenRight wordLeft wordRight same

end ImagePipeline.Common
