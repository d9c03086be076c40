/-
Python text and bytes. A `str` is a list of code points and may hold lone
surrogates, which is why it is not Lean's `String`: `json.loads` yields them.
White space is what `str.strip()`, `str.isspace()` and `\s` agree on.
-/

import Mathlib.Algebra.GroupWithZero.Nat
import Mathlib.Data.List.DropRight
import Mathlib.Data.String.Basic

namespace ImagePipeline.Common

abbrev CodePoint := Fin 0x110000

abbrev Str := List CodePoint

abbrev Bytes := List UInt8

def codePoint (char : Char) : CodePoint :=
  ⟨char.toNat, by
    have valid := char.valid
    unfold UInt32.isValidChar Nat.isValidChar at valid
    unfold Char.toNat
    omega⟩

instance codePoints_neZero : NeZero 0x110000 := ⟨by decide⟩

instance : LawfulBEq CodePoint := inferInstance

instance : LawfulBEq Str := inferInstance

def pointOf (value : Nat) : CodePoint := Fin.ofNat 0x110000 value

/-- A literal of the source. -/
def str (literal : String) : Str := literal.toList.map codePoint

theorem codePoint_injective : Function.Injective codePoint := by
  intro left right same
  have values : (codePoint left).val = (codePoint right).val := congrArg Fin.val same
  change left.val.toNat = right.val.toNat at values
  exact Char.ext (UInt32.toNat_inj.mp values)

@[simp] theorem str_inj (left right : String) : str left = str right ↔ left = right := by
  constructor
  · intro same
    exact String.toList_injective (List.map_injective_iff.mpr codePoint_injective same)
  · intro same
    rw [same]

def slash : CodePoint := codePoint '/'

/-- Decimal digits of a natural number, most significant first. -/
def natDigits (value : Nat) : Str := (Nat.toDigits 10 value).map codePoint

/-- `int.__repr__`. -/
def intRepr : Int → Str
  | .ofNat value => natDigits value
  | .negSucc value => str "-" ++ natDigits (value + 1)

/-- Four lower-case hexadecimal digits, the `04x` format. -/
def hex4 (value : Nat) : Str :=
  ([value / 4096 % 16, value / 256 % 16, value / 16 % 16, value % 16].map
    (fun digit => codePoint (Nat.digitChar digit)))

/-- `str.encode("utf-8")` of one code point. -/
def encodeCodePoint (point : CodePoint) : Bytes :=
  let value := point.val
  if value < 0x80 then [UInt8.ofNat value]
  else if value < 0x800 then
    [UInt8.ofNat (0xC0 + value / 64), UInt8.ofNat (0x80 + value % 64)]
  else if value < 0x10000 then
    [UInt8.ofNat (0xE0 + value / 4096), UInt8.ofNat (0x80 + value / 64 % 64),
      UInt8.ofNat (0x80 + value % 64)]
  else
    [UInt8.ofNat (0xF0 + value / 262144), UInt8.ofNat (0x80 + value / 4096 % 64),
      UInt8.ofNat (0x80 + value / 64 % 64), UInt8.ofNat (0x80 + value % 64)]

def encodeUtf8 (text : Str) : Bytes := text.flatMap encodeCodePoint

def isSurrogate (point : CodePoint) : Bool := 0xD800 ≤ point.val && point.val ≤ 0xDFFF

/-- `text.encode("utf-8")` raises no `UnicodeEncodeError`. -/
def encodable (text : Str) : Bool := text.all (fun point => !isSurrogate point)

/-! ### White space -/

/-- `str.isspace()` of one code point. -/
def isSpace (point : CodePoint) : Bool :=
  let value := point.val
  (0x09 ≤ value && value ≤ 0x0D) || (0x1C ≤ value && value ≤ 0x20) || value = 0x85 ||
    value = 0xA0 || value = 0x1680 || (0x2000 ≤ value && value ≤ 0x200A) || value = 0x2028 ||
    value = 0x2029 || value = 0x202F || value = 0x205F || value = 0x3000

/-- `text.strip()`. -/
def strip (text : Str) : Str := (text.dropWhile isSpace).rdropWhile isSpace

example : strip (str " main\n") = str "main" := by decide

theorem dropWhile_rdropWhile {text : Str} (trimmed : text.dropWhile isSpace = text) :
    (text.rdropWhile isSpace).dropWhile isSpace = text.rdropWhile isSpace := by
  cases kept : text.rdropWhile isSpace with
  | nil => rfl
  | cons first rest =>
      have front := List.rdropWhile_prefix isSpace text
      rw [kept] at front
      obtain ⟨dropped, rfl⟩ := front
      cases spaced : isSpace first with
      | true =>
          rw [List.cons_append, List.dropWhile_cons_of_pos spaced] at trimmed
          have shorter : ((rest ++ dropped).dropWhile isSpace).length ≤ (rest ++ dropped).length :=
            (List.dropWhile_sublist isSpace).length_le
          rw [trimmed, List.length_cons] at shorter
          omega
      | false => rw [List.dropWhile_cons_of_neg (by simp [spaced])]

@[simp] theorem strip_strip (text : Str) : strip (strip text) = strip text := by
  have front : (strip text).dropWhile isSpace = strip text :=
    dropWhile_rdropWhile (List.dropWhile_idempotent isSpace text)
  rw [strip, front]
  exact List.rdropWhile_idempotent isSpace _

theorem strip_of_noSpace {text : Str} (noSpace : ∀ letter ∈ text, isSpace letter = false) :
    strip text = text := by
  have front : text.dropWhile isSpace = text := by
    cases text with
    | nil => rfl
    | cons first rest =>
        exact List.dropWhile_cons_of_neg (by simp [noSpace first List.mem_cons_self])
  rw [strip, front, List.rdropWhile_eq_self_iff]
  intro some
  simp [noSpace _ (List.getLast_mem some)]

/-! ### Hexadecimal digits -/

def hexDigits : Nat → Nat → Str
  | 0, _ => []
  | count + 1, value => hexDigits count (value / 16) ++ [codePoint (Nat.digitChar (value % 16))]

def hexValue (letter : CodePoint) : Option Nat :=
  if 0x30 ≤ letter.val ∧ letter.val ≤ 0x39 then some (letter.val - 0x30)
  else if 0x41 ≤ letter.val ∧ letter.val ≤ 0x46 then some (letter.val - 0x41 + 10)
  else if 0x61 ≤ letter.val ∧ letter.val ≤ 0x66 then some (letter.val - 0x61 + 10)
  else none

def hexNumber (digits : Str) : Option Nat :=
  digits.foldl (fun value digit => do
    let value ← value
    let digit ← hexValue digit
    pure (16 * value + digit)) (some 0)

theorem hexDigits_four (value : Nat) : hexDigits 4 value = hex4 value := by
  simp only [hexDigits, hex4, Nat.div_div_eq_div_mul, List.nil_append, List.cons_append,
    List.map_cons, List.map_nil]

@[simp] theorem length_hexDigits (count value : Nat) : (hexDigits count value).length = count := by
  induction count generalizing value with
  | zero => rfl
  | succ count ih => rw [hexDigits, List.length_append, ih, List.length_singleton]

theorem hexValue_digitChar :
    ∀ digit < 16, hexValue (codePoint (Nat.digitChar digit)) = some digit := by
  decide

theorem hexNumber_concat (digits : Str) (digit : CodePoint) :
    hexNumber (digits ++ [digit]) =
      (hexNumber digits).bind
        (fun value => (hexValue digit).map (fun digit => 16 * value + digit)) := by
  unfold hexNumber
  rw [List.foldl_append]
  cases digits.foldl _ (some 0) with
  | none => rfl
  | some value =>
      cases known : hexValue digit <;> simp [known]

theorem hexNumber_hexDigits (count value : Nat) :
    hexNumber (hexDigits count value) = some (value % 16 ^ count) := by
  induction count generalizing value with
  | zero =>
      rw [Nat.pow_zero, Nat.mod_one]
      rfl
  | succ count ih =>
      have digit := hexValue_digitChar (value % 16) (Nat.mod_lt _ (by decide))
      have parts : 16 * (value / 16 % 16 ^ count) + value % 16 = value % 16 ^ (count + 1) := by
        rw [Nat.pow_succ, Nat.mul_comm (16 ^ count), Nat.mod_mul]
        omega
      rw [hexDigits, hexNumber_concat, ih, digit, ← parts]
      rfl

theorem hexNumber_take {count value : Nat} (bounded : value < 16 ^ count) (rest : Str) :
    hexNumber ((hexDigits count value ++ rest).take count) = some value := by
  rw [List.take_left' (length_hexDigits count value), hexNumber_hexDigits,
    Nat.mod_eq_of_lt bounded]

end ImagePipeline.Common
