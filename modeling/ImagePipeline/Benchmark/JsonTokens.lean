/-
`json.loads` reads back the strings and the numbers that `json.dumps` prints. A
string is read back if it holds no surrogate pair in two halves, an integer if it
has not too many digits.
-/

import ImagePipeline.Common.JsonLayout
import ImagePipeline.Common.JsonReading
import ImagePipeline.Loadtest.JsonReadBack

namespace ImagePipeline.Benchmark

open Common
open Library (Scanned scan)
open Loadtest (scanHex4_hexDigits stringStep_short takeWhile_digits skipSpace_cons NoDigit
  NumberText)

/-! ### Strings -/

def Unpaired (text : Str) : Prop :=
  ∀ more, text = codePoint '\\' :: codePoint 'u' :: more →
    ∃ second later, scanHex4 more = some (second, later) ∧ ¬ (0xDC00 ≤ second ∧ second ≤ 0xDFFF)

theorem scanHex4_hex4 {unit : Nat} (bounded : unit < 0x10000) (rest : Str) :
    scanHex4 (hex4 unit ++ rest) = some (unit, rest) := by
  rw [← hexDigits_four]
  exact scanHex4_hexDigits bounded rest

theorem scanUnicode_single {unit : Nat} (bounded : unit < 0x10000) {rest : Str}
    (unpaired : 0xD800 ≤ unit → unit ≤ 0xDBFF → Unpaired rest) :
    scanUnicode (hex4 unit ++ rest) = .ok (pointOf unit, rest) := by
  unfold scanUnicode
  rw [scanHex4_hex4 bounded]
  dsimp only
  by_cases high : 0xD800 ≤ unit ∧ unit ≤ 0xDBFF
  · rw [if_pos high]
    split
    · rename_i backslash letter more
      split_ifs with both
      · obtain ⟨rfl, rfl⟩ := both
        obtain ⟨second, later, scanned, notLow⟩ := unpaired high.1 high.2 more rfl
        rw [scanned]
        exact if_neg notLow
      · rfl
    · rfl
  · rw [if_neg high]

theorem scanUnicode_pair {high low : Nat} (isHigh : 0xD800 ≤ high ∧ high ≤ 0xDBFF)
    (isLow : 0xDC00 ≤ low ∧ low ≤ 0xDFFF) (rest : Str) :
    scanUnicode (hex4 high ++ codePoint '\\' :: codePoint 'u' :: (hex4 low ++ rest)) =
      .ok (pointOf (joinPair high low), rest) := by
  have boundHigh : high < 0x10000 := by omega
  have boundLow : low < 0x10000 := by omega
  unfold scanUnicode
  rw [scanHex4_hex4 boundHigh]
  dsimp only
  rw [if_pos isHigh, if_pos ⟨rfl, rfl⟩, scanHex4_hex4 boundLow]
  exact if_pos isLow

theorem joinPair_halves {point : CodePoint} (astral : 0x10000 ≤ point.val) :
    pointOf (joinPair (0xD800 + (point.val - 0x10000) / 1024)
      (0xDC00 + (point.val - 0x10000) % 1024)) = point := by
  have whole : joinPair (0xD800 + (point.val - 0x10000) / 1024)
      (0xDC00 + (point.val - 0x10000) % 1024) = point.val := by
    unfold joinPair
    omega
  rw [whole]
  exact Fin.ofNat_val_eq_self point

theorem stringStep_unicode (text : Str) :
    stringStep (codePoint '\\' :: codePoint 'u' :: text) =
      (scanUnicode text).map (fun scanned => .emits [scanned.1] scanned.2) := rfl

theorem escape_astral {point : CodePoint} (astral : 0x10000 ≤ point.val) (rest : Str) :
    escapeCodePoint point ++ rest =
      codePoint '\\' :: codePoint 'u' :: (hex4 (0xD800 + (point.val - 0x10000) / 1024) ++
        codePoint '\\' :: codePoint 'u' ::
          (hex4 (0xDC00 + (point.val - 0x10000) % 1024) ++ rest)) := by
  rw [escapeCodePoint_astral astral]
  simp only [List.append_assoc]
  rfl

theorem stringStep_escape {point : CodePoint} {rest : Str}
    (unpaired : point.high → Unpaired rest) :
    stringStep (escapeCodePoint point ++ rest) = .ok (.emits [point] rest) := by
  have whole : pointOf point.val = point := Fin.ofNat_val_eq_self point
  by_cases basic : point.val < 0x10000
  · rw [escapeCodePoint_basic basic]
    rcases escapeUnit_cases ⟨point.val, basic⟩ with
      ⟨letter, short, escaped⟩ | ⟨letter, value, noBackslash, noQuote, escaped⟩ | escaped
    · have step := stringStep_short _ (shortEscape_mem short) rest
      rw [escaped]
      change stringStep (codePoint '\\' :: letter :: rest) = _
      rw [step, whole]
    · obtain rfl : letter = point := Fin.ext value
      have plain : ¬ letter.val < 0x20 := by
        intro control
        unfold escapeUnit at escaped
        split at escaped
        · exact noBackslash (List.cons.inj escaped).1.symm
        · rw [if_neg (by dsimp only; omega)] at escaped
          exact noBackslash (List.cons.inj escaped).1.symm
      rw [escaped, List.singleton_append]
      unfold stringStep
      dsimp only
      rw [if_neg noQuote, if_neg noBackslash, if_neg plain]
    · rw [escaped, List.cons_append, List.cons_append, stringStep_unicode,
        scanUnicode_single basic fun least most => unpaired ⟨least, most⟩, whole]
      rfl
  · have astral : 0x10000 ≤ point.val := by omega
    have bound := point.isLt
    rw [escape_astral astral, stringStep_unicode, scanUnicode_pair (by omega) (by omega),
      joinPair_halves astral]
    rfl

theorem unpaired_quote (rest : Str) : Unpaired (codePoint '"' :: rest) := by
  intro more same
  have noBackslash : codePoint '"' ≠ codePoint '\\' := by decide
  exact absurd (List.cons.inj same).1 noBackslash

theorem unpaired_escape {point : CodePoint} (notLow : ¬ point.low) (rest : Str) :
    Unpaired (escapeCodePoint point ++ rest) := by
  intro more same
  by_cases basic : point.val < 0x10000
  · rw [escapeCodePoint_basic basic] at same
    rcases escapeUnit_cases ⟨point.val, basic⟩ with
      ⟨letter, short, escaped⟩ | ⟨letter, _, noBackslash, _, escaped⟩ | escaped
    · rw [escaped] at same
      exact absurd (List.cons.inj (List.cons.inj same).2).1 (shortEscape_ne_u short)
    · rw [escaped] at same
      exact absurd (List.cons.inj same).1 noBackslash
    · rw [escaped] at same
      obtain rfl : hex4 point.val ++ rest = more := (List.cons.inj (List.cons.inj same).2).2
      exact ⟨_, _, scanHex4_hex4 basic rest, fun low => notLow low⟩
  · have bound := point.isLt
    rw [escape_astral (by omega)] at same
    obtain ⟨_, same⟩ := List.cons.inj same
    obtain ⟨_, rfl⟩ := List.cons.inj same
    exact ⟨_, _, scanHex4_hex4 (by omega) _, by omega⟩

theorem scan_quoted {text : Str} (joined : Joined text) (rest : Str) {rounds : Nat}
    (enough : text.length < rounds) :
    scan .jsonDecodeError stringStep rounds
        (text.flatMap escapeCodePoint ++ codePoint '"' :: rest) = .ok (text, rest) := by
  induction text generalizing rounds with
  | nil =>
      cases rounds with
      | zero => exact absurd enough (Nat.not_lt_zero _)
      | succ rounds => rfl
  | cons point more ih =>
      cases rounds with
      | zero => exact absurd enough (Nat.not_lt_zero _)
      | succ rounds =>
          have later := ih joined.tail (Nat.lt_of_succ_lt_succ enough)
          have unpaired : point.high →
              Unpaired (more.flatMap escapeCodePoint ++ codePoint '"' :: rest) := by
            intro high
            cases more with
            | nil => exact unpaired_quote rest
            | cons next others =>
                have apart := (List.isChain_cons_cons.mp joined).1
                rw [List.flatMap_cons, List.append_assoc]
                exact unpaired_escape (fun low => apart ⟨high, low⟩) _
          rw [List.flatMap_cons, List.append_assoc, scan, stringStep_escape unpaired]
          dsimp only
          rw [later]
          rfl

theorem escapeCodePoint_ne_nil (point : CodePoint) : escapeCodePoint point ≠ [] := by
  unfold escapeCodePoint
  dsimp only
  split_ifs <;> exact List.cons_ne_nil _ _

theorem scanString_quoted {text : Str} (joined : Joined text) (rest : Str) :
    scanString (text.flatMap escapeCodePoint ++ codePoint '"' :: rest) = .ok (text, rest) := by
  have lengths : text.length ≤ (text.flatMap escapeCodePoint).length :=
    Library.length_le_flatMap fun point _ => escapeCodePoint_ne_nil point
  apply scan_quoted joined
  rw [List.length_append]
  omega

theorem quote_append (text rest : Str) :
    quote text ++ rest =
      codePoint '"' :: (text.flatMap escapeCodePoint ++ codePoint '"' :: rest) := by
  unfold quote
  rw [List.append_assoc, List.append_assoc]
  rfl

/-! ### Numbers -/

theorem digitChar_digit : ∀ digit < 10,
    isDigit (codePoint (Nat.digitChar digit)) = true ∧
      (codePoint (Nat.digitChar digit)).val - 0x30 = digit ∧
      (0 < digit → codePoint (Nat.digitChar digit) ≠ codePoint '0') := by
  decide

theorem natDigits_small {value : Nat} (small : value < 10) :
    natDigits value = [codePoint (Nat.digitChar value)] := by
  rw [natDigits, Nat.toDigits_of_lt_base small]
  rfl

theorem natDigits_concat {value : Nat} (large : 10 ≤ value) :
    natDigits value = natDigits (value / 10) ++ [codePoint (Nat.digitChar (value % 10))] := by
  rw [natDigits, Nat.toDigits_of_base_le (by decide) large, List.map_append]
  rfl

theorem natDigits_isDigit (value : Nat) : (natDigits value).all isDigit = true := by
  induction value using Nat.strongRecOn with
  | ind value ih =>
      by_cases small : value < 10
      · rw [natDigits_small small, List.all_cons, (digitChar_digit value small).1]
        rfl
      · have last := digitChar_digit (value % 10) (Nat.mod_lt _ (by decide))
        rw [natDigits_concat (by omega), List.all_append, ih (value / 10) (by omega), List.all_cons,
          last.1]
        rfl

theorem decimalValue_natDigits (value : Nat) : decimalValue (natDigits value) = value := by
  induction value using Nat.strongRecOn with
  | ind value ih =>
      by_cases small : value < 10
      · rw [natDigits_small small]
        change 10 * 0 + _ = value
        rw [(digitChar_digit value small).2.1]
        omega
      · have last := (digitChar_digit (value % 10) (Nat.mod_lt _ (by decide))).2.1
        have before := ih (value / 10) (by omega)
        unfold decimalValue at before ⊢
        rw [natDigits_concat (by omega), List.foldl_append, before]
        change 10 * (value / 10) + _ = value
        rw [last]
        omega

theorem natDigits_head {value : Nat} (positive : 0 < value) :
    (natDigits value).head? ≠ some (codePoint '0') := by
  induction value using Nat.strongRecOn with
  | ind value ih =>
      by_cases small : value < 10
      · rw [natDigits_small small]
        exact fun same => (digitChar_digit value small).2.2 positive (Option.some.inj same)
      · rw [natDigits_concat (by omega), List.head?_append_of_ne_nil _ (natDigits_ne_nil _)]
        exact ih (value / 10) (by omega) (by omega)

/-- What follows a printed value: nothing, white space, or a letter that ends it. -/
def Closes (rest : Str) : Prop :=
  ∀ letter ∈ rest.head?, letter ∈ stopLetters ∨ isJsonSpace letter = true

theorem Closes.letter {letter : CodePoint} (ends : letter ∈ stopLetters) (rest : Str) :
    Closes (letter :: rest) := by
  intro first same
  cases same
  exact .inl ends

theorem Closes.stops {rest : Str} (closes : Closes rest) : ∀ letter ∈ rest.head?,
    isDigit letter = false ∧ letter ≠ codePoint '.' ∧ letter ∉ str "eE" := by
  have each : ∀ letter ∈ stopLetters ++ str " \t\n\r",
      isDigit letter = false ∧ letter ≠ codePoint '.' ∧ letter ∉ str "eE" :=
    all_letters (by decide)
  intro letter first
  apply each letter
  rcases closes letter first with stop | space
  · exact List.mem_append_left _ stop
  · apply List.mem_append_right
    unfold isJsonSpace at space
    simp only [Bool.or_eq_true, decide_eq_true_eq] at space
    rcases space with ((space | tab) | newline) | carriage
    · exact List.mem_cons.mpr (.inl (Fin.ext space))
    · exact List.mem_cons_of_mem _ (List.mem_cons.mpr (.inl (Fin.ext tab)))
    · exact List.mem_cons_of_mem _ (List.mem_cons_of_mem _
        (List.mem_cons.mpr (.inl (Fin.ext newline))))
    · exact List.mem_cons_of_mem _ (List.mem_cons_of_mem _ (List.mem_cons_of_mem _
        (List.mem_cons.mpr (.inl (Fin.ext carriage)))))

theorem Closes.noDigit {rest : Str} (closes : Closes rest) : NoDigit rest :=
  fun letter first => (closes.stops letter first).1

theorem fractionOf_closes {rest : Str} (closes : Closes rest) : fractionOf rest = [] := by
  cases rest with
  | nil => rfl
  | cons letter more => exact if_neg fun both => (closes.stops letter rfl).2.1 both.1

theorem exponentOf_closes {rest : Str} (closes : Closes rest) : exponentOf rest = [] := by
  cases rest with
  | nil => rfl
  | cons letter more => exact if_neg fun both => (closes.stops letter rfl).2.2 both.1

theorem natDigits_begins (value : Nat) :
    ∃ digit more, natDigits value = digit :: more ∧ isDigit digit = true := by
  obtain ⟨digit, more, split⟩ := List.exists_cons_of_ne_nil (natDigits_ne_nil value)
  have all := natDigits_isDigit value
  rw [split, List.all_cons, Bool.and_eq_true] at all
  exact ⟨digit, more, split, all.1⟩

theorem wholeOf_natDigits (value : Nat) {rest : Str} (closes : Closes rest) :
    wholeOf (natDigits value ++ rest) = natDigits value := by
  unfold wholeOf
  rw [List.head?_append_of_ne_nil _ (natDigits_ne_nil value)]
  by_cases zero : value = 0
  · subst value
    rfl
  · rw [if_neg (natDigits_head (by omega))]
    exact takeWhile_digits (natDigits_isDigit value) closes.noDigit

theorem signOf_natDigits (value : Nat) (rest : Str) :
    signOf (str "-") (natDigits value ++ rest) = [] := by
  obtain ⟨digit, more, split, digital⟩ := natDigits_begins value
  rw [split]
  refine if_neg ?_
  intro isSign
  rw [List.mem_singleton.mp isSign] at digital
  exact absurd digital (by decide)

/-- `json.loads` reads an integer that has not too many digits. -/
theorem scanNumber_int (decoder : JsonDecoder) {value : Int}
    (short : (natDigits value.natAbs).length ≤ maxStrDigits) {rest : Str} (closes : Closes rest) :
    scanNumber decoder (intRepr value ++ rest) = .ok (.int value, rest) := by
  have fraction := fractionOf_closes closes
  have exponent := exponentOf_closes closes
  cases value with
  | ofNat value =>
      have whole := wholeOf_natDigits value closes
      have sign := signOf_natDigits value rest
      unfold scanNumber intRepr
      simp only [sign, List.length_nil, List.drop_zero, whole, List.drop_left, fraction, exponent,
        if_neg (natDigits_ne_nil value), and_self, if_true, decimalValue_natDigits]
      exact if_neg (by rw [exceeds, decide_eq_true_iff]; exact Nat.not_lt.mpr short)
  | negSucc value =>
      have whole := wholeOf_natDigits (value + 1) closes
      have sign : signOf (str "-") (str "-" ++ natDigits (value + 1) ++ rest) = str "-" := rfl
      have unsigned : (str "-" ++ natDigits (value + 1) ++ rest).drop (str "-").length =
          natDigits (value + 1) ++ rest := rfl
      have signed : str "-" ≠ [] := List.cons_ne_nil _ _
      unfold scanNumber intRepr
      simp only [sign, unsigned, whole, List.drop_left, fraction, exponent, List.length_nil,
        List.drop_zero, if_neg (natDigits_ne_nil (value + 1)), and_self, if_true,
        decimalValue_natDigits, if_neg signed]
      exact if_neg (by rw [exceeds, decide_eq_true_iff]; exact Nat.not_lt.mpr short)

theorem scanNumber_text (decoder : JsonDecoder) (number : NumberText) {rest : Str}
    (closes : Closes rest) :
    scanNumber decoder (number.text ++ rest) = .ok (number.json decoder, rest) := by
  have afterPoint : NoDigit (number.power ++ rest) ∧
      (number.power ++ rest).head? ≠ some (codePoint '.') := by
    unfold NumberText.power
    cases number.exponent with
    | none => exact ⟨closes.noDigit, fun same => (closes.stops _ same).2.1 rfl⟩
    | some power =>
        refine ⟨?_, fun same => absurd (Option.some.inj same) (by decide)⟩
        intro first same
        cases same
        decide
  have afterWhole : NoDigit (number.point ++ (number.power ++ rest)) := by
    unfold NumberText.point
    split_ifs
    · exact afterPoint.1
    · intro first same
      cases same
      decide
  have sign := Loadtest.signOf_number number (number.point ++ (number.power ++ rest))
  have whole := Loadtest.wholeOf_append number afterWhole
  have point := Loadtest.fractionOf_append number afterPoint.1 afterPoint.2
  have power := Loadtest.exponentOf_append number closes.noDigit
    fun letter first => (closes.stops letter first).2.2
  have short : exceeds (some maxStrDigits) number.whole.length = false := by
    have bound := number.short
    rw [exceeds, decide_eq_false_iff_not, maxStrDigits]
    omega
  unfold scanNumber NumberText.json NumberText.text
  simp only [List.append_assoc, sign, List.drop_left, whole, point, power,
    if_neg number.whole_ne_nil, short, Bool.false_eq_true, if_false]
  by_cases integral : number.point = [] ∧ number.power = []
  · rw [if_pos integral, if_pos integral]
  · rw [if_neg integral, if_neg integral]

end ImagePipeline.Benchmark
