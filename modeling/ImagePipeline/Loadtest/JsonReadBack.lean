/-
`json.loads` reads back what `JSON.stringify` prints for a flat object: strings,
numbers and `null`, each under its own key.
-/

import ImagePipeline.Common.JsonLoads
import ImagePipeline.Library.Itemwise
import ImagePipeline.Loadtest.JsonStringify
import Mathlib.Data.List.Induction

namespace ImagePipeline.Loadtest

open Common
open Library (Scanned scan scan_words length_le_flatMap joinWith bind_ok_iff)

theorem encodable_mem {text : Str} (scalar : encodable text = true) {point : CodePoint}
    (member : point ∈ text) : ¬ (0xD800 ≤ point.val ∧ point.val ≤ 0xDFFF) := by
  have atPoint := List.all_eq_true.mp scalar point member
  unfold isSurrogate at atPoint
  simp only [Bool.not_eq_true', Bool.and_eq_false_iff, decide_eq_false_iff_not] at atPoint
  omega

/-! ### Strings -/

theorem scanHex4_hexDigits {value : Nat} (bounded : value < 0x10000) (rest : Str) :
    scanHex4 (hexDigits 4 value ++ rest) = some (value, rest) := by
  have long : ¬ (hexDigits 4 value ++ rest).length < 4 := by
    rw [List.length_append, length_hexDigits]
    omega
  unfold scanHex4
  rw [if_neg long, hexNumber_take (by omega), List.drop_left' (length_hexDigits 4 value)]
  rfl

theorem scanUnicode_control {point : CodePoint} (control : point.val < 0x20) (rest : Str) :
    scanUnicode (hex4 point.val ++ rest) = .ok (point, rest) := by
  unfold scanUnicode
  rw [← hexDigits_four, scanHex4_hexDigits (by omega)]
  dsimp only
  rw [if_neg (by omega)]
  exact congrArg (fun read => Except.ok (read, rest)) (Fin.ofNat_val_eq_self point)

theorem stringStep_short :
    ∀ entry ∈ shortEscapes, ∀ rest, stringStep (codePoint '\\' :: entry.2 :: rest) =
      .ok (.emits [pointOf entry.1] rest) := by
  intro entry member rest
  simp only [shortEscapes, List.mem_cons, List.not_mem_nil, or_false] at member
  rcases member with rfl | rfl | rfl | rfl | rfl | rfl | rfl <;> rfl

theorem stringStep_stringify {point : CodePoint}
    (scalar : ¬ (0xD800 ≤ point.val ∧ point.val ≤ 0xDFFF)) (rest : Str) :
    stringStep (stringifyCodePoint point ++ rest) = .ok (.emits [point] rest) := by
  unfold stringifyCodePoint
  cases short : shortEscape point.val with
  | some letter =>
      change stringStep (codePoint '\\' :: letter :: rest) = _
      rw [stringStep_short _ (shortEscape_mem short)]
      exact congrArg (fun read => Except.ok (Scanned.emits [read] rest))
        (Fin.ofNat_val_eq_self point)
  | none =>
      dsimp only
      split_ifs with control
      · have unicode (text : Str) : stringStep (codePoint '\\' :: codePoint 'u' :: text) =
            (scanUnicode text).map (fun scanned => .emits [scanned.1] scanned.2) := rfl
        rw [List.cons_append, List.cons_append, unicode,
          scanUnicode_control (control.resolve_right scalar)]
        rfl
      · have noQuote : point ≠ codePoint '"' := by
          rintro rfl
          cases short
        have noBackslash : point ≠ codePoint '\\' := by
          rintro rfl
          cases short
        rw [List.singleton_append]
        unfold stringStep
        dsimp only
        rw [if_neg noQuote, if_neg noBackslash, if_neg (by omega)]

theorem stringifyCodePoint_ne_nil (point : CodePoint) : stringifyCodePoint point ≠ [] := by
  unfold stringifyCodePoint
  split
  · exact List.cons_ne_nil _ _
  · split_ifs <;> exact List.cons_ne_nil _ _

theorem scanString_stringify {text : Str} (scalar : encodable text = true) (rest : Str) :
    scanString (text.flatMap stringifyCodePoint ++ codePoint '"' :: rest) = .ok (text, rest) := by
  have enough : text.length <
      (text.flatMap stringifyCodePoint ++ codePoint '"' :: rest).length + 1 := by
    have lengths : text.length ≤ (text.flatMap stringifyCodePoint).length :=
      length_le_flatMap fun point _ => stringifyCodePoint_ne_nil point
    rw [List.length_append]
    omega
  have scanned : scanString (text.flatMap stringifyCodePoint ++ codePoint '"' :: rest) =
      .ok (text.flatMap (fun point => [point]), rest) :=
    scan_words (fun point member more => stringStep_stringify (encodable_mem scalar member) more)
      rfl enough
  rw [List.flatMap_singleton'] at scanned
  exact scanned

/-! ### Numbers -/

/-- What `Number::toString` makes of a finite number: at most 21 digits in front
of the point, and no zero in front of others. -/
structure NumberText where
  negative : Bool
  whole : Str
  fraction : Str
  exponent : Option (CodePoint × Str)
  wholeDigits : whole.all isDigit = true
  canonical : whole = str "0" ∨ (whole ≠ [] ∧ whole.head? ≠ some (codePoint '0'))
  short : whole.length ≤ 21
  fractionDigits : fraction.all isDigit = true
  exponentDigits : ∀ power ∈ exponent, power.1 ∈ str "+-" ∧ power.2 ≠ [] ∧
    power.2.all isDigit = true

namespace NumberText

def sign (number : NumberText) : Str := if number.negative then str "-" else []

def point (number : NumberText) : Str :=
  if number.fraction = [] then [] else codePoint '.' :: number.fraction

def power (number : NumberText) : Str :=
  match number.exponent with
  | none => []
  | some (sign, digits) => codePoint 'e' :: sign :: digits

def text (number : NumberText) : Str :=
  number.sign ++ (number.whole ++ (number.point ++ number.power))

/-- What Python reads: an integer, if there is neither a point nor an exponent. -/
def json (decoder : JsonDecoder) (number : NumberText) : Json :=
  if number.point = [] ∧ number.power = [] then
    .int (if number.sign = [] then decimalValue number.whole else - decimalValue number.whole)
  else .float (decoder.floatOfStr number.text)

theorem whole_ne_nil (number : NumberText) : number.whole ≠ [] := by
  rcases number.canonical with zero | ⟨some, _⟩
  · rw [zero]
    exact List.cons_ne_nil _ _
  · exact some

theorem whole_begins (number : NumberText) :
    ∃ digit more, number.whole = digit :: more ∧ isDigit digit = true := by
  obtain ⟨digit, more, split⟩ := List.exists_cons_of_ne_nil number.whole_ne_nil
  exact ⟨digit, more, split,
    List.all_eq_true.mp number.wholeDigits digit (split ▸ List.mem_cons_self)⟩

theorem text_begins (number : NumberText) : ∃ digit more, isDigit digit = true ∧
    (number.text = digit :: more ∨ number.text = codePoint '-' :: digit :: more) := by
  obtain ⟨digit, more, split, isDigit⟩ := number.whole_begins
  refine ⟨digit, more ++ (number.point ++ number.power), isDigit, ?_⟩
  unfold text sign
  rw [split]
  cases number.negative with
  | true => exact .inr rfl
  | false => exact .inl rfl

end NumberText

/-- The text goes on with no digit. -/
def NoDigit (text : Str) : Prop := ∀ letter ∈ text.head?, isDigit letter = false

theorem takeWhile_digits {digits rest : Str} (all : digits.all isDigit = true)
    (stops : NoDigit rest) : (digits ++ rest).takeWhile isDigit = digits := by
  rw [List.takeWhile_append_of_pos (List.all_eq_true.mp all)]
  cases rest with
  | nil => rw [List.takeWhile_nil, List.append_nil]
  | cons letter more =>
      rw [List.takeWhile_cons_of_neg (by rw [stops letter rfl]; exact Bool.false_ne_true),
        List.append_nil]

theorem wholeOf_append (number : NumberText) {rest : Str} (stops : NoDigit rest) :
    wholeOf (number.whole ++ rest) = number.whole := by
  unfold wholeOf
  rcases number.canonical with zero | ⟨some, noZero⟩
  · rw [zero]
    rfl
  · have head : (number.whole ++ rest).head? = number.whole.head? :=
      List.head?_append_of_ne_nil _ some
    rw [head, if_neg noZero]
    exact takeWhile_digits number.wholeDigits stops

theorem fractionOf_append (number : NumberText) {rest : Str} (stops : NoDigit rest)
    (noPoint : rest.head? ≠ some (codePoint '.')) :
    fractionOf (number.point ++ rest) = number.point := by
  unfold NumberText.point
  by_cases empty : number.fraction = []
  · rw [if_pos empty, List.nil_append]
    cases rest with
    | nil => rfl
    | cons letter more =>
        unfold fractionOf
        dsimp only
        rw [if_neg]
        intro ⟨isPoint, _⟩
        exact noPoint (congrArg some isPoint)
  · have digits := takeWhile_digits number.fractionDigits stops
    rw [if_neg empty, List.cons_append]
    unfold fractionOf
    dsimp only
    rw [digits, if_pos ⟨rfl, empty⟩]

theorem exponentOf_append (number : NumberText) {rest : Str} (stops : NoDigit rest)
    (noExponent : ∀ letter ∈ rest.head?, letter ∉ str "eE") :
    exponentOf (number.power ++ rest) = number.power := by
  unfold NumberText.power
  cases given : number.exponent with
  | none =>
      rw [List.nil_append]
      cases rest with
      | nil => rfl
      | cons letter more =>
          unfold exponentOf
          dsimp only
          rw [if_neg]
          intro ⟨isExponent, _⟩
          exact noExponent letter rfl isExponent
  | some power =>
      obtain ⟨sign, digits⟩ := power
      obtain ⟨isSign, some, all⟩ := number.exponentDigits _ given
      have signed : signOf (str "+-") (sign :: (digits ++ rest)) = [sign] := if_pos isSign
      have read := takeWhile_digits all stops
      change exponentOf (codePoint 'e' :: (sign :: (digits ++ rest))) = _
      unfold exponentOf
      dsimp only
      rw [signed, List.length_singleton, List.drop_one, List.tail_cons, read,
        if_pos ⟨by decide, some⟩]
      rfl

theorem signOf_number (number : NumberText) (rest : Str) :
    signOf (str "-") (number.sign ++ (number.whole ++ rest)) = number.sign := by
  unfold NumberText.sign
  cases number.negative with
  | true => rfl
  | false =>
      obtain ⟨digit, more, split, isDigit⟩ := number.whole_begins
      rw [if_neg Bool.false_ne_true, List.nil_append, split]
      refine if_neg ?_
      intro isSign
      rw [List.mem_singleton.mp isSign] at isDigit
      exact absurd isDigit (by decide)

theorem scanNumber_append (decoder : JsonDecoder) (number : NumberText) {letter : CodePoint}
    (other : letter ∈ stopLetters) (rest : Str) :
    scanNumber decoder (number.text ++ letter :: rest) =
      .ok (number.json decoder, letter :: rest) := by
  have each : ∀ stop ∈ stopLetters,
      isDigit stop = false ∧ stop ≠ codePoint '.' ∧ stop ∉ str "eE" := all_letters (by decide)
  have closing := each letter other
  have afterPower : NoDigit (letter :: rest) := by
    intro first same
    cases same
    exact closing.1
  have afterPoint : NoDigit (number.power ++ letter :: rest) ∧
      (number.power ++ letter :: rest).head? ≠ some (codePoint '.') := by
    unfold NumberText.power
    cases number.exponent with
    | none => exact ⟨afterPower, fun same => closing.2.1 (Option.some.inj same)⟩
    | some power =>
        refine ⟨?_, fun same => absurd (Option.some.inj same) (by decide)⟩
        intro first same
        cases same
        decide
  have afterWhole : NoDigit (number.point ++ (number.power ++ letter :: rest)) := by
    unfold NumberText.point
    split_ifs
    · exact afterPoint.1
    · intro first same
      cases same
      decide
  have sign := signOf_number number (number.point ++ (number.power ++ letter :: rest))
  have whole := wholeOf_append number afterWhole
  have point := fractionOf_append number afterPoint.1 afterPoint.2
  have power := exponentOf_append number afterPower fun first same => by
    cases same
    exact closing.2.2
  have short : exceeds (some maxStrDigits) number.whole.length = false := by
    have bound := number.short
    rw [exceeds, decide_eq_false_iff_not, maxStrDigits]
    omega
  unfold scanNumber NumberText.json NumberText.text
  simp only [List.append_assoc, sign, List.drop_left, whole, point, power,
    if_neg number.whole_ne_nil, short, Bool.false_eq_true, if_false]
  by_cases integral : number.point = [] ∧ number.power = []
  · rw [if_pos integral, if_pos integral]
  · rw [if_neg integral, if_neg integral]

/-! ### Objects -/

/-- In front of a letter that ends a value, the text is read as one. -/
structure ReadsAs (value : ValueScanner) (text : Str) (json : Json) : Prop where
  begins : ∀ letter ∈ text.head?, isJsonSpace letter = false
  nonempty : text ≠ []
  reads : ∀ letter ∈ stopLetters, ∀ rest, value (text ++ letter :: rest) = .ok (json, letter :: rest)

theorem skipSpace_cons {letter : CodePoint} (noSpace : isJsonSpace letter = false) (rest : Str) :
    skipSpace (letter :: rest) = letter :: rest :=
  List.dropWhile_cons_of_neg (by rw [noSpace]; exact Bool.false_ne_true)

theorem ReadsAs.skipSpace {value : ValueScanner} {text : Str} {json : Json}
    (reads : ReadsAs value text json) (rest : Str) : skipSpace (text ++ rest) = text ++ rest := by
  obtain ⟨letter, more, split⟩ := List.exists_cons_of_ne_nil reads.nonempty
  rw [split, List.cons_append]
  exact skipSpace_cons (reads.begins letter (by rw [split]; rfl)) _

variable {value : ValueScanner}

def fieldText (key text : Str) : Str := stringifyText key ++ codePoint ':' :: text

theorem scanPair_append {key text : Str} {json : Json} (scalar : encodable key = true)
    (reads : ReadsAs value text json) {letter : CodePoint} (stops : letter ∈ stopLetters)
    (rest : Str) :
    scanPair value (fieldText key text ++ letter :: rest) = .ok ((key, json), letter :: rest) := by
  have colon : skipSpace (codePoint ':' :: (text ++ letter :: rest)) =
      codePoint ':' :: (text ++ letter :: rest) := skipSpace_cons rfl _
  have quoted : fieldText key text ++ letter :: rest = codePoint '"' ::
      (key.flatMap stringifyCodePoint ++ codePoint '"' ::
        (codePoint ':' :: (text ++ letter :: rest))) := by
    unfold fieldText stringifyText
    simp only [List.cons_append, List.append_assoc, List.nil_append]
  rw [quoted]
  unfold scanPair
  simp only [if_true, scanString_stringify scalar, bind, Except.bind, colon,
    reads.skipSpace, reads.reads letter stops rest]
  rfl

/-- The printed fields of an object, and what they are read as. -/
structure PrintedField where
  key : Str
  text : Str
  json : Json

theorem skipSpace_fields (field : PrintedField) (more : List PrintedField) (rest : Str) :
    skipSpace (joinWith comma ((field :: more).map (fun field => fieldText field.key field.text)) ++
        rest) =
      joinWith comma ((field :: more).map (fun field => fieldText field.key field.text)) ++
        rest := by
  rw [List.map_cons, Library.joinWith_cons]
  unfold fieldText stringifyText
  exact skipSpace_cons rfl _

theorem scanPairs_append {fields : List PrintedField} (some : fields ≠ [])
    (scalar : ∀ field ∈ fields, encodable field.key = true)
    (reads : ∀ field ∈ fields, ReadsAs value field.text field.json) (rest : Str) {rounds : Nat}
    (enough : fields.length ≤ rounds) :
    scanPairs value rounds (joinWith comma (fields.map (fun field => fieldText field.key field.text))
        ++ codePoint '\x7d' :: rest) =
      .ok (fields.map (fun field => (field.key, field.json)), rest) := by
  induction fields generalizing rounds with
  | nil => exact absurd rfl some
  | cons field more ih =>
      obtain ⟨rounds, rfl⟩ : ∃ fewer, rounds = fewer + 1 :=
        Nat.exists_eq_add_one_of_ne_zero (by rw [List.length_cons] at enough; omega)
      have atField {letter : CodePoint} (stops : letter ∈ stopLetters) (after : Str) :=
        scanPair_append (scalar field List.mem_cons_self) (reads field List.mem_cons_self) stops
          after
      cases more with
      | nil =>
          have brace : skipSpace (codePoint '\x7d' :: rest) = codePoint '\x7d' :: rest :=
            skipSpace_cons rfl rest
          have stops : codePoint '\x7d' ∈ stopLetters := by decide
          unfold scanPairs
          simp only [List.map_cons, List.map_nil, joinWith, atField stops rest, bind, Except.bind,
            brace, if_true]
          rfl
      | cons next others =>
          have later := ih (List.cons_ne_nil _ _)
            (fun other member => scalar other (List.mem_cons_of_mem _ member))
            (fun other member => reads other (List.mem_cons_of_mem _ member))
            (Nat.le_of_succ_le_succ enough)
          have joined : joinWith comma ((field :: next :: others).map
                (fun field => fieldText field.key field.text)) ++ codePoint '\x7d' :: rest =
              fieldText field.key field.text ++ comma :: (joinWith comma ((next :: others).map
                (fun field => fieldText field.key field.text)) ++ codePoint '\x7d' :: rest) :=
            List.append_assoc _ _ _
          have atComma (after : Str) : skipSpace (comma :: after) = comma :: after :=
            skipSpace_cons rfl after
          have stops : comma ∈ stopLetters := by decide
          have noBrace : comma ≠ codePoint '\x7d' := by decide
          have isComma : comma = codePoint ',' := rfl
          rw [joined]
          unfold scanPairs
          simp only [atField stops, bind, Except.bind, atComma, if_neg noBrace, if_pos isComma,
            skipSpace_fields, later]
          rfl

/-! ### Values -/

section Values

variable (decoder : JsonDecoder) (levels : Nat)

theorem scanOnce_eq : ∃ inner, scanOnce decoder levels = scanValue decoder inner := by
  cases levels with
  | zero => exact ⟨none, rfl⟩
  | succ levels => exact ⟨some (scanOnce decoder levels), rfl⟩

theorem readsAs_text {text : Str} (scalar : encodable text = true) :
    ReadsAs (scanOnce decoder levels) (stringifyText text) (.str text) := by
  refine ⟨?_, List.cons_ne_nil _ _, ?_⟩
  · intro letter first
    cases first
    rfl
  · intro letter _ rest
    obtain ⟨inner, scanner⟩ := scanOnce_eq decoder levels
    have quoted : stringifyText text ++ letter :: rest = codePoint '"' ::
        (text.flatMap stringifyCodePoint ++ codePoint '"' :: (letter :: rest)) := by
      unfold stringifyText
      simp only [List.cons_append, List.append_assoc, List.nil_append]
    rw [scanner, quoted]
    change (scanString _).map _ = _
    rw [scanString_stringify scalar]
    rfl

theorem readsAs_null : ReadsAs (scanOnce decoder levels) (str "null") .null := by
  refine ⟨?_, List.cons_ne_nil _ _, ?_⟩
  · intro letter first
    cases first
    rfl
  · intro letter _ rest
    obtain ⟨inner, scanner⟩ := scanOnce_eq decoder levels
    rw [scanner]
    rfl

theorem jsonWords_begin {word : Str × Json} (member : word ∈ jsonWords) :
    ∃ first second rest, word.1 = first :: second :: rest ∧
      (first ∈ str "ntfNI" ∨ (first = codePoint '-' ∧ second ∈ str "ntfNI")) := by
  simp only [jsonWords, List.mem_cons, List.not_mem_nil, or_false] at member
  rcases member with rfl | rfl | rfl | rfl | rfl | rfl
  · exact ⟨codePoint 'n', codePoint 'u', str "ll", rfl, .inl (by decide)⟩
  · exact ⟨codePoint 't', codePoint 'r', str "ue", rfl, .inl (by decide)⟩
  · exact ⟨codePoint 'f', codePoint 'a', str "lse", rfl, .inl (by decide)⟩
  · exact ⟨codePoint 'N', codePoint 'a', str "N", rfl, .inl (by decide)⟩
  · exact ⟨codePoint 'I', codePoint 'n', str "finity", rfl, .inl (by decide)⟩
  · exact ⟨codePoint '-', codePoint 'I', str "nfinity", rfl, .inr ⟨rfl, by decide⟩⟩

theorem find_jsonWords_number (number : NumberText) (rest : Str) :
    jsonWords.find? (fun word => word.1.isPrefixOf (number.text ++ rest)) = none := by
  obtain ⟨digit, more, isDigit, begins⟩ := number.text_begins
  have noDigit : ∀ letter ∈ str "ntfNI", Common.isDigit letter = false := all_letters (by decide)
  have other : digit ∉ str "ntfNI" := by
    intro member
    rw [noDigit digit member] at isDigit
    cases isDigit
  have noSign : digit ≠ codePoint '-' := by
    rintro rfl
    cases isDigit
  rw [List.find?_eq_none]
  intro word member isPrefix
  obtain ⟨first, second, later, spelled, letters⟩ := jsonWords_begin member
  obtain ⟨after, same⟩ := List.isPrefixOf_iff_prefix.mp isPrefix
  rw [spelled] at same
  rcases begins with plain | signed
  · rw [plain] at same
    have sameFirst : first = digit := (List.cons.inj same).1
    rcases letters with isWord | ⟨isSign, _⟩
    · exact other (sameFirst ▸ isWord)
    · exact noSign (sameFirst.symm.trans isSign)
  · rw [signed] at same
    have sameFirst : first = codePoint '-' := (List.cons.inj same).1
    have sameSecond : second = digit := (List.cons.inj (List.cons.inj same).2).1
    rcases letters with isWord | ⟨_, isWord⟩
    · exact absurd (sameFirst ▸ isWord) (by decide)
    · exact other (sameSecond ▸ isWord)

theorem readsAs_number (number : NumberText) :
    ReadsAs (scanOnce decoder levels) number.text (number.json decoder) := by
  obtain ⟨digit, more, isDigit, begins⟩ := number.text_begins
  have digitLetter {letter : CodePoint} (noDigit : Common.isDigit letter = false) :
      digit ≠ letter := by
    rintro rfl
    rw [noDigit] at isDigit
    cases isDigit
  -- the first letter opens nothing and is no white space
  have first : ∃ letter later, number.text = letter :: later ∧ isJsonSpace letter = false ∧
      letter ≠ codePoint '"' ∧ letter ≠ codePoint '\x7b' ∧ letter ≠ codePoint '[' := by
    rcases begins with plain | signed
    · refine ⟨digit, more, plain, ?_, digitLetter rfl, digitLetter rfl, digitLetter rfl⟩
      unfold Common.isDigit at isDigit
      simp only [Bool.and_eq_true, decide_eq_true_eq] at isDigit
      unfold isJsonSpace
      simp only [Bool.or_eq_false_iff, decide_eq_false_iff_not]
      omega
    · exact ⟨_, _, signed, rfl, by decide, by decide, by decide⟩
  obtain ⟨letter, later, split, noSpace, noQuote, noBrace, noBracket⟩ := first
  refine ⟨?_, by rw [split]; exact List.cons_ne_nil _ _, ?_⟩
  · intro other head
    rw [split] at head
    cases head
    exact noSpace
  · intro stop stops rest
    obtain ⟨inner, scanner⟩ := scanOnce_eq decoder levels
    have noWord := find_jsonWords_number number (stop :: rest)
    have scanned := scanNumber_append decoder number stops rest
    rw [scanner]
    rw [split] at noWord scanned ⊢
    rw [List.cons_append] at noWord scanned ⊢
    unfold scanValue
    dsimp only
    rw [if_neg noQuote, if_neg noBrace, if_neg noBracket, noWord]
    exact scanned

end Values

/-! ### Dictionaries -/

theorem dictOf_concat (pairs : List (Str × Json)) (pair : Str × Json) :
    dictOf (pairs ++ [pair]) = Dict.set (dictOf pairs) pair.1 pair.2 := by
  unfold dictOf
  rw [List.foldl_append]
  rfl

theorem dictOf_distinct {pairs : List (Str × Json)} (distinct : (pairs.map Prod.fst).Nodup) :
    dictOf pairs = pairs := by
  induction pairs using List.reverseRecOn with
  | nil => rfl
  | append_singleton pairs pair ih =>
      rw [List.map_append, List.nodup_append] at distinct
      have fresh : pair.1 ∉ pairs.map Prod.fst := by
        intro member
        exact distinct.2.2 pair.1 member pair.1 (List.mem_map_of_mem List.mem_cons_self) rfl
      rw [dictOf_concat, ih distinct.1]
      exact Dict.set_of_not_mem fresh pair.2

theorem length_le_fields (fields : List PrintedField) : fields.length ≤
    (joinWith comma (fields.map (fun field => fieldText field.key field.text))).length := by
  induction fields with
  | nil => exact Nat.zero_le _
  | cons field more ih =>
      have atField : 1 ≤ (fieldText field.key field.text).length := by
        unfold fieldText stringifyText
        rw [List.cons_append, List.length_cons]
        omega
      rw [List.map_cons, Library.joinWith_cons, List.length_append, List.length_cons]
      split
      · rename_i last
        rw [List.map_eq_nil_iff.mp last]
        exact atField
      · rw [List.length_cons]
        omega

theorem scanObject_fields {fields : List PrintedField} (some : fields ≠ [])
    (distinct : (fields.map PrintedField.key).Nodup)
    (scalar : ∀ field ∈ fields, encodable field.key = true)
    (reads : ∀ field ∈ fields, ReadsAs value field.text field.json) (rest : Str) :
    scanObject value (joinWith comma (fields.map (fun field => fieldText field.key field.text)) ++
        codePoint '\x7d' :: rest) =
      .ok (.obj (fields.map (fun field => (field.key, field.json))), rest) := by
  obtain ⟨field, more, split⟩ := List.exists_cons_of_ne_nil some
  have begins := skipSpace_fields field more (codePoint '\x7d' :: rest)
  rw [← split] at begins
  have quote : ∃ later, joinWith comma (fields.map (fun field => fieldText field.key field.text)) ++
      codePoint '\x7d' :: rest = codePoint '"' :: later := by
    rw [split, List.map_cons, Library.joinWith_cons]
    exact ⟨_, rfl⟩
  have enough : fields.length ≤ (joinWith comma (fields.map
      (fun field => fieldText field.key field.text)) ++ codePoint '\x7d' :: rest).length + 1 := by
    have lengths := length_le_fields fields
    rw [List.length_append]
    omega
  have pairs := scanPairs_append some scalar reads rest enough
  have keys : ((fields.map (fun field => (field.key, field.json))).map Prod.fst).Nodup := by
    rw [List.map_map]
    exact distinct
  obtain ⟨later, opens⟩ := quote
  have noBrace : codePoint '"' ≠ codePoint '\x7d' := by decide
  unfold scanObject
  rw [begins]
  rw [opens] at pairs ⊢
  dsimp only
  rw [if_neg noBrace, pairs]
  exact congrArg (fun dict => Except.ok (Json.obj dict, rest)) (dictOf_distinct keys)

theorem jsonLoads_object {decoder : JsonDecoder} {levels : Nat}
    (nested : decoder.recursionLimit = levels + 1) {fields : List PrintedField} (some : fields ≠ [])
    (distinct : (fields.map PrintedField.key).Nodup)
    (scalar : ∀ field ∈ fields, encodable field.key = true)
    (reads : ∀ field ∈ fields, ReadsAs (scanOnce decoder levels) field.text field.json) :
    jsonLoads decoder (codePoint '\x7b' ::
        (joinWith comma (fields.map (fun field => fieldText field.key field.text)) ++
          [codePoint '\x7d'])) =
      .ok (.obj (fields.map (fun field => (field.key, field.json)))) := by
  have scanned := scanObject_fields some distinct scalar reads []
  have opening (body : Str) : skipSpace (codePoint '\x7b' :: body) = codePoint '\x7b' :: body :=
    skipSpace_cons rfl body
  have noMark (body : Str) : (codePoint '\x7b' :: body).head? ≠ Option.some byteOrderMark :=
    fun same => absurd (Option.some.inj same) (by decide)
  have atBrace (body : Str) : scanOnce decoder (levels + 1) (codePoint '\x7b' :: body) =
      scanObject (scanOnce decoder levels) body := rfl
  unfold jsonLoads
  rw [if_neg (noMark _), opening, nested, atBrace, scanned]
  rfl

end ImagePipeline.Loadtest
