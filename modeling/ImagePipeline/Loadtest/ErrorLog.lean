/-
`logK6Error`: the objects that the load test prints, and what they are after Go's
quoting and Python's decoding.
-/

import ImagePipeline.Loadtest.GoQuote
import ImagePipeline.Loadtest.JsonReadBack

namespace ImagePipeline.Loadtest

open Common
open Library (joinWith)

/-- The `details` of the calls of `logK6Error`. -/
inductive LogDetails where
  | pollHttpError (jobId : Str) (statusCode : PyFloat)
  | jobFailed (jobId message : Str)
  | pollTimeout (jobId : Str) (timeoutSeconds polls : PyFloat)
  | submitError (statusCode : PyFloat) (task : Str) (responseBody : Option Str)

namespace LogDetails

def fields : LogDetails → Dict
  | .pollHttpError jobId statusCode =>
      [(str "job_id", .str jobId), (str "status_code", .float statusCode)]
  | .jobFailed jobId message => [(str "job_id", .str jobId), (str "message", .str message)]
  | .pollTimeout jobId timeoutSeconds polls =>
      [(str "job_id", .str jobId), (str "timeout_seconds", .float timeoutSeconds),
        (str "polls", .float polls)]
  | .submitError statusCode task responseBody =>
      [(str "status_code", .float statusCode), (str "task", .str task),
        (str "response_body", responseBody.elim .null .str)]

def jobId : LogDetails → Json
  | .pollHttpError jobId _ | .jobFailed jobId _ | .pollTimeout jobId _ _ => .str jobId
  | .submitError _ _ _ => .str []

def message : LogDetails → Json
  | .jobFailed _ message => .str message
  | .submitError _ _ responseBody => responseBody.elim .null .str
  | .pollHttpError _ _ | .pollTimeout _ _ _ => .str []

end LogDetails

/-- What `logK6Error` prints. -/
def logObject (timestamp event : Str) (details : LogDetails) : Dict :=
  (str "timestamp", .str timestamp) :: (str "event", .str event) ::
    (str "source", .str (str "k6")) :: details.fields

def textOf : Json → Str
  | .str text => text
  | _ => []

/-- A call of `logK6Error` with Unicode texts. -/
structure K6Error where
  timestamp : Str
  event : Str
  details : LogDetails
  unicode : ∀ field ∈ logObject timestamp event details, encodable (textOf field.2) = true

def K6Error.object (error : K6Error) : Dict := logObject error.timestamp error.event error.details

/-- A number or a text, as the fields of the objects have them. -/
def isFlat : Json → Bool
  | .null | .float _ | .str _ => true
  | .bool _ | .int _ | .arr _ | .obj _ => false

section Printing

variable (numbers : PyFloat → NumberText)

/-- `JSON.stringify`, with the numbers as JavaScript prints them. -/
def printed : Json → Str := stringify (fun value => (numbers value).text)

def K6Error.logK6Error (error : K6Error) : Str := printed numbers (.obj error.object)

/-- The value of a field once its text has been decoded. -/
def decodedField (isPrint : CodePoint → Bool) (decoder : JsonDecoder) : Json → Json
  | .str text => .str (mangled isPrint text)
  | .float .nan | .float (.infinity _) => .null
  | .float value => (numbers value).json decoder
  | value => value

end Printing

/-! ### What the decoding leaves alone -/

section Mangling

variable {isPrint : CodePoint → Bool}

theorem mangledRune_ascii {rune : CodePoint} (ascii : rune.val < 0x80) :
    mangledRune isPrint rune = [rune] := by
  unfold mangledRune
  rw [utf8Letters_ascii ascii, ite_self]

theorem mangled_ascii {text : Str} (ascii : ∀ letter ∈ text, letter.val < 0x80) :
    mangled isPrint text = text := by
  induction text with
  | nil => rfl
  | cons letter rest ih =>
      have later := ih fun other member => ascii other (List.mem_cons_of_mem _ member)
      unfold mangled at later ⊢
      rw [List.flatMap_cons, mangledRune_ascii (ascii letter List.mem_cons_self), later,
        List.singleton_append]

theorem mangled_append (left right : Str) :
    mangled isPrint (left ++ right) = mangled isPrint left ++ mangled isPrint right :=
  List.flatMap_append

theorem mangled_cons {letter : CodePoint} (ascii : letter.val < 0x80) (rest : Str) :
    mangled isPrint (letter :: rest) = letter :: mangled isPrint rest := by
  unfold mangled
  rw [List.flatMap_cons, mangledRune_ascii ascii, List.singleton_append]

theorem mangled_joinWith (texts : List Str) :
    mangled isPrint (joinWith comma texts) = joinWith comma (texts.map (mangled isPrint)) := by
  induction texts with
  | nil => rfl
  | cons text rest ih =>
      rw [Library.joinWith_cons, mangled_append, List.map_cons, Library.joinWith_cons]
      by_cases last : rest = []
      · rw [last]
        rfl
      · rw [if_neg last, if_neg (fun none => last (List.map_eq_nil_iff.mp none)),
          mangled_cons (by decide), ih]

theorem mangled_eq_iff (text : Str) :
    mangled isPrint text = text ↔
      ∀ letter ∈ text, isPrint letter = true → letter.val < 0x80 := by
  have long (rune : CodePoint) : 1 ≤ (mangledRune isPrint rune).length := by
    by_cases ascii : rune.val < 0x80
    · rw [mangledRune_ascii ascii, List.length_singleton]
    · unfold mangledRune
      split
      · exact Nat.le_of_succ_le (utf8Letters_beyond (not_lt.mp ascii)).2
      · exact Nat.le_refl 1
  have grows (rest : Str) : rest.length ≤ (mangled isPrint rest).length :=
    Library.length_le_flatMap fun rune _ => List.ne_nil_of_length_pos (long rune)
  induction text with
  | nil => exact iff_of_true rfl fun letter member => absurd member List.not_mem_nil
  | cons letter rest ih =>
      have split : mangled isPrint (letter :: rest) =
        mangledRune isPrint letter ++ mangled isPrint rest := List.flatMap_cons
      rw [List.forall_mem_cons]
      constructor
      · intro same
        have lengths := congrArg List.length same
        rw [split] at same
        rw [split, List.length_append, List.length_cons] at lengths
        have restGrows := grows rest
        have plain : (mangledRune isPrint letter).length = 1 := by
          have atLeast := long letter
          omega
        constructor
        · intro printable
          by_contra beyond
          have raw : isRaw isPrint letter = true := by
            have noQuote : letter ≠ codePoint '"' := by
              rintro rfl
              exact beyond (by decide)
            have noBackslash : letter ≠ codePoint '\\' := by
              rintro rfl
              exact beyond (by decide)
            simp [isRaw, noQuote, noBackslash, printable]
          unfold mangledRune at plain
          rw [raw, if_pos rfl] at plain
          have more := (utf8Letters_beyond (not_lt.mp beyond)).2
          omega
        · have tails : mangled isPrint rest = rest :=
            (List.append_inj (same.trans (List.singleton_append (x := letter)).symm) plain).2
          exact ih.mp tails
      · intro ⟨plain, later⟩
        have alone : mangledRune isPrint letter = [letter] := by
          unfold mangledRune
          by_cases raw : isRaw isPrint letter = true
          · rw [if_pos raw, utf8Letters_ascii (plain (quoteRune_raw raw).2.2.2)]
          · rw [if_neg raw]
        rw [split, alone, ih.mpr later, List.singleton_append]

theorem mangledRune_scalar {rune : CodePoint}
    (scalar : ¬ (0xD800 ≤ rune.val ∧ rune.val ≤ 0xDFFF)) :
    ∀ letter ∈ mangledRune isPrint rune, isSurrogate letter = false := by
  have below {letter : CodePoint} (other : ¬ (0xD800 ≤ letter.val ∧ letter.val ≤ 0xDFFF)) :
      isSurrogate letter = false := by
    unfold isSurrogate
    simp only [Bool.and_eq_false_iff, decide_eq_false_iff_not]
    omega
  intro letter member
  unfold mangledRune at member
  split at member
  · by_cases ascii : rune.val < 0x80
    · rw [utf8Letters_ascii ascii, List.mem_singleton] at member
      rw [member]
      exact below scalar
    · have small := (utf8Letters_beyond (not_lt.mp ascii)).1 letter member
      exact below (by omega)
  · rw [List.mem_singleton.mp member]
    exact below scalar

theorem encodable_mangled {text : Str} (scalar : encodable text = true) :
    encodable (mangled isPrint text) = true := by
  unfold encodable
  rw [List.all_eq_true]
  intro letter member
  obtain ⟨rune, inText, inRune⟩ := List.mem_flatMap.mp member
  rw [mangledRune_scalar (encodable_mem scalar inText) letter inRune]
  rfl

theorem stringifyCodePoint_ascii {point : CodePoint} (ascii : point.val < 0x80) :
    ∀ letter ∈ stringifyCodePoint point, letter.val < 0x80 := by
  have digits : ∀ digit < 16, (codePoint (Nat.digitChar digit)).val < 0x80 := by decide
  have shortLetters : ∀ entry ∈ shortEscapes, entry.2.val < 0x80 := by decide
  intro letter member
  unfold stringifyCodePoint at member
  cases short : shortEscape point.val with
  | some escape =>
      rw [short] at member
      simp only [List.mem_cons, List.not_mem_nil, or_false] at member
      rcases member with rfl | rfl
      · decide
      · exact shortLetters _ (shortEscape_mem short)
  | none =>
      rw [short] at member
      dsimp only at member
      split at member
      · simp only [hex4, List.mem_cons, List.map_cons, List.map_nil, List.not_mem_nil,
          or_false] at member
        rcases member with rfl | rfl | rfl | rfl | rfl | rfl
        · decide
        · decide
        all_goals exact digits _ (Nat.mod_lt _ (by decide))
      · rw [List.mem_singleton.mp member]
        exact ascii

theorem stringifyCodePoint_beyond {point : CodePoint} (beyond : 0x80 ≤ point.val)
    (scalar : isSurrogate point = false) : stringifyCodePoint point = [point] := by
  have plain : shortEscape point.val = none := by
    unfold shortEscape
    split_ifs <;> first | rfl | omega
  unfold isSurrogate at scalar
  simp only [Bool.and_eq_false_iff, decide_eq_false_iff_not] at scalar
  unfold stringifyCodePoint
  rw [plain]
  exact if_neg (by omega)

theorem mangledRune_beyond {rune : CodePoint} (beyond : 0x80 ≤ rune.val) :
    ∀ letter ∈ mangledRune isPrint rune, 0x80 ≤ letter.val := by
  intro letter member
  unfold mangledRune at member
  split at member
  · exact ((utf8Letters_beyond beyond).1 letter member).1
  · rw [List.mem_singleton.mp member]
    exact beyond

theorem mangled_stringifyCodePoint {point : CodePoint}
    (scalar : ¬ (0xD800 ≤ point.val ∧ point.val ≤ 0xDFFF)) :
    mangled isPrint (stringifyCodePoint point) =
      (mangledRune isPrint point).flatMap stringifyCodePoint := by
  by_cases ascii : point.val < 0x80
  · rw [mangled_ascii (stringifyCodePoint_ascii ascii), mangledRune_ascii ascii,
      List.flatMap_singleton]
  · have beyond : 0x80 ≤ point.val := not_lt.mp ascii
    have alone : stringifyCodePoint point = [point] := by
      refine stringifyCodePoint_beyond beyond ?_
      unfold isSurrogate
      simp only [Bool.and_eq_false_iff, decide_eq_false_iff_not]
      omega
    have each : ∀ letter ∈ mangledRune isPrint point, stringifyCodePoint letter = [letter] :=
      fun letter member => stringifyCodePoint_beyond (mangledRune_beyond beyond letter member)
        (mangledRune_scalar scalar letter member)
    rw [alone, List.flatMap_congr each, List.flatMap_singleton']
    exact List.flatMap_singleton ..

theorem mangled_stringifyText {text : Str} (scalar : encodable text = true) :
    mangled isPrint (stringifyText text) = stringifyText (mangled isPrint text) := by
  have letters : mangled isPrint (text.flatMap stringifyCodePoint) =
      (mangled isPrint text).flatMap stringifyCodePoint := by
    unfold mangled
    rw [List.flatMap_assoc, List.flatMap_assoc]
    exact List.flatMap_congr fun point member =>
      mangled_stringifyCodePoint (encodable_mem scalar member)
  unfold stringifyText
  rw [mangled_cons (by decide), mangled_append, letters]
  rfl

end Mangling

/-! ### Reading the decoded text -/

section Reading

variable {numbers : PyFloat → NumberText} {isPrint : CodePoint → Bool} {decoder : JsonDecoder}

theorem NumberText.text_ascii (number : NumberText) :
    ∀ letter ∈ number.text, letter.val < 0x80 := by
  have digits {text : Str} (all : text.all isDigit = true) :
      ∀ letter ∈ text, letter.val < 0x80 := by
    intro letter member
    have isDigit := List.all_eq_true.mp all letter member
    unfold Common.isDigit at isDigit
    simp only [Bool.and_eq_true, decide_eq_true_eq] at isDigit
    omega
  have signs : ∀ letter ∈ str "+-", letter.val < 0x80 := all_letters (by decide)
  have sign : ∀ letter ∈ number.sign, letter.val < 0x80 := by
    unfold NumberText.sign
    split
    · exact all_letters (by decide)
    · exact List.forall_mem_nil _
  have point : ∀ letter ∈ number.point, letter.val < 0x80 := by
    unfold NumberText.point
    split
    · exact List.forall_mem_nil _
    · exact List.forall_mem_cons.mpr ⟨by decide, digits number.fractionDigits⟩
  have power : ∀ letter ∈ number.power, letter.val < 0x80 := by
    unfold NumberText.power
    split
    · exact List.forall_mem_nil _
    · rename_i powerSign powerDigits given
      obtain ⟨isSign, _, all⟩ := number.exponentDigits _ given
      rw [List.forall_mem_cons, List.forall_mem_cons]
      exact ⟨by decide, signs powerSign isSign, digits all⟩
  unfold text
  rw [List.forall_mem_append, List.forall_mem_append, List.forall_mem_append]
  exact ⟨sign, digits number.wholeDigits, point, power⟩

theorem readsAs_printed {value : Json} (flat : isFlat value = true)
    (scalar : encodable (textOf value) = true) (levels : Nat) :
    ReadsAs (scanOnce decoder levels) (mangled isPrint (printed numbers value))
      (decodedField numbers isPrint decoder value) := by
  have absent : ReadsAs (scanOnce decoder levels) (mangled isPrint (str "null")) .null := by
    rw [mangled_ascii (all_letters (by decide))]
    exact readsAs_null decoder levels
  cases value with
  | null => exact absent
  | str text =>
      change ReadsAs _ (mangled isPrint (stringifyText text)) (.str (mangled isPrint text))
      have unicode : encodable text = true := scalar
      rw [mangled_stringifyText unicode]
      exact readsAs_text decoder levels (encodable_mangled unicode)
  | float value =>
      have finite : ReadsAs (scanOnce decoder levels) (mangled isPrint (numbers value).text)
          ((numbers value).json decoder) := by
        rw [mangled_ascii (numbers value).text_ascii]
        exact readsAs_number decoder levels _
      cases value with
      | nan => exact absent
      | infinity negative => exact absent
      | finite value => exact finite
      | negativeZero => exact finite
  | bool value => cases flat
  | int value => cases flat
  | arr items => cases flat
  | obj fields => cases flat

theorem stringifyFields_eq (numberText : PyFloat → Str) (fields : Dict) :
    stringifyFields numberText fields =
      fields.map (fun field => fieldText field.1 (stringify numberText field.2)) := by
  induction fields with
  | nil => rfl
  | cons field rest ih =>
      rw [stringifyFields, ih]
      rfl

theorem LogDetails.flat (details : LogDetails) :
    ∀ field ∈ details.fields, isFlat field.2 = true := by
  cases details with
  | pollHttpError jobId statusCode => simp [fields, isFlat]
  | jobFailed jobId message => simp [fields, isFlat]
  | pollTimeout jobId timeoutSeconds polls => simp [fields, isFlat]
  | submitError statusCode task responseBody => cases responseBody <;> simp [fields, isFlat]

theorem K6Error.flat (error : K6Error) : ∀ field ∈ error.object, isFlat field.2 = true := by
  intro field member
  simp only [K6Error.object, logObject, List.mem_cons] at member
  rcases member with rfl | rfl | rfl | inDetails
  · rfl
  · rfl
  · rfl
  · exact error.details.flat field inDetails

def loggedKeys : List Str :=
  [str "timestamp", str "event", str "source", str "job_id", str "status_code", str "message",
    str "timeout_seconds", str "polls", str "task", str "response_body"]

theorem loggedKeys_ascii : ∀ key ∈ loggedKeys, ∀ letter ∈ key, letter.val < 0x80 := by
  have all : loggedKeys.all (fun key => key.all (fun letter => letter.val < 0x80)) = true := by
    decide
  intro key member letter inKey
  exact of_decide_eq_true (List.all_eq_true.mp (List.all_eq_true.mp all key member) letter inKey)

theorem K6Error.keys (error : K6Error) :
    (error.object.map Prod.fst).Nodup ∧ ∀ field ∈ error.object, field.1 ∈ loggedKeys := by
  unfold K6Error.object logObject
  cases error.details with
  | pollHttpError jobId statusCode => simp [LogDetails.fields, loggedKeys]
  | jobFailed jobId message => simp [LogDetails.fields, loggedKeys]
  | pollTimeout jobId timeoutSeconds polls => simp [LogDetails.fields, loggedKeys]
  | submitError statusCode task responseBody => simp [LogDetails.fields, loggedKeys]

theorem encodable_ascii {text : Str} (ascii : ∀ letter ∈ text, letter.val < 0x80) :
    encodable text = true := by
  unfold encodable
  rw [List.all_eq_true]
  intro letter member
  have small := ascii letter member
  unfold isSurrogate
  simp only [Bool.not_eq_true', Bool.and_eq_false_iff, decide_eq_false_iff_not]
  omega

theorem mangled_fieldText {key text : Str} (ascii : ∀ letter ∈ key, letter.val < 0x80) :
    mangled isPrint (fieldText key text) = fieldText key (mangled isPrint text) := by
  unfold fieldText
  rw [mangled_append, mangled_cons (by decide), mangled_stringifyText (encodable_ascii ascii),
    mangled_ascii ascii]

def decodedFields (numbers : PyFloat → NumberText) (isPrint : CodePoint → Bool)
    (decoder : JsonDecoder) (error : K6Error) : List PrintedField :=
  error.object.map (fun field =>
    { key := field.1
      text := mangled isPrint (printed numbers field.2)
      json := decodedField numbers isPrint decoder field.2 })

theorem mangled_logK6Error (decoder : JsonDecoder) (error : K6Error) :
    mangled isPrint (error.logK6Error numbers) =
      codePoint '\x7b' :: (joinWith comma ((decodedFields numbers isPrint decoder error).map
        (fun field => fieldText field.key field.text)) ++ [codePoint '\x7d']) := by
  have each : ∀ field ∈ error.object, mangled isPrint (fieldText field.1 (printed numbers field.2)) =
      fieldText field.1 (mangled isPrint (printed numbers field.2)) := by
    intro field member
    exact mangled_fieldText (loggedKeys_ascii field.1 (error.keys.2 field member))
  have fields : (stringifyFields (fun value => (numbers value).text) error.object).map
        (mangled isPrint) =
      (decodedFields numbers isPrint decoder error).map
        (fun field => fieldText field.key field.text) := by
    unfold decodedFields
    rw [stringifyFields_eq, List.map_map, List.map_map]
    exact List.map_congr_left each
  change mangled isPrint (codePoint '\x7b' :: (joinWith comma
    (stringifyFields (fun value => (numbers value).text) error.object) ++ [codePoint '\x7d'])) = _
  rw [mangled_cons (by decide), mangled_append, mangled_joinWith, fields,
    mangled_cons (by decide) []]
  rfl

/-- Python reads an object with the logged fields, their texts decoded. -/
theorem jsonLoads_logged {levels : Nat} (nested : decoder.recursionLimit = levels + 1)
    (error : K6Error) :
    jsonLoads decoder (mangled isPrint (error.logK6Error numbers)) =
      .ok (.obj (error.object.map (fun field =>
        (field.1, decodedField numbers isPrint decoder field.2)))) := by
  have some : decodedFields numbers isPrint decoder error ≠ [] := List.cons_ne_nil _ _
  have distinct : ((decodedFields numbers isPrint decoder error).map PrintedField.key).Nodup := by
    unfold decodedFields
    rw [List.map_map]
    exact error.keys.1
  have scalar : ∀ field ∈ decodedFields numbers isPrint decoder error,
      encodable field.key = true := by
    intro field member
    obtain ⟨logged, inObject, rfl⟩ := List.mem_map.mp member
    exact encodable_ascii (loggedKeys_ascii logged.1 (error.keys.2 logged inObject))
  have reads : ∀ field ∈ decodedFields numbers isPrint decoder error,
      ReadsAs (scanOnce decoder levels) field.text field.json := by
    intro field member
    obtain ⟨logged, inObject, rfl⟩ := List.mem_map.mp member
    exact readsAs_printed (error.flat logged inObject) (error.unicode logged inObject) levels
  rw [mangled_logK6Error decoder, jsonLoads_object nested some distinct scalar reads]
  unfold decodedFields
  rw [List.map_map]
  rfl

end Reading

end ImagePipeline.Loadtest
