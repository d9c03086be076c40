/-
`json.loads` of a text. What it raises on a text that is no JSON is a
`JSONDecodeError`; on JSON it can still raise a `RecursionError`, and a plain
`ValueError` for an integer with too many digits.
-/

import ImagePipeline.Common.Text
import ImagePipeline.Common.JsonText
import ImagePipeline.Library.Readable

namespace ImagePipeline.Common

open Library (Scanned scan)

inductive LoadsError where
  | jsonDecodeError
  | recursionError
  | valueError
  deriving DecidableEq

/-- `sys.get_int_max_str_digits()`. -/
def maxStrDigits : Nat := 4300

/-- What the decoder takes from the interpreter; an interpreter without a limit
for the digits of an integer reads all of them. -/
structure JsonDecoder (maxDigits : Option Nat := some maxStrDigits) where
  /-- How many arrays and objects may be open at once. -/
  recursionLimit : Nat
  /-- `float(text)` of a number in a document. -/
  floatOfStr : Str → PyFloat

/-- Whether there are more digits than the limit allows. -/
def exceeds : Option Nat → Nat → Bool
  | none, _ => false
  | some limit, count => limit < count

/-- `dict[key] = value`: a key that is there keeps its place. -/
def Dict.set (dict : Dict) (key : Str) (value : Json) : Dict :=
  if dict.any (fun field => field.1 = key) then
    dict.map (fun field => if field.1 = key then (key, value) else field)
  else dict ++ [(key, value)]

/-- `dict.update(updates)`. -/
def Dict.update (dict updates : Dict) : Dict :=
  updates.foldl (fun dict field => Dict.set dict field.1 field.2) dict

theorem Dict.set_of_not_mem {dict : Dict} {key : Str} (fresh : key ∉ dict.map Prod.fst)
    (value : Json) : Dict.set dict key value = dict ++ [(key, value)] := by
  have absent : dict.any (fun field => decide (field.1 = key)) = false := by
    rw [List.any_eq_false]
    intro field member same
    exact fresh (of_decide_eq_true same ▸ List.mem_map_of_mem member)
  rw [Dict.set, absent, if_neg Bool.false_ne_true]

theorem Dict.keys_set_of_mem {dict : Dict} {key : Str} (known : key ∈ dict.map Prod.fst)
    (value : Json) : (Dict.set dict key value).map Prod.fst = dict.map Prod.fst := by
  have present : dict.any (fun field => decide (field.1 = key)) = true := by
    obtain ⟨field, member, same⟩ := List.mem_map.mp known
    exact List.any_eq_true.mpr ⟨field, member, decide_eq_true same⟩
  rw [Dict.set, present, if_pos rfl, List.map_map]
  apply List.map_congr_left
  intro field _
  by_cases same : field.1 = key
  · rw [Function.comp_apply, if_pos same, same]
  · rw [Function.comp_apply, if_neg same]

theorem Dict.mem_set {dict : Dict} {key : Str} {value : Json} {field : Str × Json}
    (member : field ∈ Dict.set dict key value) : field = (key, value) ∨ field ∈ dict := by
  unfold Dict.set at member
  split at member
  · obtain ⟨old, inside, rfl⟩ := List.mem_map.mp member
    split
    · exact .inl rfl
    · exact .inr inside
  · rcases List.mem_append.mp member with old | new
    · exact .inr old
    · exact .inl (List.mem_singleton.mp new)

/-- The pairs of an object; of two with one key the later one counts. -/
def dictOf (pairs : List (Str × Json)) : Dict :=
  pairs.foldl (fun dict pair => Dict.set dict pair.1 pair.2) []

def isJsonSpace (letter : CodePoint) : Bool :=
  letter.val = 0x20 || letter.val = 0x09 || letter.val = 0x0A || letter.val = 0x0D

def skipSpace (text : Str) : Str := text.dropWhile isJsonSpace

def isDigit (letter : CodePoint) : Bool := 0x30 ≤ letter.val && letter.val ≤ 0x39

def scanHex4 (text : Str) : Option (Nat × Str) :=
  if text.length < 4 then none
  else (hexNumber (text.take 4)).map (fun value => (value, text.drop 4))

/-- The code points of a surrogate pair in two halves, and of all else. -/
def joinPair (high low : Nat) : Nat := 0x10000 + (high - 0xD800) * 1024 + (low - 0xDC00)

/-- `\uXXXX`, with a second one if both are a surrogate pair. -/
def scanUnicode (text : Str) : Except LoadsError (CodePoint × Str) :=
  match scanHex4 text with
  | none => .error .jsonDecodeError
  | some (unit, rest) =>
      if 0xD800 ≤ unit ∧ unit ≤ 0xDBFF then
        match rest with
        | backslash :: letter :: more =>
            if backslash = codePoint '\\' ∧ letter = codePoint 'u' then
              match scanHex4 more with
              | none => .error .jsonDecodeError
              | some (second, later) =>
                  if 0xDC00 ≤ second ∧ second ≤ 0xDFFF then
                    .ok (pointOf (joinPair unit second), later)
                  else .ok (pointOf unit, rest)
            else .ok (pointOf unit, rest)
        | _ => .ok (pointOf unit, rest)
      else .ok (pointOf unit, rest)

def escapedLetters : List (CodePoint × Nat) :=
  [(codePoint '"', 0x22), (codePoint '\\', 0x5C), (codePoint '/', 0x2F), (codePoint 'b', 0x08),
    (codePoint 'f', 0x0C), (codePoint 'n', 0x0A), (codePoint 'r', 0x0D), (codePoint 't', 0x09)]

/-- What a backslash stands for together with the letters behind it. -/
def scanEscape : Str → Except LoadsError (CodePoint × Str)
  | [] => .error .jsonDecodeError
  | letter :: rest =>
      if letter = codePoint 'u' then scanUnicode rest
      else
        match escapedLetters.lookup letter with
        | some value => .ok (pointOf value, rest)
        | none => .error .jsonDecodeError

/-- One round of the loop over a string. -/
def stringStep : Str → Except LoadsError (Scanned CodePoint CodePoint)
  | [] => .error .jsonDecodeError
  | letter :: rest =>
      if letter = codePoint '"' then .ok (.ends rest)
      else if letter = codePoint '\\' then
        (scanEscape rest).map (fun scanned => .emits [scanned.1] scanned.2)
      else if letter.val < 0x20 then .error .jsonDecodeError
      else .ok (.emits [letter] rest)

/-- The string up to its closing quote. -/
def scanString (text : Str) : Except LoadsError (Str × Str) :=
  scan .jsonDecodeError stringStep (text.length + 1) text

/-- The part of a number behind its decimal point, with the point. -/
def fractionOf : Str → Str
  | [] => []
  | point :: rest =>
      if point = codePoint '.' ∧ rest.takeWhile isDigit ≠ [] then point :: rest.takeWhile isDigit
      else []

def signOf (signs : Str) : Str → Str
  | [] => []
  | letter :: _ => if letter ∈ signs then [letter] else []

def exponentOf : Str → Str
  | [] => []
  | letter :: rest =>
      let sign := signOf (str "+-") rest
      let digits := (rest.drop sign.length).takeWhile isDigit
      if letter ∈ str "eE" ∧ digits ≠ [] then letter :: (sign ++ digits) else []

/-- The digits in front of the decimal point; a zero stands alone. -/
def wholeOf (text : Str) : Str :=
  if text.head? = some (codePoint '0') then [codePoint '0'] else text.takeWhile isDigit

def decimalValue (digits : Str) : Nat :=
  digits.foldl (fun value digit => 10 * value + (digit.val - 0x30)) 0

variable {maxDigits : Option Nat}

def scanNumber (decoder : JsonDecoder maxDigits) (text : Str) : Except LoadsError (Json × Str) :=
  let sign := signOf (str "-") text
  let unsigned := text.drop sign.length
  let whole := wholeOf unsigned
  let rest := unsigned.drop whole.length
  let fraction := fractionOf rest
  let exponent := exponentOf (rest.drop fraction.length)
  let rest := (rest.drop fraction.length).drop exponent.length
  if whole = [] then .error .jsonDecodeError
  else if fraction = [] ∧ exponent = [] then
    if exceeds maxDigits whole.length then .error .valueError
    else .ok (.int (if sign = [] then decimalValue whole else - decimalValue whole), rest)
  else .ok (.float (decoder.floatOfStr (sign ++ whole ++ fraction ++ exponent)), rest)

def jsonWords : List (Str × Json) :=
  [(str "null", .null), (str "true", .bool true), (str "false", .bool false),
    (str "NaN", .float .nan), (str "Infinity", .float (.infinity false)),
    (str "-Infinity", .float (.infinity true))]

/-- Reads one value at the front of a text. -/
abbrev ValueScanner := Str → Except LoadsError (Json × Str)

/-- The items of an array, from the first one on. -/
def scanItems (value : ValueScanner) : Nat → Str → Except LoadsError (List Json × Str)
  | 0, _ => .error .jsonDecodeError
  | rounds + 1, text => do
      let (item, rest) ← value text
      match skipSpace rest with
      | [] => .error .jsonDecodeError
      | letter :: rest =>
          if letter = codePoint ']' then pure ([item], rest)
          else if letter = codePoint ',' then do
            let (items, rest) ← scanItems value rounds (skipSpace rest)
            pure (item :: items, rest)
          else .error .jsonDecodeError

def scanArray (value : ValueScanner) (text : Str) : Except LoadsError (Json × Str) :=
  match skipSpace text with
  | [] => .error .jsonDecodeError
  | letter :: rest =>
      if letter = codePoint ']' then .ok (.arr [], rest)
      else (scanItems value (text.length + 1) (letter :: rest)).map
        (fun scanned => (.arr scanned.1, scanned.2))

def scanPair (value : ValueScanner) : Str → Except LoadsError ((Str × Json) × Str)
  | [] => .error .jsonDecodeError
  | letter :: rest =>
      if letter = codePoint '"' then do
        let (key, rest) ← scanString rest
        match skipSpace rest with
        | [] => .error .jsonDecodeError
        | colon :: rest =>
            if colon = codePoint ':' then do
              let (item, rest) ← value (skipSpace rest)
              pure ((key, item), rest)
            else .error .jsonDecodeError
      else .error .jsonDecodeError

/-- The pairs of an object, from the first one on. -/
def scanPairs (value : ValueScanner) : Nat → Str → Except LoadsError (List (Str × Json) × Str)
  | 0, _ => .error .jsonDecodeError
  | rounds + 1, text => do
      let (pair, rest) ← scanPair value text
      match skipSpace rest with
      | [] => .error .jsonDecodeError
      | letter :: rest =>
          if letter = codePoint '\x7d' then pure ([pair], rest)
          else if letter = codePoint ',' then do
            let (pairs, rest) ← scanPairs value rounds (skipSpace rest)
            pure (pair :: pairs, rest)
          else .error .jsonDecodeError

def scanObject (value : ValueScanner) (text : Str) : Except LoadsError (Json × Str) :=
  match skipSpace text with
  | [] => .error .jsonDecodeError
  | letter :: rest =>
      if letter = codePoint '\x7d' then .ok (.obj [], rest)
      else (scanPairs value (text.length + 1) (letter :: rest)).map
        (fun scanned => (.obj (dictOf scanned.1), scanned.2))

/-- A value, given the scanner for those inside it, if they may still be opened. -/
def scanValue (decoder : JsonDecoder maxDigits) (inner : Option ValueScanner) (text : Str) :
    Except LoadsError (Json × Str) :=
  match text with
  | [] => .error .jsonDecodeError
  | letter :: rest =>
      if letter = codePoint '"' then
        (scanString rest).map (fun scanned => (.str scanned.1, scanned.2))
      else if letter = codePoint '\x7b' then
        match inner with
        | none => .error .recursionError
        | some value => scanObject value rest
      else if letter = codePoint '[' then
        match inner with
        | none => .error .recursionError
        | some value => scanArray value rest
      else
        match jsonWords.find? (fun word => word.1.isPrefixOf text) with
        | some (word, value) => .ok (value, text.drop word.length)
        | none => scanNumber decoder text

/-- `scan_once` with so many levels left. -/
def scanOnce (decoder : JsonDecoder maxDigits) : Nat → ValueScanner
  | 0 => scanValue decoder none
  | levels + 1 => scanValue decoder (some (scanOnce decoder levels))

def byteOrderMark : CodePoint := ⟨0xFEFF, by decide⟩

/-- `json.loads(text)`. -/
def jsonLoads (decoder : JsonDecoder maxDigits) (text : Str) : Except LoadsError Json :=
  if text.head? = some byteOrderMark then .error .jsonDecodeError
  else do
    let (value, rest) ← scanOnce decoder decoder.recursionLimit (skipSpace text)
    if skipSpace rest = [] then pure value else .error .jsonDecodeError

/-! ### Larger limits -/

/-- The first one meets a limit, or the second one does the same. -/
def Lifted {α : Type} (limited larger : Except LoadsError α) : Prop :=
  limited = .error .recursionError ∨ limited = .error .valueError ∨ larger = limited

section Lifting

variable {α β : Type}

theorem Lifted.refl (result : Except LoadsError α) : Lifted result result := .inr (.inr rfl)

theorem Lifted.bind {limited larger : Except LoadsError α} {next more : α → Except LoadsError β}
    (first : Lifted limited larger) (rest : ∀ value, Lifted (next value) (more value)) :
    Lifted (limited >>= next) (larger >>= more) := by
  rcases first with met | met | rfl
  · rw [met]
    exact .inl rfl
  · rw [met]
    exact .inr (.inl rfl)
  · cases larger with
    | error raised => exact .refl _
    | ok value => exact rest value

theorem Lifted.map {limited larger : Except LoadsError α} (read : α → β)
    (lifted : Lifted limited larger) : Lifted (limited.map read) (larger.map read) := by
  rcases lifted with met | met | rfl
  · rw [met]
    exact .inl rfl
  · rw [met]
    exact .inr (.inl rfl)
  · exact .refl _

theorem Lifted.eq {limited larger : Except LoadsError α} (lifted : Lifted limited larger)
    (deep : limited ≠ .error .recursionError) (long : limited ≠ .error .valueError) :
    larger = limited := by
  rcases lifted with met | met | same
  · exact absurd met deep
  · exact absurd met long
  · exact same

variable {value larger : ValueScanner} (lifted : ∀ text, Lifted (value text) (larger text))

include lifted

theorem scanItems_lifted (rounds : Nat) (text : Str) :
    Lifted (scanItems value rounds text) (scanItems larger rounds text) := by
  induction rounds generalizing text with
  | zero => exact .refl _
  | succ rounds ih =>
      refine (lifted text).bind fun (item, rest) => ?_
      dsimp only
      cases skipSpace rest with
      | nil => exact .refl _
      | cons letter rest =>
          dsimp only
          split_ifs
          · exact .refl _
          · exact (ih (skipSpace rest)).bind fun _ => .refl _
          · exact .refl _

theorem scanArray_lifted (text : Str) :
    Lifted (scanArray value text) (scanArray larger text) := by
  unfold scanArray
  cases skipSpace text with
  | nil => exact .refl _
  | cons letter rest =>
      dsimp only
      split_ifs
      · exact .refl _
      · exact (scanItems_lifted lifted _ _).map _

theorem scanPair_lifted (text : Str) : Lifted (scanPair value text) (scanPair larger text) := by
  cases text with
  | nil => exact .refl _
  | cons letter rest =>
      unfold scanPair
      dsimp only
      split_ifs
      · refine (Lifted.refl (scanString rest)).bind fun (key, rest) => ?_
        dsimp only
        cases skipSpace rest with
        | nil => exact .refl _
        | cons colon rest =>
            dsimp only
            split_ifs
            · exact (lifted (skipSpace rest)).bind fun _ => .refl _
            · exact .refl _
      · exact .refl _

theorem scanPairs_lifted (rounds : Nat) (text : Str) :
    Lifted (scanPairs value rounds text) (scanPairs larger rounds text) := by
  induction rounds generalizing text with
  | zero => exact .refl _
  | succ rounds ih =>
      refine (scanPair_lifted lifted text).bind fun (pair, rest) => ?_
      dsimp only
      cases skipSpace rest with
      | nil => exact .refl _
      | cons letter rest =>
          dsimp only
          split_ifs
          · exact .refl _
          · exact (ih (skipSpace rest)).bind fun _ => .refl _
          · exact .refl _

theorem scanObject_lifted (text : Str) :
    Lifted (scanObject value text) (scanObject larger text) := by
  unfold scanObject
  cases skipSpace text with
  | nil => exact .refl _
  | cons letter rest =>
      dsimp only
      split_ifs
      · exact .refl _
      · exact (scanPairs_lifted lifted _ _).map _

end Lifting

/-- The same decoder with other levels, and without a limit for digits. -/
def JsonDecoder.unlimited (decoder : JsonDecoder maxDigits) (levels : Nat) : JsonDecoder none :=
  { recursionLimit := levels
    floatOfStr := decoder.floatOfStr }

theorem scanNumber_lifted (decoder : JsonDecoder maxDigits) (levels : Nat) (text : Str) :
    Lifted (scanNumber decoder text) (scanNumber (decoder.unlimited levels) text) := by
  unfold scanNumber
  dsimp only
  split_ifs <;> first | exact .refl _ | exact .inr (.inl rfl) | (rename_i none; cases none)

theorem scanValue_lifted (decoder : JsonDecoder maxDigits) (levels : Nat)
    {inner larger : Option ValueScanner}
    (lifted : ∀ scanner ∈ inner, ∃ other ∈ larger, ∀ text, Lifted (scanner text) (other text))
    (text : Str) :
    Lifted (scanValue decoder inner text) (scanValue (decoder.unlimited levels) larger text) := by
  cases text with
  | nil => exact .refl _
  | cons letter rest =>
      unfold scanValue
      dsimp only
      split_ifs
      · exact .refl _
      · cases inner with
        | none => exact .inl rfl
        | some scanner =>
            obtain ⟨other, isOther, each⟩ := lifted scanner rfl
            rw [Option.mem_def.mp isOther]
            exact scanObject_lifted each rest
      · cases inner with
        | none => exact .inl rfl
        | some scanner =>
            obtain ⟨other, isOther, each⟩ := lifted scanner rfl
            rw [Option.mem_def.mp isOther]
            exact scanArray_lifted each rest
      · cases jsonWords.find? (fun word => word.1.isPrefixOf (letter :: rest)) with
        | none => exact scanNumber_lifted decoder levels _
        | some word => exact .refl _

theorem scanOnce_lifted (decoder : JsonDecoder maxDigits) (limit : Nat) {levels more : Nat}
    (enough : levels ≤ more) (text : Str) :
    Lifted (scanOnce decoder levels text) (scanOnce (decoder.unlimited limit) more text) := by
  induction levels generalizing more text with
  | zero =>
      obtain ⟨inner, same⟩ : ∃ inner, scanOnce (decoder.unlimited limit) more =
          scanValue (decoder.unlimited limit) inner := by
        cases more <;> exact ⟨_, rfl⟩
      rw [same]
      refine scanValue_lifted decoder limit (fun scanner known => ?_) text
      cases known
  | succ levels ih =>
      cases more with
      | zero => exact absurd enough (Nat.not_succ_le_zero levels)
      | succ more =>
          refine scanValue_lifted decoder limit (fun scanner known => ?_) text
          cases known
          exact ⟨_, rfl, fun inside => ih (Nat.le_of_succ_le_succ enough) inside⟩

theorem jsonLoads_lifted (decoder : JsonDecoder maxDigits) {levels : Nat}
    (enough : decoder.recursionLimit ≤ levels) (text : Str) :
    Lifted (jsonLoads decoder text) (jsonLoads (decoder.unlimited levels) text) := by
  unfold jsonLoads
  split_ifs
  · exact .refl _
  · refine (scanOnce_lifted decoder levels enough _).bind fun (value, rest) => ?_
    exact .refl _

/-- The document that a text is, whatever levels and digits it takes to read it. -/
def Denotes (decoder : JsonDecoder maxDigits) (text : Str) (document : Json) : Prop :=
  ∃ levels, jsonLoads (decoder.unlimited levels) text = .ok document

variable {decoder : JsonDecoder maxDigits} {text : Str} {document : Json}

theorem denotes_of_loads (loaded : jsonLoads decoder text = .ok document) :
    Denotes decoder text document := by
  refine ⟨decoder.recursionLimit, ?_⟩
  rw [(jsonLoads_lifted decoder le_rfl text).eq] <;> rw [loaded] <;> simp

theorem Denotes.unique {other : Json} (first : Denotes decoder text document)
    (second : Denotes decoder text other) : document = other := by
  obtain ⟨levels, loaded⟩ := first
  obtain ⟨more, loadedOther⟩ := second
  have lifted := jsonLoads_lifted (decoder.unlimited levels) (Nat.le_max_left levels more) text
  have liftedOther := jsonLoads_lifted (decoder.unlimited more) (Nat.le_max_right levels more) text
  have same := lifted.eq (by rw [loaded]; simp) (by rw [loaded]; simp)
  have sameOther := liftedOther.eq (by rw [loadedOther]; simp) (by rw [loadedOther]; simp)
  exact Except.ok.inj ((loaded.symm.trans same.symm).trans (sameOther.trans loadedOther))

/-- A text in which the decoder finds an error is no document at all. -/
theorem not_denotes_of_decodeError (failed : jsonLoads decoder text = .error .jsonDecodeError) :
    ¬ Denotes decoder text document := by
  rintro ⟨levels, loaded⟩
  have lifted := jsonLoads_lifted decoder (Nat.le_max_left decoder.recursionLimit levels) text
  have liftedOther := jsonLoads_lifted (decoder.unlimited levels)
    (Nat.le_max_right decoder.recursionLimit levels) text
  have same := lifted.eq (by rw [failed]; simp) (by rw [failed]; simp)
  have sameOther := liftedOther.eq (by rw [loaded]; simp) (by rw [loaded]; simp)
  have impossible := (failed.symm.trans same.symm).trans (sameOther.trans loaded)
  cases impossible

end ImagePipeline.Common
