/-
JSON values as Python holds them after `json.loads`, the conversions the
pipeline code applies to them, and `json.dumps` with sorted keys and compact
separators. What Python leaves to the platform (the digits of a float, `int` of
a text, SHA-256) is a field of `Runtime`.
-/

import ImagePipeline.Common.Text
import Mathlib.Data.Rat.Floor

namespace ImagePipeline.Common

/-- The exceptions the services distinguish. Redis timeouts are Redis errors
too (`Exn.isRedisError`). -/
inductive Exn where
  | httpException (statusCode : Nat) (detail : Str)
  | typeError
  | valueError
  | overflowError
  | keyError
  | uniqueViolation
  | dataError
  | redisError
  | redisTimeout
  | other
  deriving DecidableEq

/-- `except RedisError`: the timeout class is a subclass. -/
def Exn.isRedisError : Exn → Bool
  | .redisError | .redisTimeout => true
  | _ => false

def Exn.isHttp : Exn → Bool
  | .httpException _ _ => true
  | _ => false

/-- A finite double is given by its value; negative zero is kept apart because
it prints differently. -/
inductive PyFloat where
  | nan
  | infinity (negative : Bool)
  | finite (value : Rat)
  | negativeZero
  deriving DecidableEq

/-- `round(value)`: to the nearest integer, halves to even. -/
def roundHalfEven (value : Rat) : Int :=
  let below := value.floor
  if value - below < 1 / 2 then below
  else if 1 / 2 < value - below then below + 1
  else if below % 2 = 0 then below
  else below + 1

inductive Json where
  | null
  | bool (value : Bool)
  | int (value : Int)
  | float (value : PyFloat)
  | str (value : Str)
  | arr (items : List Json)
  | obj (fields : List (Str × Json))

/-- A Python `dict` with text keys, in insertion order. -/
abbrev Dict := List (Str × Json)

namespace Dict

/-- `dict.get(key)`. -/
def get? (dict : Dict) (key : Str) : Option Json :=
  (dict.find? (fun field => field.1 = key)).map Prod.snd

/-- `dict.get(key, default)`. -/
def getD (dict : Dict) (key : Str) (default : Json) : Json :=
  (dict.get? key).getD default

/-- What `dict.pop(key, default)` leaves behind. -/
def erase (dict : Dict) (key : Str) : Dict :=
  dict.filter (fun field => field.1 ≠ key)

@[simp] theorem get?_cons_self (key : Str) (value : Json) (rest : Dict) :
    get? ((key, value) :: rest) key = some value := by
  simp [get?]

theorem get?_cons_ne {key other : Str} (different : other ≠ key) (value : Json) (rest : Dict) :
    get? ((other, value) :: rest) key = get? rest key := by
  simp [get?, different]

theorem get?_erase_ne {key other : Str} (different : key ≠ other) (dict : Dict) :
    get? (dict.erase other) key = get? dict key := by
  induction dict with
  | nil => rfl
  | cons field rest ih =>
      obtain ⟨name, value⟩ := field
      by_cases atKey : name = key
      · subst name
        have kept : erase ((key, value) :: rest) other = (key, value) :: erase rest other := by
          simp [erase, different]
        rw [kept, get?_cons_self, get?_cons_self]
      · rw [get?_cons_ne atKey]
        by_cases dropped : name = other
        · have gone : erase ((name, value) :: rest) other = erase rest other := by
            simp [erase, dropped]
          rw [gone, ih]
        · have kept : erase ((name, value) :: rest) other = (name, value) :: erase rest other := by
            simp [erase, dropped]
          rw [kept, get?_cons_ne atKey, ih]

@[simp] theorem get?_erase_self (key : Str) (dict : Dict) : get? (dict.erase key) key = none := by
  unfold get? erase
  rw [Option.map_eq_none_iff, List.find?_eq_none]
  intro field member same
  have kept := (List.mem_filter.mp member).2
  rw [decide_eq_true_eq] at kept same
  exact kept same

@[simp] theorem erase_erase (key : Str) (dict : Dict) :
    (dict.erase key).erase key = dict.erase key := by
  unfold erase
  rw [List.filter_filter]
  simp only [Bool.and_self]

theorem getD_erase_ne {key other : Str} (different : key ≠ other) (dict : Dict)
    (default : Json) : getD (dict.erase other) key default = getD dict key default := by
  rw [getD, get?_erase_ne different, getD]

end Dict

/-- What Python takes from its platform and from `hashlib`. -/
structure Runtime where
  /-- `int(text)`; `none` is the `ValueError`. -/
  intOfStr : Str → Option Int
  /-- `float.__repr__` of a finite float. -/
  floatRepr : PyFloat → Str
  /-- `hashlib.sha256(data).hexdigest()`. -/
  sha256 : Bytes → Str

namespace Runtime

variable (runtime : Runtime)

/-- `int(value)` of a JSON value. -/
def toInt : Json → Except Exn Int
  | .int value => .ok value
  | .bool value => .ok (if value then 1 else 0)
  | .float .nan => .error .valueError
  | .float (.infinity _) => .error .overflowError
  | .float (.finite value) => .ok (value.num.tdiv value.den)
  | .float .negativeZero => .ok 0
  | .str text =>
      match runtime.intOfStr text with
      | some value => .ok value
      | none => .error .valueError
  | .null | .arr _ | .obj _ => .error .typeError

/-- `int` has nothing else to raise than the three of its type, of its text and
of an infinity. -/
theorem toInt_error_cases {value : Json} {raised : Exn}
    (failed : runtime.toInt value = .error raised) :
    raised = .typeError ∨ raised = .valueError ∨
      raised = .overflowError ∧ ∃ negative, value = .float (.infinity negative) := by
  unfold toInt at failed
  split at failed
  any_goals
    cases failed
    try exact .inl rfl
    try exact .inr (.inl rfl)
    try exact .inr (.inr ⟨rfl, _, rfl⟩)
  split at failed <;> cases failed
  exact .inr (.inl rfl)

def floatToken : PyFloat → Str
  | .nan => str "NaN"
  | .infinity false => str "Infinity"
  | .infinity true => str "-Infinity"
  | value => runtime.floatRepr value

/-- `str(value)` of a hashable JSON value, as an f-string inserts it. -/
def scalarText : Json → Str
  | .null | .arr _ | .obj _ => str "None"
  | .bool true => str "True"
  | .bool false => str "False"
  | .int value => intRepr value
  | .float .nan => str "nan"
  | .float (.infinity false) => str "inf"
  | .float (.infinity true) => str "-inf"
  | .float value => runtime.floatRepr value
  | .str text => text

end Runtime

/-- One code point of a JSON string under `ensure_ascii`. -/
def escapeCodePoint (point : CodePoint) : Str :=
  let value := point.val
  if value = 0x22 then str "\\\""
  else if value = 0x5C then str "\\\\"
  else if value = 0x0A then str "\\n"
  else if value = 0x0D then str "\\r"
  else if value = 0x09 then str "\\t"
  else if value = 0x0C then str "\\f"
  else if value = 0x08 then str "\\b"
  else if 0x20 ≤ value ∧ value ≤ 0x7E then [point]
  else if value < 0x10000 then str "\\u" ++ hex4 value
  else
    -- beyond the basic plane: a surrogate pair
    str "\\u" ++ hex4 (0xD800 + (value - 0x10000) / 1024) ++
      (str "\\u" ++ hex4 (0xDC00 + (value - 0x10000) % 1024))

def quote (text : Str) : Str := str "\"" ++ text.flatMap escapeCodePoint ++ str "\""

def joinComma : List Str → Str
  | [] => []
  | [item] => item
  | item :: rest => item ++ str "," ++ joinComma rest

/-- Lexicographic order of code points, which is Python's `<=` on `str`. -/
def Str.le : Str → Str → Bool
  | [], _ => true
  | _ :: _, [] => false
  | left :: restLeft, right :: restRight =>
      left.val < right.val || (left.val = right.val && Str.le restLeft restRight)

/-- Insertion into a field list that is sorted by key. -/
def insertField {α : Type} (field : Str × α) : List (Str × α) → List (Str × α)
  | [] => [field]
  | head :: rest =>
      if Str.le field.1 head.1 then field :: head :: rest
      else head :: insertField field rest

/-- `sort_keys=True`. -/
def sortFields {α : Type} : List (Str × α) → List (Str × α)
  | [] => []
  | field :: rest => insertField field (sortFields rest)

def printField (field : Str × Str) : Str := quote field.1 ++ str ":" ++ field.2

mutual

/-- `json.dumps(value, sort_keys=True, separators=(",", ":"))`. -/
def dumps (runtime : Runtime) : Json → Str
  | .null => str "null"
  | .bool true => str "true"
  | .bool false => str "false"
  | .int value => intRepr value
  | .float value => runtime.floatToken value
  | .str text => quote text
  | .arr items => str "[" ++ joinComma (dumpsItems runtime items) ++ str "]"
  | .obj fields =>
      str "\x7b" ++ joinComma ((sortFields (dumpsFields runtime fields)).map printField) ++
        str "\x7d"

def dumpsItems (runtime : Runtime) : List Json → List Str
  | [] => []
  | item :: rest => dumps runtime item :: dumpsItems runtime rest

def dumpsFields (runtime : Runtime) : List (Str × Json) → List (Str × Str)
  | [] => []
  | (key, value) :: rest => (key, dumps runtime value) :: dumpsFields runtime rest

end

end ImagePipeline.Common
