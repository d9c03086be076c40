/-
`JSON.stringify` as the load test uses it. Unlike `json.dumps` it leaves letters
beyond ASCII as they are, keeps the order of the keys and escapes only quotes,
backslashes, control characters and lone surrogates.
-/

import ImagePipeline.Common.JsonPrinter

namespace ImagePipeline.Loadtest

open Common
open Library (joinWith)

/-- One code point of a string in `JSON.stringify`. -/
def stringifyCodePoint (point : CodePoint) : Str :=
  match shortEscape point.val with
  | some letter => [codePoint '\\', letter]
  | none =>
      if point.val < 0x20 ∨ (0xD800 ≤ point.val ∧ point.val ≤ 0xDFFF) then
        codePoint '\\' :: codePoint 'u' :: hex4 point.val
      else [point]

def stringifyText (text : Str) : Str :=
  codePoint '"' :: (text.flatMap stringifyCodePoint ++ [codePoint '"'])

mutual

/-- `JSON.stringify(value)`; an integer is one that JavaScript prints in full,
and `numberText` prints the other numbers. -/
def stringify (numberText : PyFloat → Str) : Json → Str
  | .null => str "null"
  | .bool true => str "true"
  | .bool false => str "false"
  | .int value => intRepr value
  | .float .nan | .float (.infinity _) => str "null"
  | .float value => numberText value
  | .str text => stringifyText text
  | .arr items =>
      codePoint '[' :: (joinWith comma (stringifyItems numberText items) ++ [codePoint ']'])
  | .obj fields =>
      codePoint '\x7b' ::
        (joinWith comma (stringifyFields numberText fields) ++ [codePoint '\x7d'])

def stringifyItems (numberText : PyFloat → Str) : List Json → List Str
  | [] => []
  | item :: rest => stringify numberText item :: stringifyItems numberText rest

def stringifyFields (numberText : PyFloat → Str) : List (Str × Json) → List Str
  | [] => []
  | (key, value) :: rest =>
      (stringifyText key ++ codePoint ':' :: stringify numberText value) ::
        stringifyFields numberText rest

end

end ImagePipeline.Loadtest
