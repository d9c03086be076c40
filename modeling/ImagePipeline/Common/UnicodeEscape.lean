/-
`data.decode("unicode_escape")`: bytes outside of escapes are taken for Latin-1,
whatever encoding they come from.
-/

import ImagePipeline.Common.JsonLoads

namespace ImagePipeline.Common

open Library (Scanned scan)

def latin1 (byte : UInt8) : CodePoint :=
  ⟨byte.toNat, Nat.lt_of_lt_of_le byte.toNat_lt (by decide)⟩

def characterEscapes : List (CodePoint × Nat) :=
  [(codePoint '\\', 0x5C), (codePoint '\x27', 0x27), (codePoint '"', 0x22), (codePoint 'b', 0x08),
    (codePoint 'f', 0x0C), (codePoint 't', 0x09), (codePoint 'n', 0x0A), (codePoint 'r', 0x0D),
    (codePoint 'v', 0x0B), (codePoint 'a', 0x07)]

def isOctal (letter : CodePoint) : Bool := 0x30 ≤ letter.val && letter.val ≤ 0x37

def octalValue (digits : Str) : Nat :=
  digits.foldl (fun value digit => 8 * value + (digit.val - 0x30)) 0

def hexEscape (digits : Nat) (text : Str) : Except Unit (Scanned CodePoint CodePoint) :=
  if text.length < digits then .error ()
  else
    match hexNumber (text.take digits) with
    | none => .error ()
    | some value =>
        if value < 0x110000 then .ok (.emits [pointOf value] (text.drop digits)) else .error ()

/-- `\N{name}`, where the names are `unicodedata`'s. -/
def namedEscape (names : Str → Option CodePoint) : Str → Except Unit (Scanned CodePoint CodePoint)
  | [] => .error ()
  | brace :: rest =>
      let name := rest.takeWhile (fun letter => letter ≠ codePoint '\x7d')
      if brace = codePoint '\x7b' ∧ name.length < rest.length then
        match names name with
        | some point => .ok (.emits [point] (rest.drop (name.length + 1)))
        | none => .error ()
      else .error ()

/-- What a backslash stands for together with the letters behind it. An escape
that is none is left as it is. -/
def escapeStep (names : Str → Option CodePoint) : Str → Except Unit (Scanned CodePoint CodePoint)
  | [] => .error ()
  | letter :: rest =>
      if letter = codePoint '\n' then .ok (.emits [] rest)
      else if letter = codePoint 'x' then hexEscape 2 rest
      else if letter = codePoint 'u' then hexEscape 4 rest
      else if letter = codePoint 'U' then hexEscape 8 rest
      else if letter = codePoint 'N' then namedEscape names rest
      else if isOctal letter then
        let digits := ((letter :: rest).take 3).takeWhile isOctal
        .ok (.emits [pointOf (octalValue digits)] ((letter :: rest).drop digits.length))
      else
        match characterEscapes.lookup letter with
        | some value => .ok (.emits [pointOf value] rest)
        | none => .ok (.emits [codePoint '\\', letter] rest)

def decodeStep (names : Str → Option CodePoint) : Str → Except Unit (Scanned CodePoint CodePoint)
  | [] => .ok (.ends [])
  | letter :: rest =>
      if letter = codePoint '\\' then escapeStep names rest else .ok (.emits [letter] rest)

/-- `data.decode("unicode_escape")`; the error is the `UnicodeDecodeError`. -/
def decodeUnicodeEscape (names : Str → Option CodePoint) (data : Bytes) : Except Unit Str :=
  (scan () (decodeStep names) (data.length + 1) (data.map latin1)).map Prod.fst

end ImagePipeline.Common
