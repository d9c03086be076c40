/-
`strconv.Quote`, with which k6 writes a message, and what is left of it after
Python's `unicode_escape`: the escapes are undone, but a letter that Go takes for
printable is not escaped, and its bytes come back as so many letters.
-/

import ImagePipeline.Common.UnicodeEscape

namespace ImagePipeline.Loadtest

open Common
open Library (Scanned scan scan_words length_le_flatMap)

def goEscapes : List (Nat × CodePoint) :=
  [(0x07, codePoint 'a'), (0x08, codePoint 'b'), (0x0C, codePoint 'f'), (0x0A, codePoint 'n'),
    (0x0D, codePoint 'r'), (0x09, codePoint 't'), (0x0B, codePoint 'v')]

section Quoting

variable (isPrint : CodePoint → Bool)

/-- `appendEscapedRune` of a valid rune between double quotes. -/
def quoteRune (rune : CodePoint) : Str :=
  if rune = codePoint '"' ∨ rune = codePoint '\\' then [codePoint '\\', rune]
  else if isPrint rune then [rune]
  else
    match goEscapes.lookup rune.val with
    | some letter => [codePoint '\\', letter]
    | none =>
        if rune.val < 0x20 ∨ rune.val = 0x7F then
          codePoint '\\' :: codePoint 'x' :: hexDigits 2 rune.val
        else if rune.val < 0x10000 then codePoint '\\' :: codePoint 'u' :: hexDigits 4 rune.val
        else codePoint '\\' :: codePoint 'U' :: hexDigits 8 rune.val

def quoteBody (text : Str) : Str := text.flatMap (quoteRune isPrint)

/-- `strconv.Quote(text)`. -/
def strconvQuote (text : Str) : Str := codePoint '"' :: (quoteBody isPrint text ++ [codePoint '"'])

/-- What is documented of `strconv.IsPrint`: of ASCII it takes the letters from
the space to the tilde, and no line or paragraph separator. -/
structure PrintsRunes : Prop where
  ascii : ∀ rune : CodePoint, rune.val < 0x80 →
    isPrint rune = (decide (0x20 ≤ rune.val) && decide (rune.val ≤ 0x7E))
  separators : ∀ rune : CodePoint, rune.val = 0x85 ∨ rune.val = 0x2028 ∨ rune.val = 0x2029 →
    isPrint rune = false

/-- The rune stands for itself between the quotes. -/
def isRaw (rune : CodePoint) : Bool :=
  rune ≠ codePoint '"' && rune ≠ codePoint '\\' && isPrint rune

/-- The bytes of a rune, taken for Latin-1. -/
def utf8Letters (rune : CodePoint) : Str := (encodeCodePoint rune).map latin1

/-- What a rune has become after the decoding. -/
def mangledRune (rune : CodePoint) : Str :=
  if isRaw isPrint rune then utf8Letters rune else [rune]

def mangled (text : Str) : Str := text.flatMap (mangledRune isPrint)

/-- The words by which the decoder reads a quoted rune, with what it makes of them. -/
def runeWords (rune : CodePoint) : List (Str × Str) :=
  if isRaw isPrint rune then (utf8Letters rune).map (fun letter => ([letter], [letter]))
  else [(quoteRune isPrint rune, [rune])]

end Quoting

section Letters

variable {isPrint : CodePoint → Bool}

@[simp] theorem pointOf_val (rune : CodePoint) : pointOf rune.val = rune :=
  Fin.ofNat_val_eq_self rune

theorem utf8Letters_ascii {rune : CodePoint} (ascii : rune.val < 0x80) :
    utf8Letters rune = [rune] := by
  have encoded : encodeCodePoint rune = [UInt8.ofNat rune.val] := by
    unfold encodeCodePoint
    rw [if_pos ascii]
  have byte : (UInt8.ofNat rune.val).toNat = rune.val :=
    UInt8.toNat_ofNat_of_lt' (ascii.trans (by decide))
  unfold utf8Letters
  rw [encoded, List.map_singleton]
  congr 1
  exact Fin.ext byte

theorem utf8Letters_beyond {rune : CodePoint} (beyond : 0x80 ≤ rune.val) :
    (∀ letter ∈ utf8Letters rune, 0x80 ≤ letter.val ∧ letter.val < 0x100) ∧
      2 ≤ (utf8Letters rune).length := by
  have bound := rune.isLt
  have large {value : Nat} (atLeast : 0x80 ≤ value) (small : value < 0x100) :
      0x80 ≤ (latin1 (UInt8.ofNat value)).val ∧ (latin1 (UInt8.ofNat value)).val < 0x100 := by
    have same : (latin1 (UInt8.ofNat value)).val = value := UInt8.toNat_ofNat_of_lt' small
    omega
  unfold utf8Letters encodeCodePoint
  dsimp only
  rw [if_neg (by omega)]
  split_ifs
  · refine ⟨?_, by simp⟩
    simp only [List.map_cons, List.map_nil, List.forall_mem_cons]
    exact ⟨large (by omega) (by omega), large (by omega) (by omega), by simp⟩
  · refine ⟨?_, by simp⟩
    simp only [List.map_cons, List.map_nil, List.forall_mem_cons]
    exact ⟨large (by omega) (by omega), large (by omega) (by omega), large (by omega) (by omega),
      by simp⟩
  · refine ⟨?_, by simp⟩
    simp only [List.map_cons, List.map_nil, List.forall_mem_cons]
    exact ⟨large (by omega) (by omega), large (by omega) (by omega), large (by omega) (by omega),
      large (by omega) (by omega), by simp⟩

theorem hexDigits_letters {count value : Nat} :
    ∀ letter ∈ hexDigits count value, letter ∈ str "0123456789abcdef" := by
  have digits : ∀ digit < 16, codePoint (Nat.digitChar digit) ∈ str "0123456789abcdef" := by decide
  induction count generalizing value with
  | zero =>
      intro letter member
      cases member
  | succ count ih =>
      intro letter member
      rcases List.mem_append.mp member with earlier | last
      · exact ih letter earlier
      · rw [List.mem_singleton.mp last]
        exact digits _ (Nat.mod_lt _ (by decide))

/-- The second letters of Go's escapes. -/
def escapeLetters : Str := str "\"\\abfnrtvxuU"

theorem quoteRune_escape {rune : CodePoint} (escaped : isRaw isPrint rune = false) :
    ∃ letter digits, quoteRune isPrint rune = codePoint '\\' :: letter :: digits ∧
      letter ∈ escapeLetters ∧ ∀ digit ∈ digits, digit ∈ str "0123456789abcdef" := by
  have inEscapes : ∀ entry ∈ goEscapes, entry.2 ∈ escapeLetters := by
    simp [goEscapes, escapeLetters, str]
  unfold isRaw at escaped
  unfold quoteRune
  by_cases special : rune = codePoint '"' ∨ rune = codePoint '\\'
  · rw [if_pos special]
    refine ⟨rune, [], rfl, ?_, by simp⟩
    rcases special with rfl | rfl <;> decide
  · obtain ⟨noQuote, noBackslash⟩ := not_or.mp special
    have unprintable : isPrint rune = false := by simpa [noQuote, noBackslash] using escaped
    rw [if_neg special, unprintable, if_neg Bool.false_ne_true]
    split
    · rename_i letter found
      obtain ⟨before, after, split, _⟩ := List.lookup_eq_some_iff.mp found
      have member : (rune.val, letter) ∈ goEscapes := by
        rw [split]
        exact List.mem_append_right _ List.mem_cons_self
      exact ⟨letter, [], rfl, inEscapes _ member, by simp⟩
    · split_ifs
      · exact ⟨_, _, rfl, by decide, hexDigits_letters⟩
      · exact ⟨_, _, rfl, by decide, hexDigits_letters⟩
      · exact ⟨_, _, rfl, by decide, hexDigits_letters⟩

theorem quoteRune_raw {rune : CodePoint} (raw : isRaw isPrint rune = true) :
    quoteRune isPrint rune = [rune] ∧ rune ≠ codePoint '"' ∧ rune ≠ codePoint '\\' ∧
      isPrint rune = true := by
  unfold isRaw at raw
  simp only [Bool.and_eq_true, decide_eq_true_eq, ne_eq] at raw
  obtain ⟨⟨noQuote, noBackslash⟩, printable⟩ := raw
  refine ⟨?_, noQuote, noBackslash, printable⟩
  unfold quoteRune
  rw [if_neg (not_or.mpr ⟨noQuote, noBackslash⟩), if_pos printable]

end Letters

/-! ### Decoding -/

section Decoding

variable {isPrint : CodePoint → Bool} {names : Str → Option CodePoint}

theorem hexEscape_hexDigits {count value : Nat} (bounded : value < 16 ^ count)
    (isPoint : value < 0x110000) (rest : Str) :
    hexEscape count (hexDigits count value ++ rest) = .ok (.emits [pointOf value] rest) := by
  have long : ¬ (hexDigits count value ++ rest).length < count := by
    rw [List.length_append, length_hexDigits]
    omega
  unfold hexEscape
  rw [if_neg long, hexNumber_take bounded]
  dsimp only
  rw [if_pos isPoint, List.drop_left' (length_hexDigits count value)]

theorem escapeStep_goEscapes :
    ∀ entry ∈ goEscapes, ∀ rest, escapeStep names (entry.2 :: rest) =
      .ok (.emits [pointOf entry.1] rest) := by
  intro entry member rest
  simp only [goEscapes, List.mem_cons, List.not_mem_nil, or_false] at member
  rcases member with rfl | rfl | rfl | rfl | rfl | rfl | rfl <;> rfl

def hexLetters : List (CodePoint × Nat) :=
  [(codePoint 'x', 2), (codePoint 'u', 4), (codePoint 'U', 8)]

theorem decodeStep_hexDigits {letter : CodePoint} {count : Nat}
    (listed : (letter, count) ∈ hexLetters) {rune : CodePoint} (bounded : rune.val < 16 ^ count)
    (rest : Str) : decodeStep names (codePoint '\\' :: letter :: hexDigits count rune.val ++ rest) =
      .ok (.emits [rune] rest) := by
  have escape : escapeStep names (letter :: (hexDigits count rune.val ++ rest)) =
      hexEscape count (hexDigits count rune.val ++ rest) := by
    simp only [hexLetters, List.mem_cons, List.not_mem_nil, or_false, Prod.mk.injEq] at listed
    rcases listed with ⟨rfl, rfl⟩ | ⟨rfl, rfl⟩ | ⟨rfl, rfl⟩ <;> rfl
  change escapeStep names (letter :: (hexDigits count rune.val ++ rest)) = _
  rw [escape, hexEscape_hexDigits bounded rune.isLt, pointOf_val]

theorem decodeStep_escape {rune : CodePoint} (escaped : isRaw isPrint rune = false) (rest : Str) :
    decodeStep names (quoteRune isPrint rune ++ rest) = .ok (.emits [rune] rest) := by
  have bound := rune.isLt
  have backslash (text : Str) : decodeStep names (codePoint '\\' :: text) =
      escapeStep names text := rfl
  unfold isRaw at escaped
  unfold quoteRune
  by_cases special : rune = codePoint '"' ∨ rune = codePoint '\\'
  · rw [if_pos special, List.cons_append, backslash]
    rcases special with rfl | rfl <;> rfl
  · obtain ⟨noQuote, noBackslash⟩ := not_or.mp special
    have unprintable : isPrint rune = false := by simpa [noQuote, noBackslash] using escaped
    rw [if_neg special, unprintable, if_neg Bool.false_ne_true]
    split
    · rename_i letter found
      obtain ⟨before, after, split, _⟩ := List.lookup_eq_some_iff.mp found
      have member : (rune.val, letter) ∈ goEscapes := by
        rw [split]
        exact List.mem_append_right _ List.mem_cons_self
      rw [List.cons_append, backslash, List.cons_append, escapeStep_goEscapes _ member]
      simp
    · split_ifs with control basic
      · exact decodeStep_hexDigits (by decide) (by omega) rest
      · exact decodeStep_hexDigits (by decide) (by omega) rest
      · exact decodeStep_hexDigits (by decide) (by omega) rest

theorem utf8Letters_ne_backslash {rune letter : CodePoint} (other : rune ≠ codePoint '\\')
    (member : letter ∈ utf8Letters rune) : letter ≠ codePoint '\\' := by
  by_cases ascii : rune.val < 0x80
  · rw [utf8Letters_ascii ascii, List.mem_singleton] at member
    rw [member]
    exact other
  · rintro rfl
    exact absurd ((utf8Letters_beyond (not_lt.mp ascii)).1 _ member).1 (by decide)

theorem runeWords_read {rune : CodePoint} {word : Str × Str}
    (member : word ∈ runeWords isPrint rune) (rest : Str) :
    decodeStep names (word.1 ++ rest) = .ok (.emits word.2 rest) := by
  unfold runeWords at member
  cases raw : isRaw isPrint rune with
  | true =>
      rw [raw, if_pos rfl] at member
      obtain ⟨letter, inLetters, rfl⟩ := List.mem_map.mp member
      have noBackslash := utf8Letters_ne_backslash (quoteRune_raw raw).2.2.1 inLetters
      exact if_neg noBackslash
  | false =>
      rw [raw, if_neg Bool.false_ne_true] at member
      rw [List.mem_singleton.mp member]
      exact decodeStep_escape raw rest

theorem runeWords_ne_nil {rune : CodePoint} {word : Str × Str}
    (member : word ∈ runeWords isPrint rune) : word.1 ≠ [] := by
  unfold runeWords at member
  cases raw : isRaw isPrint rune with
  | true =>
      rw [raw, if_pos rfl] at member
      obtain ⟨letter, _, rfl⟩ := List.mem_map.mp member
      exact List.cons_ne_nil _ _
  | false =>
      rw [raw, if_neg Bool.false_ne_true] at member
      obtain ⟨letter, digits, quoted, _⟩ := quoteRune_escape raw
      rw [List.mem_singleton.mp member, quoted]
      exact List.cons_ne_nil _ _

theorem quoteRune_ascii {rune : CodePoint} (escaped : isRaw isPrint rune = false) :
    ∀ letter ∈ quoteRune isPrint rune, letter.val < 0x80 := by
  have small (letters : Str) (ascii : letters.all (fun letter => letter.val < 0x80) = true) :
      ∀ letter ∈ letters, letter.val < 0x80 :=
    fun letter member => of_decide_eq_true (List.all_eq_true.mp ascii letter member)
  obtain ⟨second, digits, quoted, inLetters, inDigits⟩ := quoteRune_escape escaped
  rw [quoted]
  intro letter member
  rcases List.mem_cons.mp member with rfl | later
  · decide
  · rcases List.mem_cons.mp later with rfl | digit
    · exact small escapeLetters (by decide) _ inLetters
    · exact small (str "0123456789abcdef") (by decide) _ (inDigits _ digit)

theorem flatMap_utf8Letters_ascii {text : Str} (ascii : ∀ letter ∈ text, letter.val < 0x80) :
    text.flatMap utf8Letters = text := by
  induction text with
  | nil => rfl
  | cons letter rest ih =>
      rw [List.flatMap_cons, utf8Letters_ascii (ascii letter List.mem_cons_self),
        ih fun other member => ascii other (List.mem_cons_of_mem _ member), List.singleton_append]

theorem runeWords_code (rune : CodePoint) :
    (runeWords isPrint rune).flatMap Prod.fst = (quoteRune isPrint rune).flatMap utf8Letters := by
  unfold runeWords
  cases raw : isRaw isPrint rune with
  | true =>
      rw [if_pos rfl, (quoteRune_raw raw).1, List.flatMap_singleton, List.flatMap_map]
      exact List.flatMap_singleton' _
  | false =>
      rw [if_neg Bool.false_ne_true, List.flatMap_singleton,
        flatMap_utf8Letters_ascii (quoteRune_ascii raw)]

theorem runeWords_meaning (rune : CodePoint) :
    (runeWords isPrint rune).flatMap Prod.snd = mangledRune isPrint rune := by
  unfold runeWords mangledRune
  cases isRaw isPrint rune with
  | true =>
      rw [if_pos rfl, if_pos rfl, List.flatMap_map]
      exact List.flatMap_singleton' _
  | false => rfl

theorem map_latin1_encodeUtf8 (text : Str) :
    (encodeUtf8 text).map latin1 = text.flatMap utf8Letters := by
  unfold encodeUtf8
  rw [List.map_flatMap]
  rfl

/-- A quoted text comes back with its printable letters beyond ASCII mangled. -/
theorem decodeUnicodeEscape_quoteBody (text : Str) :
    decodeUnicodeEscape names (encodeUtf8 (quoteBody isPrint text)) =
      .ok (mangled isPrint text) := by
  let words := text.flatMap (runeWords isPrint)
  have code : (encodeUtf8 (quoteBody isPrint text)).map latin1 = words.flatMap Prod.fst := by
    rw [map_latin1_encodeUtf8]
    unfold quoteBody
    rw [List.flatMap_assoc, List.flatMap_assoc]
    simp only [runeWords_code]
  have meaning : words.flatMap Prod.snd = mangled isPrint text := by
    rw [List.flatMap_assoc]
    simp only [runeWords_meaning]
    rfl
  have inWords {word : Str × Str} (member : word ∈ words) :
      ∃ rune, word ∈ runeWords isPrint rune := by
    obtain ⟨rune, _, inRune⟩ := List.mem_flatMap.mp member
    exact ⟨rune, inRune⟩
  have enough : words.length < (encodeUtf8 (quoteBody isPrint text)).length + 1 := by
    have lengths : words.length ≤ (words.flatMap Prod.fst).length :=
      length_le_flatMap fun word member => runeWords_ne_nil (inWords member).choose_spec
    rw [← code, List.length_map] at lengths
    omega
  have scanned : scan () (decodeStep names) ((encodeUtf8 (quoteBody isPrint text)).length + 1)
      (words.flatMap Prod.fst ++ []) = .ok (words.flatMap Prod.snd, []) :=
    scan_words (fun word member rest => runeWords_read (inWords member).choose_spec rest) rfl enough
  rw [List.append_nil, ← code, meaning] at scanned
  unfold decodeUnicodeEscape
  rw [scanned]
  rfl

end Decoding

end ImagePipeline.Loadtest
