/-
The log files of a run, their lines, and the two patterns by which the timelines
take a line apart.
-/

import ImagePipeline.Common.Text

namespace ImagePipeline.Benchmark

open Common

structure FileText where
  text : Str
  decoded : encodable text = true

/-- A file under `logs/`, or under `nodes/<node>/logs/`. -/
structure LogFile where
  node : Option Str
  container : Str
  content : FileText
  names : encodable (node.getD []) = true ∧ encodable container = true

/-- What is analysed after a run: the log files in the order of `glob`, and
`k6_stdout.txt` if there is one. -/
structure RunLogs where
  logFiles : List LogFile
  k6Stdout : Option FileText

/-- The letters at which `str.splitlines` ends a line. -/
def isLineBreak (letter : CodePoint) : Bool :=
  (0x0A ≤ letter.val && letter.val ≤ 0x0D) || (0x1C ≤ letter.val && letter.val ≤ 0x1E) ||
    letter.val = 0x85 || letter.val = 0x2028 || letter.val = 0x2029

/-- The lines of a text that goes on behind the beginning of one. -/
def splitLinesFrom (line : Str) : Str → List Str
  | [] => if line = [] then [] else [line]
  | letter :: rest =>
      if letter = codePoint '\r' ∧ rest.head? = some (codePoint '\n') then splitLinesFrom line rest
      else if isLineBreak letter then line :: splitLinesFrom [] rest
      else splitLinesFrom (line ++ [letter]) rest

/-- `text.splitlines()`. -/
def splitLines (text : Str) : List Str := splitLinesFrom [] text

/-- A line of a log file. -/
structure LogLine where
  node : Str
  container : Str
  line : Str

def LogFile.lines (log : LogFile) : List LogLine :=
  (splitLines log.content.text).map (fun line =>
    { node := log.node.getD (str "local")
      container := log.container
      line := line })

def RunLogs.logLines (run : RunLogs) : List LogLine := run.logFiles.flatMap LogFile.lines

def RunLogs.k6Lines (run : RunLogs) : List Str :=
  match run.k6Stdout with
  | none => []
  | some content => splitLines content.text

/-- The groups of `TIMESTAMP_PATTERN`, `^(\S+)\s+(.*)$`: a line ends before its
line break. -/
def matchTimestamp (line : Str) : Option (Str × Str) :=
  let timestamp := line.takeWhile (fun letter => !isSpace letter)
  let rest := line.dropWhile (fun letter => !isSpace letter)
  if timestamp = [] ∨ rest = [] then none else some (timestamp, rest.dropWhile isSpace)

/-- The rest of `K6_MSG_PATTERN` behind the opening quote, `((?:\\.|[^"])*)"`. A
backslash takes the next letter along, or else stands alone. -/
def matchMessage : Str → Option Str
  | [] => none
  | letter :: rest =>
      let escaped : Option Str :=
        match rest with
        | [] => none
        | next :: more =>
            if letter = codePoint '\\' ∧ next ≠ codePoint '\n' then
              (matchMessage more).map (fun group => letter :: next :: group)
            else none
      let plain : Option Str :=
        if letter ≠ codePoint '"' then (matchMessage rest).map (fun group => letter :: group)
        else none
      let closed : Option Str := if letter = codePoint '"' then some [] else none
      (escaped.or plain).or closed

/-- `K6_MSG_PATTERN.search(line)`, by its group. -/
def searchMessage : Str → Option Str
  | [] => none
  | letter :: rest =>
      if (str "msg=\"").isPrefixOf (letter :: rest) then
        (matchMessage ((letter :: rest).drop 5)).or (searchMessage rest)
      else searchMessage rest

/-! ### Lines -/

theorem splitLinesFrom_line {text : Str} (plain : ∀ letter ∈ text, isLineBreak letter = false)
    (begun rest : Str) :
    splitLinesFrom begun (text ++ codePoint '\n' :: rest) = (begun ++ text) :: splitLines rest := by
  induction text generalizing begun with
  | nil =>
      have noReturn : ¬ (codePoint '\n' = codePoint '\r' ∧ rest.head? = some (codePoint '\n')) :=
        fun both => absurd both.1 (by decide)
      rw [List.nil_append, List.append_nil, splitLinesFrom, if_neg noReturn, if_pos (by decide)]
      rfl
  | cons letter more ih =>
      have noBreak := plain letter List.mem_cons_self
      have noReturn : letter ≠ codePoint '\r' := by
        rintro rfl
        revert noBreak
        decide
      rw [List.cons_append, splitLinesFrom, if_neg fun both => noReturn both.1, noBreak,
        if_neg Bool.false_ne_true,
        ih fun other member => plain other (List.mem_cons_of_mem _ member), List.append_assoc,
        List.singleton_append]

theorem splitLinesFrom_append (begun earlier rest : Str) :
    splitLinesFrom begun (earlier ++ codePoint '\n' :: rest) =
      splitLinesFrom begun (earlier ++ [codePoint '\n']) ++ splitLines rest := by
  induction earlier generalizing begun with
  | nil =>
      have line (after : Str) :
          splitLinesFrom begun (codePoint '\n' :: after) = (begun ++ []) :: splitLines after :=
        splitLinesFrom_line (fun letter member => absurd member List.not_mem_nil) begun after
      rw [List.nil_append, List.nil_append, line rest, line []]
      rfl
  | cons letter more ih =>
      have sameHead : (more ++ codePoint '\n' :: rest).head? =
          (more ++ [codePoint '\n']).head? := by
        cases more <;> rfl
      rw [List.cons_append, List.cons_append, splitLinesFrom, splitLinesFrom, sameHead]
      split_ifs
      · exact ih begun
      · rw [ih [], List.cons_append]
      · exact ih _

theorem splitLines_append {earlier : Str}
    (complete : earlier = [] ∨ ∃ lines, earlier = lines ++ [codePoint '\n']) (rest : Str) :
    splitLines (earlier ++ rest) = splitLines earlier ++ splitLines rest := by
  rcases complete with rfl | ⟨lines, rfl⟩
  · rfl
  · rw [List.append_assoc]
    exact splitLinesFrom_append [] lines rest

/-! ### Messages -/

theorem matchMessage_closed (rest : Str) : matchMessage (codePoint '"' :: rest) = some [] := by
  have noBackslash : codePoint '"' ≠ codePoint '\\' := by decide
  cases rest with
  | nil => rfl
  | cons next more =>
      rw [matchMessage]
      simp only [noBackslash, false_and, if_false, ne_eq, not_true, if_true, Option.none_or]

theorem matchMessage_plain {letter : CodePoint} {rest group : Str}
    (noQuote : letter ≠ codePoint '"') (noBackslash : letter ≠ codePoint '\\')
    (matched : matchMessage rest = some group) :
    matchMessage (letter :: rest) = some (letter :: group) := by
  cases rest with
  | nil => cases matched
  | cons next more =>
      rw [matchMessage, matched]
      simp only [noBackslash, false_and, if_false, ne_eq, noQuote, not_false_eq_true, if_true,
        Option.map_some, Option.none_or, Option.some_or]

theorem matchMessage_plains {text rest group : Str}
    (plain : ∀ letter ∈ text, letter ≠ codePoint '"' ∧ letter ≠ codePoint '\\')
    (matched : matchMessage rest = some group) :
    matchMessage (text ++ rest) = some (text ++ group) := by
  induction text with
  | nil => exact matched
  | cons letter more ih =>
      have atLetter := plain letter List.mem_cons_self
      exact matchMessage_plain atLetter.1 atLetter.2
        (ih fun other member => plain other (List.mem_cons_of_mem _ member))

theorem matchMessage_escape {letter : CodePoint} {rest group : Str}
    (noNewline : letter ≠ codePoint '\n') (matched : matchMessage rest = some group) :
    matchMessage (codePoint '\\' :: letter :: rest) = some (codePoint '\\' :: letter :: group) := by
  rw [matchMessage, matched]
  simp only [ne_eq, noNewline, not_false_eq_true, and_self, if_true, Option.map_some,
    Option.some_or]

/-- A pattern whose letters differ does not begin within itself. -/
theorem not_prefix_append {pattern before rest : Str} (distinct : pattern.Nodup)
    (nonempty : before ≠ []) (absent : ¬ pattern <+: before) :
    ¬ pattern <+: before ++ (pattern ++ rest) := by
  intro ⟨after, same⟩
  by_cases long : pattern.length ≤ before.length
  · exact absent (List.prefix_of_prefix_length_le ⟨after, same⟩ (List.prefix_append _ _) long)
  · have short : before.length < pattern.length := not_le.mp long
    have positive : 0 < before.length := List.length_pos_iff.mpr nonempty
    -- the pattern's first letter would stand in it once more
    have inFront : (pattern ++ after)[before.length]? = pattern[before.length]? :=
      List.getElem?_append_left short
    have twice : pattern[before.length]? = pattern[0]? := by
      rw [← inFront, same, List.getElem?_append_right (Nat.le_refl _), Nat.sub_self,
        List.getElem?_append_left (positive.trans short)]
    exact absurd ((List.getElem?_inj short distinct).mp twice) (by omega)

theorem searchMessage_append {before rest group : Str} (first : ¬ str "msg=\"" <:+: before)
    (matched : matchMessage rest = some group) :
    searchMessage (before ++ (str "msg=\"" ++ rest)) = some group := by
  have distinct : (str "msg=\"").Nodup := by decide
  induction before with
  | nil =>
      have isPrefix : (str "msg=\"").isPrefixOf (str "msg=\"" ++ rest) = true :=
        List.isPrefixOf_iff_prefix.mpr (List.prefix_append _ _)
      change searchMessage (codePoint 'm' :: (str "sg=\"" ++ rest)) = _
      rw [searchMessage]
      change (str "msg=\"").isPrefixOf (codePoint 'm' :: (str "sg=\"" ++ rest)) = true at isPrefix
      rw [if_pos isPrefix]
      change (matchMessage rest).or _ = _
      rw [matched]
      rfl
  | cons letter more ih =>
      have later : ¬ str "msg=\"" <:+: more := fun inMore => first (List.infix_cons inMore)
      have noPrefix : (str "msg=\"").isPrefixOf (letter :: (more ++ (str "msg=\"" ++ rest))) ≠
          true := fun isPrefix => not_prefix_append distinct (List.cons_ne_nil letter more)
        (fun atFront => first atFront.isInfix) (List.isPrefixOf_iff_prefix.mp isPrefix)
      rw [List.cons_append, searchMessage, if_neg noPrefix]
      exact ih later

end ImagePipeline.Benchmark
