/-
Rows of fields as delimiter-separated text. The writer puts quotes around a
field only where they are needed; the reader is a state machine that is fed one
line after the other, and a quoted field may go on over several lines.
-/

import ImagePipeline.Library.Itemwise
import ImagePipeline.Library.Readable
import Mathlib.Data.List.TakeWhile

namespace ImagePipeline.Library

/-- The letters with a meaning of their own, and the longest field that is read. -/
structure CsvDialect (α : Type) where
  delimiter : α
  quote : α
  carriageReturn : α
  lineFeed : α
  distinct : [delimiter, quote, carriageReturn, lineFeed].Nodup
  fieldLimit : Nat

namespace CsvDialect

theorem delimiter_ne_quote {α : Type} {dialect : CsvDialect α} :
    dialect.delimiter ≠ dialect.quote := by
  have different := dialect.distinct
  simp only [List.nodup_cons, List.mem_cons, List.not_mem_nil, or_false, not_or] at different
  exact different.1.1

theorem carriageReturn_ne {α : Type} {dialect : CsvDialect α} :
    dialect.carriageReturn ≠ dialect.lineFeed ∧ dialect.delimiter ≠ dialect.carriageReturn ∧
      dialect.quote ≠ dialect.carriageReturn ∧ dialect.delimiter ≠ dialect.lineFeed ∧
      dialect.quote ≠ dialect.lineFeed := by
  have different := dialect.distinct
  simp only [List.nodup_cons, List.mem_cons, List.not_mem_nil, or_false, not_or] at different
  exact ⟨different.2.2.1, different.1.2.1, different.2.1.1, different.1.2.2, different.2.1.2⟩

variable {α : Type} [DecidableEq α] (dialect : CsvDialect α)

def isNewline (letter : α) : Bool :=
  letter = dialect.lineFeed || letter = dialect.carriageReturn

def isSpecial (letter : α) : Bool :=
  letter = dialect.delimiter || letter = dialect.quote || dialect.isNewline letter

/-! ### Writing -/

def quotedLetter (letter : α) : List α :=
  if letter = dialect.quote then [letter, letter] else [letter]

def quoted (field : List α) : List α :=
  dialect.quote :: (field.flatMap dialect.quotedLetter ++ [dialect.quote])

def writeField (field : List α) : List α :=
  if field.any dialect.isSpecial then dialect.quoted field else field

/-- A row whose only field is empty would be taken for an empty line. -/
def writeRow (terminator : List α) : List (List α) → List α
  | [[]] => dialect.quoted [] ++ terminator
  | fields => joinWith dialect.delimiter (fields.map dialect.writeField) ++ terminator

/-- No field of the row is too long to be read. -/
def fits (row : List (List α)) : Bool :=
  row.all (fun field => field.length ≤ dialect.fieldLimit)

def writeRows (terminator : List α) (rows : List (List (List α))) : List α :=
  rows.flatMap (dialect.writeRow terminator)

/-! ### Reading -/

/-- The lines of a text behind the beginning of one, with their ends: a line
feed, a carriage return or both. -/
def linesFrom (line : List α) : List α → List (List α)
  | [] => if line = [] then [] else [line]
  | letter :: rest =>
      if letter = dialect.lineFeed then (line ++ [letter]) :: linesFrom [] rest
      else if letter = dialect.carriageReturn ∧ rest.head? ≠ some dialect.lineFeed then
        (line ++ [letter]) :: linesFrom [] rest
      else linesFrom (line ++ [letter]) rest

def lines (text : List α) : List (List α) := dialect.linesFrom [] text

inductive State where
  | startRecord
  | startField
  | inField
  | inQuotedField
  | quoteInQuotedField
  | eatNewline
  deriving DecidableEq

inductive ReadError where
  | fieldTooLong
  | strayNewline
  deriving DecidableEq

/-- The field that is being read, and the fields of the row before it. -/
structure Reader (α : Type) where
  state : State
  field : List α
  fields : List (List α)

def Reader.fresh : Reader α :=
  { state := .startRecord
    field := []
    fields := [] }

def Reader.saveField (reader : Reader α) (state : State) : Reader α :=
  { state
    field := []
    fields := reader.fields ++ [reader.field] }

def addLetter (reader : Reader α) (state : State) (letter : α) :
    Except ReadError (Reader α) :=
  if dialect.fieldLimit ≤ reader.field.length then .error .fieldTooLong
  else .ok { reader with state, field := reader.field ++ [letter] }

/-- A letter where a field may begin, or the end of the line. -/
def startField (reader : Reader α) : Option α → Except ReadError (Reader α)
  | none => .ok (reader.saveField .startRecord)
  | some letter =>
      if dialect.isNewline letter then .ok (reader.saveField .eatNewline)
      else if letter = dialect.quote then .ok { reader with state := .inQuotedField }
      else if letter = dialect.delimiter then .ok (reader.saveField .startField)
      else dialect.addLetter reader .inField letter

/-- One letter of a line, or the end of the line. -/
def step (reader : Reader α) (item : Option α) : Except ReadError (Reader α) :=
  match reader.state with
  | .startRecord =>
      match item with
      | none => .ok reader
      | some letter =>
          if dialect.isNewline letter then .ok { reader with state := .eatNewline }
          else dialect.startField reader item
  | .startField => dialect.startField reader item
  | .inField =>
      match item with
      | none => .ok (reader.saveField .startRecord)
      | some letter =>
          if dialect.isNewline letter then .ok (reader.saveField .eatNewline)
          else if letter = dialect.delimiter then .ok (reader.saveField .startField)
          else dialect.addLetter reader .inField letter
  | .inQuotedField =>
      match item with
      | none => .ok reader
      | some letter =>
          if letter = dialect.quote then .ok { reader with state := .quoteInQuotedField }
          else dialect.addLetter reader .inQuotedField letter
  | .quoteInQuotedField =>
      match item with
      | none => .ok (reader.saveField .startRecord)
      | some letter =>
          if letter = dialect.quote then dialect.addLetter reader .inQuotedField letter
          else if letter = dialect.delimiter then .ok (reader.saveField .startField)
          else if dialect.isNewline letter then .ok (reader.saveField .eatNewline)
          else dialect.addLetter reader .inField letter
  | .eatNewline =>
      match item with
      | none => .ok { reader with state := .startRecord }
      | some letter =>
          if dialect.isNewline letter then .ok reader else .error .strayNewline

def feed (reader : Reader α) (line : List α) : Except ReadError (Reader α) :=
  line.foldlM (fun current letter => dialect.step current (some letter)) reader

def readLine (reader : Reader α) (line : List α) : Except ReadError (Reader α) := do
  let after ← dialect.feed reader line
  dialect.step after none

/-- The rows up to the end of the text, or up to an exception. -/
structure Rows (α : Type) where
  rows : List (List (List α))
  raised : Option ReadError

def Rows.cons (row : List (List α)) (rest : Rows α) : Rows α :=
  { rest with rows := row :: rest.rows }

/-- A text that ends inside of a row still gives that row. -/
def rowsFrom (reader : Reader α) : List (List α) → Rows α
  | [] =>
      if reader.field ≠ [] ∨ reader.state = .inQuotedField then
        ⟨[reader.fields ++ [reader.field]], none⟩
      else ⟨[], none⟩
  | line :: rest =>
      match dialect.readLine reader line with
      | .error raised => ⟨[], some raised⟩
      | .ok after =>
          if after.state = .startRecord then .cons after.fields (rowsFrom .fresh rest)
          else rowsFrom after rest

def readRows (text : List α) : Rows α := dialect.rowsFrom .fresh (dialect.lines text)

/-- A text with a line feed at the end of each line. -/
def translated : List α → List α
  | [] => []
  | letter :: rest =>
      if letter = dialect.carriageReturn then
        if rest.head? = some dialect.lineFeed then translated rest
        else dialect.lineFeed :: translated rest
      else letter :: translated rest

/-! ### What a text gives from inside of a line -/

section Yielding

variable {dialect}

theorem feed_snoc {before here next : Reader α} {line : List α} {letter : α}
    (fed : dialect.feed before line = .ok here)
    (stepped : dialect.step here (some letter) = .ok next) :
    dialect.feed before (line ++ [letter]) = .ok next := by
  unfold feed at fed ⊢
  rw [List.foldlM_append, fed]
  change dialect.step here (some letter) >>= pure = .ok next
  rw [stepped]
  rfl

/-- Whatever line has brought a reader here, these are the rows from there on. -/
def Yields (dialect : CsvDialect α) (here : Reader α) (text : List α) (rows : Rows α) : Prop :=
  ∀ before line, dialect.feed before line = .ok here →
    dialect.rowsFrom before (dialect.linesFrom line text) = rows

theorem Yields.readRows_eq {text : List α} {rows : Rows α}
    (yields : dialect.Yields .fresh text rows) :
    dialect.readRows text = rows := yields .fresh [] rfl

theorem Yields.letter {here : Reader α} (next : Reader α) {letter : α} {rest : List α}
    {rows : Rows α} (inside : dialect.isNewline letter = false)
    (stepped : dialect.step here (some letter) = .ok next)
    (later : dialect.Yields next rest rows) : dialect.Yields here (letter :: rest) rows := by
  intro before line fed
  simp only [isNewline, Bool.or_eq_false_iff, decide_eq_false_iff_not] at inside
  rw [linesFrom, if_neg inside.1, if_neg (fun both => inside.2 both.1)]
  exact later before _ (feed_snoc fed stepped)

theorem Yields.newline {here next : Reader α} {letter : α} {rest : List α} {rows : Rows α}
    (stepped : dialect.step here (some letter) = .ok next) (quoted : next.state = .inQuotedField)
    (later : dialect.Yields next rest rows) : dialect.Yields here (letter :: rest) rows := by
  intro before line fed
  have fedAll := feed_snoc fed stepped
  have ended : dialect.readLine before (line ++ [letter]) = .ok next := by
    rw [readLine, fedAll]
    change dialect.step next none = .ok next
    unfold step
    rw [quoted]
  have rowEnds :
      dialect.rowsFrom before ((line ++ [letter]) :: dialect.linesFrom [] rest) = rows := by
    rw [rowsFrom, ended]
    simp only [quoted, reduceCtorEq, if_false]
    exact later next [] rfl
  rw [linesFrom]
  split_ifs with feed alone
  · exact rowEnds
  · exact rowEnds
  · exact later before _ fedAll

/-- What may end the line of a row. -/
inductive Terminates (dialect : CsvDialect α) : List α → Prop where
  | both : Terminates dialect [dialect.carriageReturn, dialect.lineFeed]
  | lineFeed : Terminates dialect [dialect.lineFeed]

theorem isNewline_lineFeed : dialect.isNewline dialect.lineFeed = true := by
  simp [isNewline]

theorem isNewline_carriageReturn : dialect.isNewline dialect.carriageReturn = true := by
  simp [isNewline]

theorem Yields.rowEnd {here : Reader α} {row : List (List α)} {terminator rest : List α}
    (terminates : dialect.Terminates terminator)
    (closes : ∀ letter, dialect.isNewline letter = true →
      dialect.step here (some letter) = .ok ⟨.eatNewline, [], row⟩) :
    dialect.Yields here (terminator ++ rest) (.cons row (dialect.readRows rest)) := by
  intro before line fed
  have different := dialect.distinct
  simp only [List.nodup_cons, List.mem_cons, List.not_mem_nil, or_false, not_or] at different
  have ended {whole : List α} (fedAll : dialect.feed before whole = .ok ⟨.eatNewline, [], row⟩) :
      dialect.rowsFrom before (whole :: dialect.linesFrom [] rest) =
        .cons row (dialect.readRows rest) := by
    have read : dialect.readLine before whole = .ok ⟨.startRecord, [], row⟩ := by
      rw [readLine, fedAll]
      rfl
    rw [rowsFrom, read]
    simp only [if_true]
    rfl
  cases terminates with
  | both =>
      have first := feed_snoc fed (closes _ isNewline_carriageReturn)
      have second : dialect.feed before (line ++ [dialect.carriageReturn] ++ [dialect.lineFeed]) =
          .ok ⟨.eatNewline, [], row⟩ := by
        refine feed_snoc first ?_
        simp only [step, isNewline_lineFeed, if_true]
      rw [List.cons_append, linesFrom, if_neg different.2.2.1, if_neg (fun both => both.2 rfl),
        List.cons_append, linesFrom, if_pos rfl]
      exact ended second
  | lineFeed =>
      rw [List.cons_append, linesFrom, if_pos rfl]
      exact ended (feed_snoc fed (closes _ isNewline_lineFeed))

theorem linesFrom_head (dialect : CsvDialect α) (line : List α) (letter : α) (rest : List α) :
    ∃ more later, dialect.linesFrom line (letter :: rest) = (line ++ letter :: more) :: later := by
  induction rest generalizing line letter with
  | nil =>
      rw [linesFrom]
      split_ifs with feed alone
      · exact ⟨[], _, rfl⟩
      · exact ⟨[], _, rfl⟩
      · refine ⟨[], [], ?_⟩
        rw [linesFrom, if_neg (List.append_ne_nil_of_right_ne_nil line (List.cons_ne_nil _ _))]
  | cons next rest ih =>
      rw [linesFrom]
      split_ifs with feed alone
      · exact ⟨[], _, rfl⟩
      · exact ⟨[], _, rfl⟩
      · obtain ⟨more, later, split⟩ := ih (line ++ [letter]) next
        refine ⟨next :: more, later, ?_⟩
        rw [split, List.append_assoc]
        rfl

theorem Yields.raises {here : Reader α} {letter : α} {rest : List α} {raised : ReadError}
    (failed : dialect.step here (some letter) = .error raised) :
    dialect.Yields here (letter :: rest) ⟨[], some raised⟩ := by
  intro before line fed
  obtain ⟨more, later, split⟩ := linesFrom_head dialect line letter rest
  have raises : dialect.readLine before (line ++ letter :: more) = .error raised := by
    unfold feed at fed
    rw [readLine, feed, List.foldlM_append, fed]
    change (dialect.step here (some letter) >>= _) >>= _ = _
    rw [failed]
    rfl
  rw [split, rowsFrom, raises]

/-! ### Fields -/

theorem Special.ne {letter : α} (plain : dialect.isSpecial letter = false) :
    letter ≠ dialect.delimiter ∧ letter ≠ dialect.quote ∧ dialect.isNewline letter = false := by
  simp only [isSpecial, Bool.or_eq_false_iff, decide_eq_false_iff_not] at plain
  exact ⟨plain.1.1, plain.1.2, plain.2⟩

theorem isNewline_quote : dialect.isNewline dialect.quote = false := by
  have different := dialect.distinct
  simp only [List.nodup_cons, List.mem_cons, List.not_mem_nil, or_false, not_or] at different
  simp only [isNewline, Bool.or_eq_false_iff, decide_eq_false_iff_not]
  exact ⟨different.2.1.2, different.2.1.1⟩

theorem isNewline_delimiter : dialect.isNewline dialect.delimiter = false := by
  have different := dialect.distinct
  simp only [List.nodup_cons, List.mem_cons, List.not_mem_nil, or_false, not_or] at different
  simp only [isNewline, Bool.or_eq_false_iff, decide_eq_false_iff_not]
  exact ⟨different.1.2.2, different.1.2.1⟩

/-- A reader behind the last letter of a field. -/
structure Read (dialect : CsvDialect α) (fields : List (List α)) (field : List α)
    (reader : Reader α) : Prop where
  delimiter : dialect.step reader (some dialect.delimiter) =
    .ok ⟨.startField, [], fields ++ [field]⟩
  newline : ∀ letter, dialect.isNewline letter = true →
    dialect.step reader (some letter) = .ok ⟨.eatNewline, [], fields ++ [field]⟩

theorem Read.empty (fields : List (List α)) : dialect.Read fields [] ⟨.startField, [], fields⟩ where
  delimiter := by
    simp only [step, startField, isNewline_delimiter, delimiter_ne_quote, Bool.false_eq_true,
      if_false, if_true, Reader.saveField]
  newline letter ends := by
    simp only [step, startField, ends, if_true, Reader.saveField]

theorem Read.plain (fields : List (List α)) (field : List α) :
    dialect.Read fields field ⟨.inField, field, fields⟩ where
  delimiter := by
    simp only [step, isNewline_delimiter, Bool.false_eq_true, if_false, if_true, Reader.saveField]
  newline letter ends := by
    simp only [step, ends, if_true, Reader.saveField]

theorem Read.quoted (fields : List (List α)) (field : List α) :
    dialect.Read fields field ⟨.quoteInQuotedField, field, fields⟩ where
  delimiter := by
    simp only [step, delimiter_ne_quote, if_false, if_true, Reader.saveField]
  newline letter ends := by
    have notQuote : letter ≠ dialect.quote := by
      rintro rfl
      rw [isNewline_quote] at ends
      cases ends
    have notDelimiter : letter ≠ dialect.delimiter := by
      rintro rfl
      rw [isNewline_delimiter] at ends
      cases ends
    simp only [step, notQuote, notDelimiter, ends, if_false, if_true, Reader.saveField]

variable {fields : List (List α)} {rest : List α} {rows : Rows α}

theorem Yields.quotedLetter {field : List α} {letter : α}
    (fits : field.length < dialect.fieldLimit)
    (later : dialect.Yields ⟨.inQuotedField, field ++ [letter], fields⟩ rest rows) :
    dialect.Yields ⟨.inQuotedField, field, fields⟩ (dialect.quotedLetter letter ++ rest) rows := by
  have room : ¬dialect.fieldLimit ≤ field.length := by omega
  unfold CsvDialect.quotedLetter
  by_cases quote : letter = dialect.quote
  · subst quote
    rw [if_pos rfl]
    refine .letter ⟨.quoteInQuotedField, field, fields⟩ isNewline_quote ?_
      (.letter ⟨.inQuotedField, field ++ [dialect.quote], fields⟩ isNewline_quote ?_ later)
    · simp only [step, if_true]
    · simp only [step, addLetter, room, if_true, if_false]
  · have stepped : dialect.step ⟨.inQuotedField, field, fields⟩ (some letter) =
        .ok ⟨.inQuotedField, field ++ [letter], fields⟩ := by
      simp only [step, addLetter, quote, room, if_false]
    rw [if_neg quote]
    exact .newline stepped rfl later

theorem Yields.quotedOver {field : List α} {letter : α}
    (full : dialect.fieldLimit ≤ field.length) :
    dialect.Yields ⟨.inQuotedField, field, fields⟩ (dialect.quotedLetter letter ++ rest)
      ⟨[], some .fieldTooLong⟩ := by
  unfold CsvDialect.quotedLetter
  by_cases quote : letter = dialect.quote
  · subst quote
    rw [if_pos rfl]
    refine .letter ⟨.quoteInQuotedField, field, fields⟩ isNewline_quote ?_ (.raises ?_)
    · simp only [step, if_true]
    · simp only [step, addLetter, full, if_true]
  · rw [if_neg quote]
    refine .raises ?_
    simp only [step, addLetter, quote, full, if_false, if_true]

theorem Yields.quotedLetters {field letters : List α}
    (fits : field.length + letters.length ≤ dialect.fieldLimit)
    (later : dialect.Yields ⟨.inQuotedField, field ++ letters, fields⟩ rest rows) :
    dialect.Yields ⟨.inQuotedField, field, fields⟩
      (letters.flatMap dialect.quotedLetter ++ rest) rows := by
  induction letters generalizing field with
  | nil =>
      rw [List.append_nil] at later
      exact later
  | cons letter letters ih =>
      rw [List.length_cons] at fits
      rw [List.flatMap_cons, List.append_assoc]
      refine .quotedLetter (by omega) (ih ?_ ?_)
      · rw [List.length_append, List.length_singleton]
        omega
      · rw [List.append_assoc]
        exact later

theorem Yields.quotedTooLong {field letters : List α} (start : field.length ≤ dialect.fieldLimit)
    (long : dialect.fieldLimit < field.length + letters.length) :
    dialect.Yields ⟨.inQuotedField, field, fields⟩
      (letters.flatMap dialect.quotedLetter ++ rest) ⟨[], some .fieldTooLong⟩ := by
  induction letters generalizing field with
  | nil => exact absurd long (Nat.not_lt.mpr start)
  | cons letter letters ih =>
      rw [List.length_cons] at long
      rw [List.flatMap_cons, List.append_assoc]
      by_cases full : dialect.fieldLimit ≤ field.length
      · exact .quotedOver full
      · refine .quotedLetter (by omega) (ih ?_ ?_)
        · rw [List.length_append, List.length_singleton]
          omega
        · rw [List.length_append, List.length_singleton]
          omega

theorem Yields.plainLetters {field letters : List α}
    (plain : ∀ letter ∈ letters, dialect.isSpecial letter = false)
    (fits : field.length + letters.length ≤ dialect.fieldLimit)
    (later : dialect.Yields ⟨.inField, field ++ letters, fields⟩ rest rows) :
    dialect.Yields ⟨.inField, field, fields⟩ (letters ++ rest) rows := by
  induction letters generalizing field with
  | nil =>
      rw [List.append_nil] at later
      exact later
  | cons letter letters ih =>
      rw [List.length_cons] at fits
      obtain ⟨notDelimiter, _, inside⟩ := Special.ne (plain letter List.mem_cons_self)
      have room : ¬dialect.fieldLimit ≤ field.length := by omega
      refine .letter ⟨.inField, field ++ [letter], fields⟩ inside ?_ (ih ?_ ?_ ?_)
      · simp only [step, addLetter, inside, notDelimiter, room, Bool.false_eq_true, if_false]
      · exact fun other member => plain other (List.mem_cons_of_mem _ member)
      · rw [List.length_append, List.length_singleton]
        omega
      · rw [List.append_assoc]
        exact later

theorem Yields.plainTooLong {field letters : List α}
    (plain : ∀ letter ∈ letters, dialect.isSpecial letter = false)
    (start : field.length ≤ dialect.fieldLimit)
    (long : dialect.fieldLimit < field.length + letters.length) :
    dialect.Yields ⟨.inField, field, fields⟩ (letters ++ rest) ⟨[], some .fieldTooLong⟩ := by
  induction letters generalizing field with
  | nil => exact absurd long (Nat.not_lt.mpr start)
  | cons letter letters ih =>
      rw [List.length_cons] at long
      obtain ⟨notDelimiter, _, inside⟩ := Special.ne (plain letter List.mem_cons_self)
      by_cases full : dialect.fieldLimit ≤ field.length
      · refine .raises ?_
        simp only [step, addLetter, inside, notDelimiter, full, Bool.false_eq_true, if_false,
          if_true]
      · refine .letter ⟨.inField, field ++ [letter], fields⟩ inside ?_ (ih ?_ ?_ ?_)
        · simp only [step, addLetter, inside, notDelimiter, full, Bool.false_eq_true, if_false]
        · exact fun other member => plain other (List.mem_cons_of_mem _ member)
        · rw [List.length_append, List.length_singleton]
          omega
        · rw [List.length_append, List.length_singleton]
          omega

theorem Yields.quotedField {field : List α} (fits : field.length ≤ dialect.fieldLimit)
    (later : ∀ reader, dialect.Read fields field reader → dialect.Yields reader rest rows) :
    dialect.Yields ⟨.startField, [], fields⟩ (dialect.quoted field ++ rest) rows := by
  unfold quoted
  rw [List.cons_append, List.append_assoc]
  refine .letter ⟨.inQuotedField, [], fields⟩ isNewline_quote ?_
    (.quotedLetters (by rw [List.length_nil, Nat.zero_add]; exact fits) ?_)
  · simp only [step, startField, isNewline_quote, Bool.false_eq_true, if_false, if_true]
  · refine .letter ⟨.quoteInQuotedField, field, fields⟩ isNewline_quote ?_
      (later _ (Read.quoted fields field))
    simp only [step, List.nil_append, if_true]

theorem not_any_special {field : List α} (plain : ¬field.any dialect.isSpecial = true) :
    ∀ letter ∈ field, dialect.isSpecial letter = false := by
  intro letter member
  cases special : dialect.isSpecial letter with
  | true => exact absurd (List.any_eq_true.mpr ⟨letter, member, special⟩) plain
  | false => rfl

theorem Yields.field {field : List α} (fits : field.length ≤ dialect.fieldLimit)
    (later : ∀ reader, dialect.Read fields field reader → dialect.Yields reader rest rows) :
    dialect.Yields ⟨.startField, [], fields⟩ (dialect.writeField field ++ rest) rows := by
  unfold writeField
  split_ifs with special
  · exact .quotedField fits later
  · have plain := not_any_special special
    cases field with
    | nil => exact later _ (Read.empty fields)
    | cons letter letters =>
        obtain ⟨notDelimiter, notQuote, inside⟩ := Special.ne (plain letter List.mem_cons_self)
        rw [List.length_cons] at fits
        have room : ¬dialect.fieldLimit ≤ 0 := by omega
        refine .letter ⟨.inField, [letter], fields⟩ inside ?_
          (.plainLetters (fun other member => plain other (List.mem_cons_of_mem _ member)) ?_
            (later _ (Read.plain fields _)))
        · simp only [step, startField, addLetter, inside, notQuote, notDelimiter, room,
            Bool.false_eq_true, if_false, List.length_nil, List.nil_append]
        · rw [List.length_singleton]
          omega

theorem Yields.fieldTooLong {field : List α} (long : dialect.fieldLimit < field.length) :
    dialect.Yields ⟨.startField, [], fields⟩ (dialect.writeField field ++ rest)
      ⟨[], some .fieldTooLong⟩ := by
  unfold writeField
  split_ifs with special
  · unfold quoted
    rw [List.cons_append, List.append_assoc]
    refine .letter ⟨.inQuotedField, [], fields⟩ isNewline_quote ?_
      (.quotedTooLong (Nat.zero_le _) (by rw [List.length_nil, Nat.zero_add]; exact long))
    simp only [step, startField, isNewline_quote, Bool.false_eq_true, if_false, if_true]
  · have plain := not_any_special special
    cases field with
    | nil => exact absurd long (Nat.not_lt_zero _)
    | cons letter letters =>
        obtain ⟨notDelimiter, notQuote, inside⟩ := Special.ne (plain letter List.mem_cons_self)
        rw [List.length_cons] at long
        by_cases full : dialect.fieldLimit ≤ 0
        · refine .raises ?_
          simp only [step, startField, addLetter, inside, notQuote, notDelimiter, full,
            Bool.false_eq_true, if_false, if_true, List.length_nil]
        · refine .letter ⟨.inField, [letter], fields⟩ inside ?_
            (.plainTooLong (fun other member => plain other (List.mem_cons_of_mem _ member))
              ?_ ?_)
          · simp only [step, startField, addLetter, inside, notQuote, notDelimiter, full,
              Bool.false_eq_true, if_false, List.length_nil, List.nil_append]
          · rw [List.length_singleton]
            omega
          · rw [List.length_singleton]
            omega

/-! ### Rows -/

/-- What a written row comes to, in front of these rows. -/
def Rows.behind (dialect : CsvDialect α) (row : List (List α)) (rest : Rows α) : Rows α :=
  if dialect.fits row then .cons row rest else ⟨[], some .fieldTooLong⟩

theorem Yields.row {terminator : List α} (terminates : dialect.Terminates terminator)
    (rest first : List α) (more done : List (List α)) (short : dialect.fits done = true) :
    dialect.Yields ⟨.startField, [], done⟩
      (joinWith dialect.delimiter ((first :: more).map dialect.writeField) ++
        (terminator ++ rest))
      (.behind dialect (done ++ first :: more) (dialect.readRows rest)) := by
  induction more generalizing first done with
  | nil =>
      by_cases fits : first.length ≤ dialect.fieldLimit
      · have all : dialect.fits (done ++ [first]) = true := by
          rw [CsvDialect.fits, List.all_append, Bool.and_eq_true]
          exact ⟨short, by simp [fits]⟩
        rw [Rows.behind, if_pos all]
        exact .field fits fun reader read => .rowEnd terminates read.newline
      · have tooLong : ¬dialect.fits (done ++ [first]) = true := by
          rw [CsvDialect.fits, List.all_append, Bool.and_eq_true]
          simp [fits]
        rw [Rows.behind, if_neg tooLong]
        exact .fieldTooLong (Nat.lt_of_not_le fits)
  | cons second more ih =>
      have shape : List.map dialect.writeField (second :: more) ≠ [] := List.cons_ne_nil _ _
      rw [List.map_cons, joinWith_cons, if_neg shape, List.append_assoc, List.cons_append]
      by_cases fits : first.length ≤ dialect.fieldLimit
      · have all : dialect.fits (done ++ [first]) = true := by
          rw [CsvDialect.fits, List.all_append, Bool.and_eq_true]
          exact ⟨short, by simp [fits]⟩
        have later := ih second (done ++ [first]) all
        rw [List.append_assoc, List.singleton_append] at later
        exact .field fits fun reader read => .letter _ isNewline_delimiter read.delimiter later
      · have tooLong : ¬dialect.fits (done ++ first :: second :: more) = true := by
          rw [CsvDialect.fits, List.all_append, Bool.and_eq_true]
          simp [fits]
        rw [Rows.behind, if_neg tooLong]
        exact .fieldTooLong (Nat.lt_of_not_le fits)

/-- A row that is neither empty nor one empty field shows in its text. -/
theorem row_begins (dialect : CsvDialect α) {row : List (List α)} (some : row ≠ [])
    (notEmpty : row ≠ [[]]) :
    ∃ letter more, joinWith dialect.delimiter (row.map dialect.writeField) = letter :: more ∧
      dialect.isNewline letter = false := by
  cases row with
  | nil => exact absurd rfl some
  | cons first more =>
      rw [List.map_cons, joinWith_cons]
      unfold writeField
      split_ifs with special none none
      · exact ⟨_, _, rfl, isNewline_quote⟩
      · exact ⟨_, _, rfl, isNewline_quote⟩
      · cases first with
        | nil =>
            rw [List.map_eq_nil_iff.mp none] at notEmpty
            exact absurd rfl notEmpty
        | cons letter letters =>
            exact ⟨_, _, rfl, (Special.ne (not_any_special special letter List.mem_cons_self)).2.2⟩
      · cases first with
        | nil => exact ⟨_, _, rfl, isNewline_delimiter⟩
        | cons letter letters =>
            exact ⟨_, _, rfl, (Special.ne (not_any_special special letter List.mem_cons_self)).2.2⟩

theorem readRows_of_startField {text : List α} {rows : Rows α}
    (begins : ∃ letter more, text = letter :: more ∧ dialect.isNewline letter = false)
    (yields : dialect.Yields ⟨.startField, [], []⟩ text rows) : dialect.readRows text = rows := by
  obtain ⟨letter, more, rfl, inside⟩ := begins
  have atStart := yields _ [] rfl
  obtain ⟨letters, later, split⟩ := linesFrom_head dialect [] letter more
  have sameLine : dialect.readLine Reader.fresh ([] ++ letter :: letters) =
      dialect.readLine ⟨.startField, [], []⟩ ([] ++ letter :: letters) := by
    have sameStep : dialect.step Reader.fresh (some letter) =
        dialect.step ⟨.startField, [], []⟩ (some letter) := by
      simp only [step, Reader.fresh, inside, Bool.false_eq_true, if_false]
      rfl
    rw [readLine, readLine, feed, feed, List.nil_append, List.foldlM_cons, List.foldlM_cons,
      sameStep]
  rw [readRows, lines, ← atStart, split, rowsFrom, rowsFrom, sameLine]

theorem readRows_writeRow {terminator : List α} (terminates : dialect.Terminates terminator)
    (row : List (List α)) (rest : List α) :
    dialect.readRows (dialect.writeRow terminator row ++ rest) =
      .behind dialect row (dialect.readRows rest) := by
  unfold writeRow
  split
  · rw [List.append_assoc]
    refine readRows_of_startField ⟨_, _, rfl, isNewline_quote⟩ (.quotedField (Nat.zero_le _) ?_)
    exact fun reader read => .rowEnd terminates read.newline
  · rename_i notEmpty
    rw [List.append_assoc]
    cases row with
    | nil =>
        refine Yields.readRows_eq (.rowEnd terminates ?_)
        intro letter ends
        simp only [step, Reader.fresh, ends, if_true]
    | cons first more =>
        obtain ⟨letter, letters, begins, inside⟩ :=
          row_begins dialect (List.cons_ne_nil first more) notEmpty
        have yields := Yields.row terminates rest first more [] rfl
        refine readRows_of_startField ⟨letter, letters ++ (terminator ++ rest), ?_, inside⟩ yields
        rw [begins]
        rfl

/-- What was written is read back, up to the first row with a field that is too
long. -/
theorem readRows_writeRows (dialect : CsvDialect α) {terminator : List α}
    (terminates : dialect.Terminates terminator)
    (rows : List (List (List α))) :
    dialect.readRows (dialect.writeRows terminator rows) =
      ⟨rows.takeWhile dialect.fits,
        if rows.all dialect.fits then none else some .fieldTooLong⟩ := by
  induction rows with
  | nil => rfl
  | cons row rows ih =>
      rw [writeRows, List.flatMap_cons, readRows_writeRow terminates, Rows.behind,
        List.takeWhile_cons, List.all_cons]
      change (if dialect.fits row then Rows.cons row
        (dialect.readRows (dialect.writeRows terminator rows)) else _) = _
      rw [ih]
      cases dialect.fits row with
      | true => rfl
      | false => rfl

theorem readRows_writeRows_of_fits {terminator : List α}
    (terminates : dialect.Terminates terminator) {rows : List (List (List α))}
    (fits : ∀ row ∈ rows, dialect.fits row = true) :
    dialect.readRows (dialect.writeRows terminator rows) = ⟨rows, none⟩ := by
  rw [readRows_writeRows dialect terminates, List.takeWhile_eq_self_iff.mpr fits,
    if_pos (List.all_eq_true.mpr fits)]

/-! ### No field that is read is too long -/

structure Short (dialect : CsvDialect α) (reader : Reader α) : Prop where
  field : reader.field.length ≤ dialect.fieldLimit
  fields : dialect.fits reader.fields = true

omit [DecidableEq α] in
theorem Short.saveField {reader : Reader α} (short : dialect.Short reader) (state : State) :
    dialect.Short (reader.saveField state) where
  field := Nat.zero_le _
  fields := by
    unfold Reader.saveField
    rw [fits, List.all_append, Bool.and_eq_true]
    exact ⟨short.fields, by simp [short.field]⟩

omit [DecidableEq α] in
theorem Short.addLetter {reader after : Reader α} {state : State} {letter : α}
    (short : dialect.Short reader) (added : dialect.addLetter reader state letter = .ok after) :
    dialect.Short after := by
  unfold CsvDialect.addLetter at added
  split_ifs at added with full
  cases added
  refine ⟨?_, short.fields⟩
  rw [List.length_append, List.length_singleton]
  omega

theorem Short.startField {reader after : Reader α} {item : Option α}
    (short : dialect.Short reader) (stepped : dialect.startField reader item = .ok after) :
    dialect.Short after := by
  unfold CsvDialect.startField at stepped
  split at stepped
  · cases stepped
    exact short.saveField _
  · split_ifs at stepped
    · cases stepped
      exact short.saveField _
    · cases stepped
      exact ⟨short.field, short.fields⟩
    · cases stepped
      exact short.saveField _
    · exact short.addLetter stepped

theorem Short.step {reader after : Reader α} {item : Option α} (short : dialect.Short reader)
    (stepped : dialect.step reader item = .ok after) : dialect.Short after := by
  unfold CsvDialect.step at stepped
  split at stepped
  · split at stepped
    · cases stepped
      exact short
    · split_ifs at stepped
      · cases stepped
        exact ⟨short.field, short.fields⟩
      · exact short.startField stepped
  · exact short.startField stepped
  · split at stepped
    · cases stepped
      exact short.saveField _
    · split_ifs at stepped
      · cases stepped
        exact short.saveField _
      · cases stepped
        exact short.saveField _
      · exact short.addLetter stepped
  · split at stepped
    · cases stepped
      exact short
    · split_ifs at stepped
      · cases stepped
        exact ⟨short.field, short.fields⟩
      · exact short.addLetter stepped
  · split at stepped
    · cases stepped
      exact short.saveField _
    · split_ifs at stepped
      · exact short.addLetter stepped
      · cases stepped
        exact short.saveField _
      · cases stepped
        exact short.saveField _
      · exact short.addLetter stepped
  · split at stepped
    · cases stepped
      exact ⟨short.field, short.fields⟩
    · split_ifs at stepped
      cases stepped
      exact short

theorem Short.feed {reader after : Reader α} {line : List α} (short : dialect.Short reader)
    (fed : dialect.feed reader line = .ok after) : dialect.Short after := by
  induction line generalizing reader with
  | nil =>
      cases fed
      exact short
  | cons letter line ih =>
      unfold CsvDialect.feed at fed
      rw [List.foldlM_cons] at fed
      obtain ⟨next, stepped, later⟩ := bind_ok_iff.mp fed
      exact ih (short.step stepped) later

theorem Short.readLine {reader after : Reader α} {line : List α} (short : dialect.Short reader)
    (read : dialect.readLine reader line = .ok after) : dialect.Short after := by
  obtain ⟨next, fed, stepped⟩ := bind_ok_iff.mp read
  exact (short.feed fed).step stepped

theorem Short.rowsFrom {reader : Reader α} (short : dialect.Short reader) (lines : List (List α)) :
    ∀ row ∈ (dialect.rowsFrom reader lines).rows, dialect.fits row = true := by
  induction lines generalizing reader with
  | nil =>
      intro row member
      unfold CsvDialect.rowsFrom at member
      split_ifs at member with inside
      · rw [List.mem_singleton.mp member]
        exact (short.saveField .startRecord).fields
      · exact absurd member List.not_mem_nil
  | cons line lines ih =>
      intro row member
      rw [CsvDialect.rowsFrom] at member
      split at member
      · exact absurd member List.not_mem_nil
      · rename_i after read
        have kept := short.readLine read
        split_ifs at member with ended
        · rcases List.mem_cons.mp member with same | later
          · rw [same]
            exact kept.fields
          · exact ih ⟨Nat.zero_le _, rfl⟩ row later
        · exact ih kept row member

theorem readRows_fits (dialect : CsvDialect α) (text : List α) :
    ∀ row ∈ (dialect.readRows text).rows, dialect.fits row = true :=
  Short.rowsFrom ⟨Nat.zero_le _, rfl⟩ _

/-! ### Rows in a text with translated line ends -/

theorem translated_cons {letter : α} (other : letter ≠ dialect.carriageReturn) (rest : List α) :
    dialect.translated (letter :: rest) = letter :: dialect.translated rest := by
  rw [translated, if_neg other]

theorem translated_append (left : List α) {right : List α}
    (apart : right.head? ≠ some dialect.lineFeed) :
    dialect.translated (left ++ right) = dialect.translated left ++ dialect.translated right := by
  induction left with
  | nil => rfl
  | cons letter left ih =>
      have head : (left ++ right).head? = some dialect.lineFeed ↔
          left.head? = some dialect.lineFeed := by
        cases left with
        | nil => exact iff_of_false apart (fun none => nomatch none)
        | cons next left => exact Iff.rfl
      rw [List.cons_append, translated, translated, ih]
      simp only [head]
      split_ifs with ends paired
      · rfl
      · rfl
      · rfl

theorem translated_eq_nil (text : List α) : dialect.translated text = [] ↔ text = [] := by
  cases text with
  | nil => exact Iff.rfl
  | cons letter rest =>
      refine iff_of_false ?_ (List.cons_ne_nil _ _)
      rw [translated]
      split_ifs with ends paired
      · cases rest with
        | nil => cases paired
        | cons next rest =>
            obtain rfl : next = dialect.lineFeed := Option.some.inj paired
            rw [translated_cons carriageReturn_ne.1.symm]
            exact List.cons_ne_nil _ _
      · exact not_false
      · exact not_false

theorem any_special_translated (field : List α) :
    (dialect.translated field).any dialect.isSpecial = field.any dialect.isSpecial := by
  have newlines (letter : α) (newline : dialect.isNewline letter = true) :
      dialect.isSpecial letter = true := by
    rw [isSpecial, newline, Bool.or_true]
  induction field with
  | nil => rfl
  | cons letter field ih =>
      rw [translated]
      split_ifs with ends paired
      · obtain ⟨rest, rfl⟩ : ∃ rest, field = dialect.lineFeed :: rest := by
          cases field with
          | nil => cases paired
          | cons next rest => exact ⟨rest, by rw [Option.some.inj paired]⟩
        rw [ih, List.any_cons, List.any_cons, List.any_cons, newlines _ isNewline_lineFeed,
          Bool.true_or, Bool.or_true]
      · rw [List.any_cons, List.any_cons, ends, newlines _ isNewline_lineFeed,
          newlines _ isNewline_carriageReturn, Bool.true_or, Bool.true_or]
      · rw [List.any_cons, List.any_cons, ih]

theorem quotedLetter_of_ne {letter : α} (other : letter ≠ dialect.quote) :
    dialect.quotedLetter letter = [letter] := by
  rw [CsvDialect.quotedLetter, if_neg other]

theorem translated_quotedLetters (field : List α) :
    dialect.translated (field.flatMap dialect.quotedLetter) =
      (dialect.translated field).flatMap dialect.quotedLetter := by
  have head (rest : List α) : (rest.flatMap dialect.quotedLetter).head? = rest.head? := by
    cases rest with
    | nil => rfl
    | cons letter rest =>
        rw [List.flatMap_cons, CsvDialect.quotedLetter]
        split_ifs
        · rfl
        · rfl
  obtain ⟨_, _, quoteReturn, _, quoteFeed⟩ := @carriageReturn_ne α dialect
  induction field with
  | nil => rfl
  | cons letter field ih =>
      by_cases ends : letter = dialect.carriageReturn
      · subst ends
        rw [List.flatMap_cons, quotedLetter_of_ne quoteReturn.symm, List.singleton_append,
          translated, translated, if_pos rfl, if_pos rfl, head, ih]
        split_ifs with paired
        · rfl
        · rw [List.flatMap_cons, quotedLetter_of_ne quoteFeed.symm]
          rfl
      · rw [translated_cons ends, List.flatMap_cons, List.flatMap_cons, ← ih]
        unfold CsvDialect.quotedLetter
        split_ifs with quote
        · rw [List.cons_append, List.cons_append, translated_cons ends, translated_cons ends]
          rfl
        · rw [List.cons_append, translated_cons ends]
          rfl

theorem translated_quoted (field : List α) :
    dialect.translated (dialect.quoted field) = dialect.quoted (dialect.translated field) := by
  obtain ⟨_, _, quoteReturn, _, quoteFeed⟩ := @carriageReturn_ne α dialect
  have apart : [dialect.quote].head? ≠ some dialect.lineFeed := by
    rw [List.head?_cons]
    exact fun same => quoteFeed (Option.some.inj same)
  unfold quoted
  rw [translated_cons quoteReturn, translated_append _ apart, translated_quotedLetters,
    translated_cons quoteReturn]
  rfl

theorem translated_writeField (field : List α) :
    dialect.translated (dialect.writeField field) =
      dialect.writeField (dialect.translated field) := by
  unfold writeField
  rw [any_special_translated]
  split_ifs with special
  · exact translated_quoted field
  · rfl

theorem translated_joined (row : List (List α)) :
    dialect.translated (joinWith dialect.delimiter (row.map dialect.writeField)) =
      joinWith dialect.delimiter ((row.map dialect.translated).map dialect.writeField) := by
  obtain ⟨_, delimiterReturn, _, delimiterFeed, _⟩ := @carriageReturn_ne α dialect
  induction row with
  | nil => rfl
  | cons field row ih =>
      cases row with
      | nil => exact translated_writeField field
      | cons next row =>
          have apart (rest : List α) :
              (dialect.delimiter :: rest).head? ≠ some dialect.lineFeed := by
            rw [List.head?_cons]
            exact fun same => delimiterFeed (Option.some.inj same)
          change dialect.translated (dialect.writeField field ++ dialect.delimiter ::
            joinWith dialect.delimiter ((next :: row).map dialect.writeField)) = _
          rw [translated_append _ (apart _), translated_writeField,
            translated_cons delimiterReturn, ih]
          rfl

theorem translated_writeRow (row : List (List α)) (rest : List α) :
    dialect.translated
        (dialect.writeRow [dialect.carriageReturn, dialect.lineFeed] row ++ rest) =
      dialect.writeRow [dialect.lineFeed] (row.map dialect.translated) ++
        dialect.translated rest := by
  have ends (text : List α) :
      dialect.translated (text ++ ([dialect.carriageReturn, dialect.lineFeed] ++ rest)) =
        dialect.translated text ++ dialect.lineFeed :: dialect.translated rest := by
    have apart : ([dialect.carriageReturn, dialect.lineFeed] ++ rest).head? ≠
        some dialect.lineFeed := by
      change some dialect.carriageReturn ≠ _
      exact fun same => carriageReturn_ne.1 (Option.some.inj same)
    rw [translated_append _ apart]
    change _ ++ dialect.translated (dialect.carriageReturn :: dialect.lineFeed :: rest) = _
    rw [translated, if_pos rfl, if_pos List.head?_cons, translated_cons carriageReturn_ne.1.symm]
  by_cases empty : row = [[]]
  · rw [empty]
    change dialect.translated (dialect.quoted [] ++ _ ++ rest) =
      dialect.quoted [] ++ _ ++ dialect.translated rest
    rw [List.append_assoc, ends, translated_quoted, List.append_assoc]
    rfl
  · have kept : row.map dialect.translated ≠ [[]] := by
      intro only
      obtain ⟨field, rfl, blank⟩ := List.map_eq_singleton_iff.mp only
      rw [(translated_eq_nil field).mp blank] at empty
      exact empty rfl
    have plain (terminator : List α) {fields : List (List α)} (notEmpty : fields ≠ [[]]) :
        dialect.writeRow terminator fields =
          joinWith dialect.delimiter (fields.map dialect.writeField) ++ terminator := by
      unfold writeRow
      split
      · exact absurd rfl notEmpty
      · rfl
    rw [plain _ empty, plain _ kept, List.append_assoc, ends, translated_joined,
      List.append_assoc]
    rfl

theorem translated_writeRows (rows : List (List (List α))) :
    dialect.translated
        (dialect.writeRows [dialect.carriageReturn, dialect.lineFeed] rows) =
      dialect.writeRows [dialect.lineFeed] (rows.map (List.map dialect.translated)) := by
  induction rows with
  | nil => rfl
  | cons row rows ih =>
      rw [writeRows, List.flatMap_cons, translated_writeRow]
      change _ ++ dialect.translated (dialect.writeRows _ rows) = _
      rw [ih]
      rfl

end Yielding

end CsvDialect

end ImagePipeline.Library
