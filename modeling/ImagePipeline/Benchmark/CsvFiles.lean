/-
The CSV files of a run as `csv.DictWriter` writes and `csv.DictReader` reads
them, and `merge_csv_files` of `cluster_runner.py`. A file is the text that it
holds in UTF-8.
-/

import ImagePipeline.Benchmark.SweepRows
import ImagePipeline.Library.Csv
import ImagePipeline.Library.Entries

namespace ImagePipeline.Benchmark

open Common
open Library (CsvDialect entriesOf)

/-- The dialect of Python's `csv` and `csv.field_size_limit()`. -/
def excel : CsvDialect CodePoint :=
  { delimiter := codePoint ','
    quote := codePoint '"'
    carriageReturn := codePoint '\r'
    lineFeed := codePoint '\n'
    distinct := by decide
    fieldLimit := 131072 }

def writeCsv (rows : List (List Str)) : Str :=
  excel.writeRows [excel.carriageReturn, excel.lineFeed] rows

/-- A row of `csv.DictReader`: `None` for a field that is missing at its end, and
under the key `None` the fields beyond the last name. -/
structure DictRow where
  cells : List (Str × Option Str)
  rest : Option (List Str)

def dictRow (fieldnames fields : List Str) : DictRow :=
  let missing := List.replicate (fieldnames.length - fields.length) none
  { cells := entriesOf (fieldnames.zip (fields.map some ++ missing))
    rest := if fieldnames.length < fields.length then some (fields.drop fieldnames.length)
      else none }

/-- What iterating over a `csv.DictReader` gives; without field names if the file
is empty. -/
structure DictTable where
  fieldnames : Option (List Str)
  rows : List DictRow
  raised : Option CsvDialect.ReadError

/-- `csv.DictReader` passes over blank lines behind the first one. -/
def dictTable (rows : CsvDialect.Rows CodePoint) : DictTable :=
  match rows.rows with
  | [] => ⟨none, [], rows.raised⟩
  | fieldnames :: body =>
      ⟨some fieldnames, (body.filter (fun fields => fields ≠ [])).map (dictRow fieldnames),
        rows.raised⟩

/-- `csv.DictReader(file)` of a file that was opened with `newline=""`. -/
def dictReader (text : Str) : DictTable := dictTable (excel.readRows text)

/-- `load_csv`, `read_csv_rows` and `count_csv_rows` open the file without
`newline=""`. -/
def loadCsv (text : Option Str) : Except CsvDialect.ReadError (List DictRow) :=
  match text with
  | none => .ok []
  | some text =>
      let table := dictTable (excel.readRows (excel.translated text))
      match table.raised with
      | none => .ok table.rows
      | some raised => .error raised

def countCsvRows (text : Option Str) : Except CsvDialect.ReadError Nat :=
  (loadCsv text).map List.length

/-- What is written by a `csv.DictWriter` whose rows have all of its field names
and no other. -/
structure CsvTable where
  fieldnames : List Str
  rows : List (List Str)
  named : fieldnames ≠ []
  distinct : fieldnames.Nodup
  widths : ∀ row ∈ rows, row.length = fieldnames.length

namespace CsvTable

def text (table : CsvTable) : Str := writeCsv (table.fieldnames :: table.rows)

def dicts (table : CsvTable) : List CsvRow := table.rows.map table.fieldnames.zip

def cells (table : CsvTable) : List Str := table.fieldnames ++ table.rows.flatten

end CsvTable

/-- The row of a reader that has found every field. -/
def fullRow (row : CsvRow) : DictRow :=
  { cells := row.map (fun cell => (cell.1, some cell.2))
    rest := none }

/-! ### `merge_csv_files` -/

structure InputFile where
  path : Str
  /-- Nothing if the path does not exist. -/
  text : Option Str

inductive MergeError where
  | runtimeError (message : Str)
  | valueError (message : Str)
  /-- The `ValueError` of `csv.DictWriter` about a field without a name. -/
  | wrongFields
  | csv (raised : CsvDialect.ReadError)
  deriving DecidableEq

/-- `row.get(key, "")`, where `None` is written as nothing. -/
def DictRow.field (row : DictRow) (key : Str) : Str :=
  ((row.cells.lookup key).getD (some [])).getD []

/-- The fields that `writer.writerow(row)` writes. -/
def DictRow.fields (fieldnames : List Str) (row : DictRow) : Except MergeError (List Str) :=
  if row.rest.isSome || row.cells.any (fun cell => cell.1 ∉ fieldnames) then .error .wrongFields
  else .ok (fieldnames.map row.field)

def schemaMismatch (path : Str) : Str := str "CSV schema mismatch in " ++ path

def noInput (outputName : Str) : Str := str "No input CSV files found for " ++ outputName

/-- The rows that were written, and the field names after the first file that has
any. -/
structure Merged where
  fieldnames : Option (List Str)
  written : List (List Str)

/-- The header is written together with the first rows. -/
def Merged.header (merged : Merged) (path : Str) (fieldnames : List Str) :
    Except MergeError Merged :=
  match merged.fieldnames with
  | none => .ok ⟨some fieldnames, merged.written ++ [fieldnames]⟩
  | some known =>
      if fieldnames = known then .ok merged else .error (.valueError (schemaMismatch path))

def mergeTable (merged : Merged) (path : Str) (table : DictTable) : Except MergeError Merged :=
  match table.fieldnames with
  | none =>
      match table.raised with
      | none => .ok merged
      | some raised => .error (.csv raised)
  | some fieldnames => do
      let opened ← merged.header path fieldnames
      let rows ← table.rows.mapM (DictRow.fields fieldnames)
      match table.raised with
      | none => .ok { opened with written := opened.written ++ rows }
      | some raised => .error (.csv raised)

/-- The body of the loop over the files that exist. -/
def mergeFile (merged : Merged) (path text : Str) : Except MergeError Merged :=
  mergeTable merged path (dictReader text)

/-- `existing_paths`, each with what it holds. -/
def existingFiles (inputs : List InputFile) : List (Str × Str) :=
  inputs.filterMap (fun input => input.text.map (fun text => (input.path, text)))

def mergeCsvFiles (inputs : List InputFile) (outputName : Str) : Except MergeError Str :=
  if existingFiles inputs = [] then .error (.runtimeError (noInput outputName))
  else do
    let merged ← (existingFiles inputs).foldlM
      (fun merged file => mergeFile merged file.1 file.2) ⟨none, []⟩
    pure (writeCsv merged.written)

end ImagePipeline.Benchmark
