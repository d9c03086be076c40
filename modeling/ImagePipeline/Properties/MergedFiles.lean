/-
What `merge_csv_files` makes of any files: it returns exactly for files that can
be read, that have one header and no field without a name, and then its output
is read as their rows one file after the other.
-/

import ImagePipeline.Benchmark.CsvFiles
import ImagePipeline.Library.Itemwise

namespace ImagePipeline.Properties.MergedFiles

open Common Benchmark
open Library

/-- A field that was missing is there, and empty. -/
def blanked (row : DictRow) : DictRow :=
  { row with cells := row.cells.map (fun cell => (cell.1, some (cell.2.getD []))) }

/-! ### Rows -/

theorem keys_padded (fieldnames fields : List Str) :
    (fieldnames.zip (fields.map some ++
      List.replicate (fieldnames.length - fields.length) none)).map Prod.fst = fieldnames := by
  refine List.map_fst_zip ?_
  rw [List.length_append, List.length_map, List.length_replicate]
  omega

theorem keys_dictRow (fieldnames fields others : List Str) :
    (dictRow fieldnames fields).cells.map Prod.fst =
      (dictRow fieldnames others).cells.map Prod.fst :=
  keys_entriesOf ((keys_padded fieldnames fields).trans (keys_padded fieldnames others).symm)

theorem key_mem_fieldnames {fieldnames fields : List Str} {cell : Str × Option Str}
    (member : cell ∈ (dictRow fieldnames fields).cells) : cell.1 ∈ fieldnames := by
  have present := List.mem_map_of_mem (f := Prod.fst) (mem_of_mem_entriesOf member)
  rw [keys_padded] at present
  exact present

theorem field_of_lookup {row : DictRow} {key : Str} {value : Option Str}
    (found : row.cells.lookup key = some value) : row.field key = value.getD [] := by
  rw [DictRow.field, found]
  rfl

theorem dictRow_written {fieldnames fields : List Str}
    (named : (dictRow fieldnames fields).rest = none) :
    dictRow fieldnames (fieldnames.map (dictRow fieldnames fields).field) =
      blanked (dictRow fieldnames fields) := by
  have cells : (dictRow fieldnames (fieldnames.map (dictRow fieldnames fields).field)).cells =
      (blanked (dictRow fieldnames fields)).cells := by
    have keys : (blanked (dictRow fieldnames fields)).cells.map Prod.fst =
        (dictRow fieldnames fields).cells.map Prod.fst := by
      rw [blanked, List.map_map]
      rfl
    refine entries_ext (entriesOf_nodup _) ((keys_dictRow _ _ fields).trans keys.symm) ?_
    intro key member
    have written := lookup_entriesOf_of_values
      (fun name => some ((dictRow fieldnames fields).field name)) ?_ member
    · rw [keys_dictRow _ _ fields] at member
      obtain ⟨value, found⟩ := lookup_isSome_of_mem member
      have changed := lookup_map_values (fun old : Option Str => some (old.getD []))
        (dictRow fieldnames fields).cells key
      rw [found] at changed
      rw [field_of_lookup found] at written
      exact written.trans changed.symm
    · intro pair inside
      rw [List.length_map, Nat.sub_self, List.replicate_zero, List.append_nil, List.map_map,
        ← List.map_prod_left_eq_zip] at inside
      obtain ⟨name, _, rfl⟩ := List.mem_map.mp inside
      rfl
  have rest :
      (dictRow fieldnames (fieldnames.map (dictRow fieldnames fields).field)).rest = none := by
    rw [dictRow, List.length_map]
    exact if_neg (Nat.lt_irrefl _)
  calc dictRow fieldnames (fieldnames.map (dictRow fieldnames fields).field)
      = ⟨(blanked (dictRow fieldnames fields)).cells, none⟩ := by rw [← cells, ← rest]
    _ = blanked (dictRow fieldnames fields) := by rw [blanked, named]

theorem field_short {fieldnames fields : List Str} (short : excel.fits fields = true) (key : Str) :
    ((dictRow fieldnames fields).field key).length ≤ excel.fieldLimit := by
  cases found : (dictRow fieldnames fields).cells.lookup key with
  | none =>
      rw [DictRow.field, found]
      exact Nat.zero_le _
  | some value =>
      rw [field_of_lookup found]
      have inside := List.of_mem_zip (mem_of_mem_entriesOf (mem_of_lookup found))
      rcases List.mem_append.mp inside.2 with there | missing
      · obtain ⟨text, member, rfl⟩ := List.mem_map.mp there
        exact of_decide_eq_true (List.all_eq_true.mp short text member)
      · rw [List.eq_of_mem_replicate missing]
        exact Nat.zero_le _

/-! ### Tables -/

def tables (inputs : List InputFile) : List DictTable :=
  (existingFiles inputs).map (fun file => dictReader file.2)

/-- Every table was read to its end, all have the same field names, and no row has
a field without one. -/
structure Alike (files : List DictTable) : Prop where
  read : ∀ table ∈ files, table.raised = none
  names : ∀ table ∈ files, ∀ other ∈ files, ∀ names ∈ table.fieldnames,
    ∀ others ∈ other.fieldnames, names = others
  named : ∀ table ∈ files, ∀ row ∈ table.rows, row.rest = none

def header (files : List DictTable) : Option (List Str) :=
  (files.filterMap DictTable.fieldnames).head?

def concatenated (files : List DictTable) : DictTable :=
  ⟨header files, (files.flatMap DictTable.rows).map blanked, none⟩

/-- What has been written behind the tables. -/
def written (files : List DictTable) : Merged :=
  match header files with
  | none => ⟨none, []⟩
  | some names =>
      ⟨some names, names :: (files.flatMap DictTable.rows).map (fun row => names.map row.field)⟩

/-- A table that was read from a file. -/
structure FromFile (table : DictTable) : Prop where
  unnamed : table.fieldnames = none → table.rows = []
  rows : ∀ names ∈ table.fieldnames, ∀ row ∈ table.rows,
    ∃ fields, row = dictRow names fields ∧ fields ≠ [] ∧ excel.fits fields = true
  short : ∀ names ∈ table.fieldnames, excel.fits names = true

theorem dictReader_fromFile (text : Str) : FromFile (dictReader text) := by
  have fits := CsvDialect.readRows_fits excel text
  unfold dictReader dictTable
  cases read : (excel.readRows text).rows with
  | nil =>
      refine ⟨fun _ => rfl, ?_, ?_⟩
      · intro names none
        cases none
      · intro names none
        cases none
  | cons fieldnames body =>
      rw [read] at fits
      refine ⟨(fun none => nomatch none), ?_, ?_⟩
      · intro names same row member
        cases same
        obtain ⟨fields, kept, rfl⟩ := List.mem_map.mp member
        obtain ⟨member, some⟩ := List.mem_filter.mp kept
        exact ⟨fields, rfl, of_decide_eq_true some, fits fields (List.mem_cons_of_mem _ member)⟩
      · intro names same
        cases same
        exact fits _ List.mem_cons_self

theorem fields_of_named {names : List Str} {row : DictRow} {fields : List Str}
    (read : row = dictRow names fields) :
    row.fields names =
      if row.rest = none then .ok (names.map row.field) else .error .wrongFields := by
  have known : row.cells.any (fun cell => decide (cell.1 ∉ names)) = false := by
    rw [List.any_eq_false]
    intro cell member
    rw [read] at member
    simp only [decide_eq_true_eq, not_not]
    exact key_mem_fieldnames member
  unfold DictRow.fields
  rw [known, Bool.or_false]
  cases row.rest with
  | none => rfl
  | some rest => rfl

/-! ### Merging -/

theorem rows_written {names : List Str} {table : DictTable} (file : FromFile table)
    (known : table.fieldnames = some names) :
    table.rows.mapM (DictRow.fields names) =
      if ∀ row ∈ table.rows, row.rest = none then
        .ok (table.rows.map (fun row => names.map row.field))
      else .error .wrongFields := by
  have each : ∀ row ∈ table.rows, DictRow.fields names row =
      if row.rest = none then .ok (names.map row.field) else .error .wrongFields := by
    intro row member
    obtain ⟨fields, read, _, _⟩ := file.rows names known row member
    exact fields_of_named read
  generalize table.rows = rows at each
  induction rows with
  | nil => rfl
  | cons row rows ih =>
      have later := ih fun other member => each other (List.mem_cons_of_mem _ member)
      have here := each row List.mem_cons_self
      by_cases named : row.rest = none
      · rw [if_pos named] at here
        rw [mapM_cons_ok here, later]
        simp only [List.forall_mem_cons, named, true_and]
        split_ifs <;> rfl
      · rw [if_neg named] at here
        rw [mapM_cons_error here, if_neg (fun all => named (all row List.mem_cons_self))]

theorem header_append (files : List DictTable) (table : DictTable) :
    header (files ++ [table]) = (header files).or table.fieldnames := by
  unfold header
  rw [List.filterMap_append, List.head?_append, List.filterMap_cons]
  cases table.fieldnames <;> rfl

theorem header_mem {files : List DictTable} {names : List Str} (first : header files = some names) :
    ∃ table ∈ files, table.fieldnames = some names := by
  obtain ⟨table, member, same⟩ := List.mem_filterMap.mp (List.mem_of_mem_head? first)
  exact ⟨table, member, same⟩

theorem header_none {files : List DictTable} (none : header files = none) :
    ∀ table ∈ files, table.fieldnames = Option.none := by
  intro table member
  unfold header at none
  cases names : table.fieldnames with
  | none => rfl
  | some found =>
      have there := List.mem_filterMap.mpr ⟨table, member, names⟩
      rw [List.head?_eq_none_iff.mp none] at there
      exact absurd there List.not_mem_nil

theorem rows_of_header_none {files : List DictTable} (fromFiles : ∀ table ∈ files, FromFile table)
    (none : header files = none) : files.flatMap DictTable.rows = [] := by
  refine List.flatMap_eq_nil_iff.mpr fun table member => ?_
  exact (fromFiles table member).unnamed (header_none none table member)

theorem Alike.snoc {files : List DictTable} {table : DictTable} (alike : Alike files)
    (read : table.raised = none) (named : ∀ row ∈ table.rows, row.rest = none)
    (names : ∀ known ∈ header files, ∀ found ∈ table.fieldnames, found = known) :
    Alike (files ++ [table]) := by
  have same : ∀ other ∈ files, ∀ known ∈ other.fieldnames, ∀ found ∈ table.fieldnames,
      found = known := by
    intro other member known given found here
    cases first : header files with
    | none =>
        rw [header_none first other member] at given
        cases given
    | some leading =>
        obtain ⟨earliest, inside, leads⟩ := header_mem first
        rw [names leading first found here]
        exact alike.names earliest inside other member leading leads known given
  refine ⟨?_, ?_, ?_⟩
  · intro other member
    rcases List.mem_append.mp member with earlier | last
    · exact alike.read other earlier
    · rw [List.mem_singleton.mp last]
      exact read
  · intro one member other inside known given found here
    rcases List.mem_append.mp member with earlier | last
    · rcases List.mem_append.mp inside with earlierToo | lastToo
      · exact alike.names one earlier other earlierToo known given found here
      · rw [List.mem_singleton.mp lastToo] at here
        exact (same one earlier known given found here).symm
    · rw [List.mem_singleton.mp last] at given
      rcases List.mem_append.mp inside with earlierToo | lastToo
      · exact same other earlierToo found here known given
      · rw [List.mem_singleton.mp lastToo] at here
        exact Option.some.inj (given.symm.trans here)
  · intro other member
    rcases List.mem_append.mp member with earlier | last
    · exact alike.named other earlier
    · rw [List.mem_singleton.mp last]
      exact named

/-- The rows of the files under these field names. -/
def rowsUnder (names : List Str) (files : List DictTable) : List (List Str) :=
  (files.flatMap DictTable.rows).map (fun row => names.map row.field)

theorem header_written {files : List DictTable} (fromFiles : ∀ table ∈ files, FromFile table)
    (path : Str) (names : List Str) :
    (written files).header path names =
      if ∀ known ∈ header files, names = known then
        .ok ⟨some names, names :: rowsUnder names files⟩
      else .error (.valueError (schemaMismatch path)) := by
  unfold Merged.header written
  cases first : header files with
  | none =>
      rw [if_pos (fun known given => nomatch given), rowsUnder,
        rows_of_header_none fromFiles first]
      rfl
  | some known =>
      simp only [Option.mem_def, Option.some.injEq, forall_eq']
      split_ifs with same
      · rw [same]
        rfl
      · rfl

theorem written_append {files : List DictTable} {table : DictTable} {names : List Str}
    (given : table.fieldnames = some names) (same : ∀ known ∈ header files, names = known) :
    written (files ++ [table]) =
      ⟨some names,
        names :: (rowsUnder names files ++ table.rows.map (fun row => names.map row.field))⟩ := by
  have leads : header (files ++ [table]) = some names := by
    rw [header_append, given]
    cases first : header files with
    | none => rfl
    | some known => rw [same known first]; rfl
  unfold written rowsUnder
  rw [leads]
  simp only [List.flatMap_append, List.flatMap_cons, List.flatMap_nil, List.append_nil,
    List.map_append]

theorem mergeTable_iff {files : List DictTable} (fromFiles : ∀ table ∈ files, FromFile table)
    (alike : Alike files) {table : DictTable} (file : FromFile table) (path : Str)
    {after : Merged} :
    mergeTable (written files) path table = .ok after ↔
      Alike (files ++ [table]) ∧ after = written (files ++ [table]) := by
  unfold mergeTable
  cases given : table.fieldnames with
  | none =>
      dsimp only
      have kept : written (files ++ [table]) = written files := by
        unfold written
        rw [header_append, given, Option.or_none, List.flatMap_append]
        simp only [List.flatMap_cons, List.flatMap_nil, file.unnamed given, List.append_nil]
      rw [kept]
      cases ended : table.raised with
      | none =>
          have all : Alike (files ++ [table]) := by
            refine alike.snoc ended ?_ ?_
            · rw [file.unnamed given]
              exact fun row member => absurd member List.not_mem_nil
            · rw [given]
              exact fun known first found none => nomatch none
          constructor
          · intro returned
            cases returned
            exact ⟨all, rfl⟩
          · intro ⟨_, same⟩
            rw [same]
      | some raised =>
          refine iff_of_false (fun returned => nomatch returned) fun ⟨all, _⟩ => ?_
          have read := all.read table (List.mem_append_right _ List.mem_cons_self)
          rw [ended] at read
          cases read
  | some names =>
      dsimp only
      have last : table ∈ files ++ [table] := List.mem_append_right _ List.mem_cons_self
      by_cases same : ∀ known ∈ header files, names = known
      · by_cases named : ∀ row ∈ table.rows, row.rest = none
        · rw [header_written fromFiles, if_pos same, rows_written file given, if_pos named]
          cases ended : table.raised with
          | none =>
              have all : Alike (files ++ [table]) := by
                refine alike.snoc ended named ?_
                rw [given]
                exact fun known first found here => Option.some.inj here ▸ same known first
              rw [written_append given same]
              constructor
              · intro returned
                cases returned
                exact ⟨all, rfl⟩
              · intro ⟨_, result⟩
                rw [result]
                rfl
          | some raised =>
              refine iff_of_false (fun returned => nomatch returned) fun ⟨all, _⟩ => ?_
              have read := all.read table last
              rw [ended] at read
              cases read
        · rw [header_written fromFiles, if_pos same, rows_written file given, if_neg named]
          exact iff_of_false (fun returned => nomatch returned)
            fun ⟨all, _⟩ => named (all.named table last)
      · rw [header_written fromFiles, if_neg same]
        refine iff_of_false (fun returned => nomatch returned) fun ⟨all, _⟩ => same ?_
        intro known first
        obtain ⟨earliest, inside, leads⟩ := header_mem first
        exact all.names table last earliest (List.mem_append_left _ inside) names given known leads

theorem mergeFiles_iff {files : List DictTable} (fromFiles : ∀ table ∈ files, FromFile table)
    (alike : Alike files) (more : List (Str × Str)) {after : Merged} :
    more.foldlM (fun merged file => mergeFile merged file.1 file.2) (written files) = .ok after ↔
      Alike (files ++ more.map (fun file => dictReader file.2)) ∧
        after = written (files ++ more.map (fun file => dictReader file.2)) := by
  induction more generalizing files with
  | nil =>
      rw [List.map_nil, List.append_nil]
      constructor
      · intro returned
        cases returned
        exact ⟨alike, rfl⟩
      · intro ⟨_, same⟩
        rw [same]
        rfl
  | cons file more ih =>
      have fromAll : ∀ table ∈ files ++ [dictReader file.2], FromFile table := by
        intro table member
        rcases List.mem_append.mp member with earlier | last
        · exact fromFiles table earlier
        · rw [List.mem_singleton.mp last]
          exact dictReader_fromFile file.2
      have shift : files ++ (file :: more).map (fun file => dictReader file.2) =
          files ++ [dictReader file.2] ++ more.map (fun file => dictReader file.2) := by
        rw [List.map_cons, List.append_assoc]
        rfl
      rw [List.foldlM_cons, bind_ok_iff, shift]
      constructor
      · intro ⟨next, merged, later⟩
        obtain ⟨alikeHere, rfl⟩ :=
          (mergeTable_iff fromFiles alike (dictReader_fromFile file.2) file.1).mp merged
        exact (ih fromAll alikeHere).mp later
      · intro ⟨all, result⟩
        have here : Alike (files ++ [dictReader file.2]) := by
          refine ⟨?_, ?_, ?_⟩
          · exact fun table member => all.read table (List.mem_append_left _ member)
          · exact fun table member other inside =>
              all.names table (List.mem_append_left _ member) other (List.mem_append_left _ inside)
          · exact fun table member => all.named table (List.mem_append_left _ member)
        exact ⟨_,
          (mergeTable_iff fromFiles alike (dictReader_fromFile file.2) file.1).mpr ⟨here, rfl⟩,
          (ih fromAll here).mpr ⟨all, result⟩⟩

/-! ### Reading the output -/

theorem dictReader_writeCsv {rows : List (List Str)} (fits : ∀ row ∈ rows, excel.fits row = true) :
    dictReader (writeCsv rows) = dictTable ⟨rows, none⟩ := by
  rw [dictReader, writeCsv, CsvDialect.readRows_writeRows_of_fits .both fits]

theorem rows_under_header {files : List DictTable} (fromFiles : ∀ table ∈ files, FromFile table)
    (alike : Alike files) {names : List Str} (first : header files = some names) :
    ∀ row ∈ files.flatMap DictTable.rows, ∃ fields, row = dictRow names fields ∧
      fields ≠ [] ∧ excel.fits fields = true ∧ row.rest = none := by
  intro row member
  obtain ⟨table, inside, here⟩ := List.mem_flatMap.mp member
  cases given : table.fieldnames with
  | none =>
      rw [(fromFiles table inside).unnamed given] at here
      exact absurd here List.not_mem_nil
  | some found =>
      obtain ⟨earliest, leading, leads⟩ := header_mem first
      have same : names = found := alike.names earliest leading table inside names leads found given
      obtain ⟨fields, read, some, short⟩ := (fromFiles table inside).rows found given row here
      rw [same]
      exact ⟨fields, read, some, short, alike.named table inside row here⟩

theorem names_ne_nil {names fields : List Str} (some : fields ≠ [])
    (named : (dictRow names fields).rest = none) : names ≠ [] := by
  rintro rfl
  cases fields with
  | nil => exact some rfl
  | cons field fields => cases named

theorem dictReader_written {files : List DictTable} (fromFiles : ∀ table ∈ files, FromFile table)
    (alike : Alike files) :
    dictReader (writeCsv (written files).written) = concatenated files := by
  unfold written concatenated
  cases first : header files with
  | none =>
      rw [rows_of_header_none fromFiles first]
      rfl
  | some names =>
      have facts := rows_under_header fromFiles alike first
      have short : excel.fits names = true := by
        obtain ⟨earliest, leading, leads⟩ := header_mem first
        exact (fromFiles earliest leading).short names leads
      generalize files.flatMap DictTable.rows = rows at facts
      have fits : ∀ row ∈ names :: rows.map (fun row => names.map row.field),
          excel.fits row = true := by
        intro row member
        rcases List.mem_cons.mp member with same | later
        · rw [same]
          exact short
        · obtain ⟨source, inside, rfl⟩ := List.mem_map.mp later
          obtain ⟨fields, rfl, _, shortFields, _⟩ := facts source inside
          refine List.all_eq_true.mpr fun text present => ?_
          obtain ⟨name, _, rfl⟩ := List.mem_map.mp present
          exact decide_eq_true (field_short shortFields name)
      have kept : (rows.map (fun row => names.map row.field)).filter (fun fields => fields ≠ []) =
          rows.map (fun row => names.map row.field) := by
        refine List.filter_eq_self.mpr fun fields member => ?_
        obtain ⟨source, inside, rfl⟩ := List.mem_map.mp member
        obtain ⟨found, rfl, some, _, named⟩ := facts source inside
        exact decide_eq_true fun none => names_ne_nil some named (List.map_eq_nil_iff.mp none)
      have same : (rows.map (fun row => names.map row.field)).map (dictRow names) =
          rows.map blanked := by
        rw [List.map_map]
        refine List.map_congr_left fun row inside => ?_
        obtain ⟨fields, rfl, _, _, named⟩ := facts row inside
        exact dictRow_written named
      rw [dictReader_writeCsv fits, dictTable]
      dsimp only
      rw [kept, same]

/-- Some file exists, and all that exist can be merged. -/
structure Mergeable (inputs : List InputFile) : Prop where
  some : tables inputs ≠ []
  alike : Alike (tables inputs)

theorem tables_fromFiles (inputs : List InputFile) : ∀ table ∈ tables inputs, FromFile table := by
  intro table member
  obtain ⟨file, _, rfl⟩ := List.mem_map.mp member
  exact dictReader_fromFile file.2

theorem mergeCsvFiles_ok_iff {inputs : List InputFile} {outputName output : Str} :
    mergeCsvFiles inputs outputName = .ok output ↔
      Mergeable inputs ∧ output = writeCsv (written (tables inputs)).written := by
  have nothing : Alike [] :=
    ⟨fun _ none => absurd none List.not_mem_nil, fun _ none => absurd none List.not_mem_nil,
      fun _ none => absurd none List.not_mem_nil⟩
  have loop {after : Merged} :=
    @mergeFiles_iff [] (fun _ none => absurd none List.not_mem_nil) nothing
      (existingFiles inputs) after
  unfold mergeCsvFiles
  by_cases none : existingFiles inputs = []
  · rw [if_pos none]
    refine iff_of_false (fun returned => nomatch returned) fun ⟨mergeable, _⟩ => ?_
    exact mergeable.some (List.map_eq_nil_iff.mpr none)
  · rw [if_neg none, bind_ok_iff]
    constructor
    · intro ⟨merged, looped, returned⟩
      obtain ⟨alike, rfl⟩ := loop.mp looped
      cases returned
      exact ⟨⟨fun empty => none (List.map_eq_nil_iff.mp empty), alike⟩, rfl⟩
    · intro ⟨mergeable, result⟩
      rw [result]
      exact ⟨_, loop.mpr ⟨mergeable.alike, rfl⟩, rfl⟩

/-- The files are merged exactly if they can be, and then the output is read as
the rows of all files in the order of the files, blank where a row was short. -/
theorem merge_csv_files_exact (inputs : List InputFile) (outputName : Str) :
    ((∃ output, mergeCsvFiles inputs outputName = .ok output) ↔ Mergeable inputs) ∧
    ∀ output, mergeCsvFiles inputs outputName = .ok output →
      dictReader output = concatenated (tables inputs) := by
  refine ⟨⟨?_, ?_⟩, ?_⟩
  · intro ⟨output, merged⟩
    exact (mergeCsvFiles_ok_iff.mp merged).1
  · intro mergeable
    exact ⟨_, mergeCsvFiles_ok_iff.mpr ⟨mergeable, rfl⟩⟩
  · intro output merged
    obtain ⟨mergeable, rfl⟩ := mergeCsvFiles_ok_iff.mp merged
    exact dictReader_written (tables_fromFiles inputs) mergeable.alike

end ImagePipeline.Properties.MergedFiles
