/-
What the analyses read of the CSV files that the run has written. They open the
files with translated line ends, so that a cell is read with each of its
carriage returns as a line feed, and `csv` refuses a cell beyond its limit.
-/

import ImagePipeline.Benchmark.MonitorFiles

namespace ImagePipeline.Properties.ReadBack

open Common Benchmark
open Library

theorem dictRow_full {fieldnames fields : List Str} (distinct : fieldnames.Nodup)
    (width : fields.length = fieldnames.length) :
    dictRow fieldnames fields = fullRow (fieldnames.zip fields) := by
  have pairs : fieldnames.zip (fields.map some ++
      List.replicate (fieldnames.length - fields.length) none) =
      (fieldnames.zip fields).map (fun cell => (cell.1, some cell.2)) := by
    rw [width, Nat.sub_self, List.replicate_zero, List.append_nil, List.zip_map_right]
    rfl
  have keys : ((fieldnames.zip fields).map (fun cell => (cell.1, some cell.2))).map Prod.fst =
      fieldnames := by
    rw [List.map_map]
    exact List.map_fst_zip (le_of_eq width.symm)
  unfold dictRow fullRow
  dsimp only
  rw [pairs, entriesOf_of_nodup (by rw [keys]; exact distinct), width,
    if_neg (Nat.lt_irrefl _)]

theorem translated_of_not_mem {text : Str} (plain : codePoint '\r' ∉ text) :
    excel.translated text = text := by
  induction text with
  | nil => rfl
  | cons letter text ih =>
      rw [List.mem_cons, not_or] at plain
      rw [CsvDialect.translated_cons (Ne.symm plain.1), ih plain.2]

def translatedCells (fields : List Str) : List Str := fields.map excel.translated

theorem loadCsv_writeCsv (names : List Str) (rows : List (List Str)) :
    loadCsv (some (writeCsv (names :: rows))) =
      if ∀ row ∈ names :: rows, excel.fits (translatedCells row) = true then
        .ok (((rows.map translatedCells).filter (fun fields => fields ≠ [])).map
          (dictRow (translatedCells names)))
      else .error .fieldTooLong := by
  have read := CsvDialect.readRows_writeRows excel .lineFeed
    ((names :: rows).map translatedCells)
  have written : excel.translated (writeCsv (names :: rows)) =
      excel.writeRows [excel.lineFeed] ((names :: rows).map translatedCells) :=
    CsvDialect.translated_writeRows (names :: rows)
  unfold loadCsv
  dsimp only
  rw [written, read]
  by_cases fits : ∀ row ∈ names :: rows, excel.fits (translatedCells row) = true
  · have all : ∀ row ∈ (names :: rows).map translatedCells, excel.fits row = true :=
      List.forall_mem_map.mpr fits
    rw [List.takeWhile_eq_self_iff.mpr all, if_pos (List.all_eq_true.mpr all), if_pos fits]
    rfl
  · have some : ¬((names :: rows).map translatedCells).all excel.fits = true := by
      intro all
      exact fits (List.forall_mem_map.mp (List.all_eq_true.mp all))
    rw [if_neg some, if_neg fits]
    unfold dictTable
    cases List.takeWhile excel.fits (List.map translatedCells (names :: rows)) <;> rfl

def plainName (name : Str) : Bool :=
  decide (codePoint '\r' ∉ name) && decide (name.length ≤ excel.fieldLimit)

theorem translated_plainNames {names : List Str} (plain : ∀ name ∈ names, plainName name = true) :
    translatedCells names = names := by
  have each : ∀ name ∈ names, excel.translated name = id name := fun name member =>
    translated_of_not_mem (of_decide_eq_true (Bool.and_eq_true_iff.mp (plain name member)).1)
  rw [translatedCells, List.map_congr_left each, List.map_id]

theorem loadCsv_text (table : CsvTable)
    (plain : ∀ name ∈ table.fieldnames, plainName name = true) :
    loadCsv (some table.text) =
      if ∀ row ∈ table.rows, excel.fits (translatedCells row) = true then
        .ok (table.rows.map (fun row => fullRow (table.fieldnames.zip (translatedCells row))))
      else .error .fieldTooLong := by
  have names := translated_plainNames plain
  have shortNames : excel.fits (translatedCells table.fieldnames) = true := by
    rw [names]
    refine List.all_eq_true.mpr fun name member => ?_
    exact (Bool.and_eq_true_iff.mp (plain name member)).2
  have width {row : List Str} (member : row ∈ table.rows) :
      (translatedCells row).length = table.fieldnames.length := by
    rw [translatedCells, List.length_map, table.widths row member]
  have kept : (table.rows.map translatedCells).filter (fun fields => fields ≠ []) =
      table.rows.map translatedCells := by
    refine List.filter_eq_self.mpr fun fields member => decide_eq_true ?_
    obtain ⟨row, inside, rfl⟩ := List.mem_map.mp member
    refine List.ne_nil_of_length_pos ?_
    rw [width inside]
    exact List.length_pos_of_ne_nil table.named
  rw [CsvTable.text, loadCsv_writeCsv]
  simp only [List.forall_mem_cons, shortNames, true_and]
  rw [kept, List.map_map, names]
  split_ifs with short
  · refine congrArg Except.ok (List.map_congr_left fun row member => ?_)
    exact dictRow_full table.distinct (width member)
  · rfl

/-! ### The error timeline -/

theorem errorFieldnames_plain : ∀ name ∈ errorFieldnames, plainName name = true := by decide

/-- The reports and the plots read the rows of the error timeline, with line feeds
for the carriage returns of a message, unless a message is too long; then they
raise. -/
theorem error_timeline_read_back (runtime : LogRuntime) (rows : List ErrorRow) :
    loadCsv (some (errorTable runtime rows).text) =
      (if ∀ row ∈ rows, excel.fits (translatedCells (row.cells runtime)) = true then
        .ok (rows.map (fun row =>
          fullRow (errorFieldnames.zip (translatedCells (row.cells runtime)))))
      else .error .fieldTooLong) ∧
    (countCsvRows (some (errorTable runtime rows).text) = .ok rows.length ↔
      ∀ row ∈ rows, excel.fits (translatedCells (row.cells runtime)) = true) := by
  have loaded := loadCsv_text (errorTable runtime rows) errorFieldnames_plain
  simp only [errorTable, List.forall_mem_map, List.map_map] at loaded
  refine ⟨loaded, ?_⟩
  unfold countCsvRows
  simp only [errorTable]
  rw [loaded]
  split_ifs with short
  · refine iff_of_true ?_ short
    rw [Except.map, List.length_map]
  · exact iff_of_false (fun counted => nomatch counted) short

end ImagePipeline.Properties.ReadBack
