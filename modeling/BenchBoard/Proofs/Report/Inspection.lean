import BenchBoard.Proofs.Series.Provenance
import BenchBoard.Report.Inspection
/-!
# BenchBoard.Proofs.Report.Inspection

**What can be read back of an inspection as CSV.** The texts of a series have no line feeds, so the
CSV has one line for the headers and one for each size, whatever the file says
(`Sheet.splitOn_toCsv`). Whether the reader gets the fields of such a line back is a matter of
these fields alone. It does not always: a field is trimmed after it was read, and a
backslash that a blank had kept from the end is then the last character. No line has such a
field.
-/

namespace BenchBoard

open BenchBoard.Text

/-! ### Sheets as CSV -/

@[simp] theorem Cell.exact_ofText (s : String) : (ofText s).exact = s := by
  unfold ofText
  split
  · rename_i hempty
    exact (String.isEmpty_iff.1 hempty).symm
  · rfl

namespace Sheet

/-- The fields of each line of the CSV. -/
def csvFields (sheet : Sheet) : List (List String) :=
  sheet.headers :: sheet.rows.map (·.map Cell.exact)

theorem splitOn_join {lines : List String} (h : ∀ line ∈ lines, Unbroken line) :
    (String.join (lines.map (· ++ "\n"))).toList.splitOn '\n' =
      lines.map String.toList ++ [[]] := by
  induction lines with
  | nil => rfl
  | cons line lines ih =>
      rw [List.forall_mem_cons] at h
      have hjoin : (String.join ((line :: lines).map (· ++ "\n"))).toList =
          line.toList ++ '\n' :: (String.join (lines.map (· ++ "\n"))).toList := by
        simp
      rw [hjoin, List.splitOn_append_cons_self_of_not_mem h.1, ih h.2]
      rfl

theorem unbroken_format {texts : List String} (h : ∀ text ∈ texts, Unbroken text) :
    Unbroken (Csv.format texts) := by
  intro hmem
  rcases Csv.mem_format hmem with hreserved | ⟨text, htext, hfeed⟩
  · exact absurd hreserved (by decide)
  · exact h text htext hfeed

/-- As long as no field has a line feed, the lines of the CSV are those of its fields. -/
theorem splitOn_toCsv {sheet : Sheet}
    (h : ∀ fields ∈ sheet.csvFields, ∀ field ∈ fields, Unbroken field) :
    sheet.toCsv.toList.splitOn '\n' =
      (sheet.csvFields.map Csv.format).map String.toList ++ [[]] := by
  have hlines : ∀ line ∈ sheet.csvFields.map Csv.format, Unbroken line := by
    intro line hline
    obtain ⟨fields, hfields, rfl⟩ := List.mem_map.1 hline
    exact unbroken_format (h fields hfields)
  rw [← splitOn_join hlines, List.map_map]
  rfl

end Sheet

namespace Series

variable {series : Series}

/-- The fields of the size at this place: its label and the value of each metric. -/
def fieldsAt (series : Series) (index : Nat) (size : String) : List String :=
  size :: series.columns.map fun column => column.values[index]?.getD ""

@[simp] theorem length_cellsAt (series : Series) (index : Nat) (size : String) :
    (series.cellsAt index size).length = series.metricNames.length + 1 := by
  simp [metricNames, cellsAt]

/-- Rows are as wide as the headers, so none is cut off or filled up. -/
theorem rows_sheet (series : Series) :
    series.sheet.rows = series.sizes.toList.mapIdx series.cellsAt := by
  refine Sheet.rows_pushAll_new _ fun row hrow => ?_
  obtain ⟨index, hindex, rfl⟩ := List.mem_mapIdx.1 hrow
  rw [length_cellsAt, List.length_cons]

theorem map_exact_cellsAt (series : Series) (index : Nat) (size : String) :
    (series.cellsAt index size).map Cell.exact = series.fieldsAt index size := by
  simp [cellsAt, fieldsAt]

theorem csvFields_sheet (series : Series) :
    series.sheet.csvFields =
      ("size" :: series.metricNames) :: series.sizes.toList.mapIdx series.fieldsAt := by
  refine congrArg (List.cons _) (List.ext_getElem? fun index => ?_)
  simp only [rows_sheet, List.getElem?_map, List.getElem?_mapIdx, Option.map_map,
    Function.comp_def, map_exact_cellsAt]

theorem IsUnbroken.fieldsAt (h : series.IsUnbroken) {index : Nat} {size : String}
    (hsize : size ∈ series.sizes.toList) :
    ∀ field ∈ series.fieldsAt index size, Unbroken field := by
  refine List.forall_mem_cons.2 ⟨h.sizes size hsize, ?_⟩
  intro field hfield
  obtain ⟨column, hcolumn, rfl⟩ := List.mem_map.1 hfield
  cases hvalue : column.values[index]? with
  | none => exact unbroken_empty
  | some value =>
      have hmem : value ∈ column.values.toList :=
        Array.mem_toList_iff.2 (Array.mem_of_getElem? hvalue)
      exact h.values column hcolumn value hmem

theorem IsUnbroken.csvFields (h : series.IsUnbroken) :
    ∀ fields ∈ series.sheet.csvFields, ∀ field ∈ fields, Unbroken field := by
  rw [csvFields_sheet]
  refine List.forall_mem_cons.2 ⟨List.forall_mem_cons.2 ⟨by simp [Unbroken], h.names⟩, ?_⟩
  intro fields hfields
  obtain ⟨index, hindex, rfl⟩ := List.mem_mapIdx.1 hfields
  exact h.fieldsAt (List.getElem_mem hindex)

/-- The CSV of the series has a line for the headers and one for each size. Every line is
related to the fields that it is written for: to the headers, or to the label of its size
followed by the value of every metric there. -/
def CsvLines (series : Series) (related : String → List String → Prop) : Prop :=
  ∃ (first : String) (rest : List String),
    series.sheet.toCsv.toList.splitOn '\n' = (first :: rest).map String.toList ++ [[]] ∧
    rest.length = series.size ∧
    related first ("size" :: series.metricNames) ∧
    ∀ (index : Nat) (size : String), series.sizes[index]? = some size →
      ∃ (line : String) (values : List String), rest[index]? = some line ∧
        series.columns.map (fun column => column.values[index]?) = values.map some ∧
        related line (size :: values)

theorem CsvLines.imp {related related' : String → List String → Prop}
    (h : series.CsvLines related)
    (himp : ∀ line fields, related line fields → related' line fields) :
    series.CsvLines related' := by
  obtain ⟨first, rest, hsplit, hlength, hfirst, hrest⟩ := h
  refine ⟨first, rest, hsplit, hlength, himp _ _ hfirst, ?_⟩
  intro index size hsize
  obtain ⟨line, values, hline, hvalues, hrelated⟩ := hrest index size hsize
  exact ⟨line, values, hline, hvalues, himp _ _ hrelated⟩

/-- Each line is written for its fields. -/
theorem csvLines_format (h : series.IsUnbroken)
    (haligned : ∀ column ∈ series.columns, column.values.size = series.size) :
    series.CsvLines fun line fields => line = Csv.format fields := by
  refine ⟨Csv.format ("size" :: series.metricNames),
    (series.sizes.toList.mapIdx series.fieldsAt).map Csv.format, ?_, ?_, rfl, ?_⟩
  · rw [Sheet.splitOn_toCsv h.csvFields, csvFields_sheet, List.map_cons]
  · simp [size]
  · intro index size hsize
    obtain ⟨hlt, -⟩ := Array.getElem?_eq_some_iff.1 hsize
    refine ⟨Csv.format (series.fieldsAt index size),
      series.columns.map (fun column => column.values[index]?.getD ""), ?_, ?_, ?_⟩
    · rw [List.getElem?_map, List.getElem?_mapIdx, Array.getElem?_toList, hsize]
      rfl
    · rw [List.map_map]
      refine List.map_congr_left ?_
      intro column hcolumn
      have hvalue : index < column.values.size := by
        rw [haligned column hcolumn]
        exact hlt
      simp [hvalue]
    · rfl

end Series

namespace Results

/-- The CSV of any result file that is accepted has a line for the headers and one for each size.
A line gives its fields back exactly when each of them can be written: in one of the quotes,
no run of backslashes of odd length stands directly before that quote or at the end. -/
theorem csvLines_parse_iff {limits : Limits} {text : String} {results : Results}
    (h : ofText limits text = .ok results) :
    results.series.CsvLines fun line fields =>
      (Csv.parse line = .ok fields ↔ ∀ field ∈ fields, Csv.Writable field) := by
  obtain ⟨-, hseries⟩ := ofText_eq_ok_iff.1 h
  have hformat := Series.csvLines_format (isUnbroken h)
    (Series.summarizes_of_aggregate hseries).aligned
  refine hformat.imp ?_
  rintro line fields rfl
  simp only [Csv.parse_format_iff, Csv.representable_iff_writable]

/-- A file with a value that ends in one backslash, and one with a value that ends in two. -/
theorem csvLines_parse_iff_of_backslashes :
    ∃ results, ofText .standard "name,x\nA/8,\"a\\ \"\nA/16,\"b\\\\\"" = .ok results ∧
      results.series.CsvLines fun line fields =>
        (Csv.parse line = .ok fields ↔ ∀ field ∈ fields, Csv.Writable field) := by
  have hok : ofText .standard "name,x\nA/8,\"a\\ \"\nA/16,\"b\\\\\"" = .ok
      ⟨⟨⟨["name", "x"]⟩, 1, [⟨2, [("name", "A/8"), ("x", "a\\")]⟩,
          ⟨3, [("name", "A/16"), ("x", "b\\\\")]⟩]⟩,
        { caseName := some "A", sizes := #["8", "16"],
          columns := [⟨"x", #["a\\", "b\\\\"]⟩] }⟩ := by
    decide +kernel
  exact ⟨_, hok, csvLines_parse_iff hok⟩

/-- Not every line gives its fields back. After trimming, the value of this file ends in a
single backslash, and there is no line that has such a field. -/
theorem not_csvLines_parse :
    ∃ results, ofText .standard "name,x\nA/8,\"a\\ \"" = .ok results ∧
      ¬ results.series.CsvLines fun line fields => Csv.parse line = .ok fields := by
  have hok : ofText .standard "name,x\nA/8,\"a\\ \"" = .ok
      ⟨⟨⟨["name", "x"]⟩, 1, [⟨2, [("name", "A/8"), ("x", "a\\")]⟩]⟩,
        { caseName := some "A", sizes := #["8"], columns := [⟨"x", #["a\\"]⟩] }⟩ := by
    decide +kernel
  refine ⟨_, hok, ?_⟩
  rintro ⟨first, rest, -, -, -, hrest⟩
  obtain ⟨line, values, -, hvalues, hparse⟩ := hrest 0 "8" rfl
  have hvalue : ["a\\"].map some = values.map some := hvalues
  obtain rfl := (List.map_inj_right fun _ _ => Option.some.inj).1 hvalue
  -- The fields of a line are representable, whatever the line is.
  obtain ⟨q, hq⟩ := Csv.representable_of_parse hparse "a\\" (by simp)
  cases q <;> exact absurd hq (by decide)

end Results

end BenchBoard
