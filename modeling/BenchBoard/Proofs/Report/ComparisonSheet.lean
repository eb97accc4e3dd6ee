import BenchBoard.Proofs.Comparison.Cells
import BenchBoard.Report.Sheets
/-!
# BenchBoard.Proofs.Report.ComparisonSheet

**The sheet of a comparison is a picture of it.** A sheet gives each row the width of its headers
and says nothing when it cuts one off, so everything rests on the shape of a comparison: each row
has a value and a speedup for each entry (`Covers`). Then the rows of the sheet are those of the
comparison as they are (`rows_sheet`), each cell stands in the column of what it shows
(`pictures_sheet`), and the comparison can be read off the sheet, but for the reasons of the
speedups that are missing (`matches_of_sheet_eq`).
-/

namespace BenchBoard

/-! ### Cells of texts -/

theorem Cell.ofText_eq_ite (s : String) : ofText s = if s = "" then .empty else .text s := by
  simp [ofText]

/-- A cell shows the text that it was made of, so no two texts have the same cell. -/
theorem Cell.ofText_injective : Function.Injective ofText := by
  intro s t h
  rw [ofText_eq_ite, ofText_eq_ite] at h
  split at h <;> split at h <;> simp_all

namespace Comparison

variable {entries : List NamedSeries} {baseline index place column : Nat} {metric : Metric}
  {comparison comparison' : Comparison} {row row' : ComparisonRow} {cell : SpeedupCell} {x : Float}

/-! ### Cells of speedups -/

theorem speedupCell_eq_number_iff : speedupCell cell = .number x ↔ cell = .ok x := by
  cases cell <;> simp [speedupCell]

theorem speedupCell_eq_empty_iff : speedupCell cell = .empty ↔ ∃ e, cell = .error e := by
  cases cell <;> simp [speedupCell]

/-! ### Rows of the sheet -/

@[simp] theorem headers_sheet (comparison : Comparison) :
    comparison.sheet.headers = "size" :: comparison.columnNames := rfl

@[simp] theorem length_columnNames (comparison : Comparison) :
    comparison.columnNames.length = 2 * comparison.entries.length := by
  simp [columnNames, Nat.two_mul]

theorem length_cells (row : ComparisonRow) :
    (cells row).length = 1 + row.values.length + row.speedups.length := by
  simp [cells]
  omega

/-- The rows of a comparison have as many values, and as many speedups, as there are entries. -/
theorem Covers.length_row (h : comparison.Covers entries baseline) (hrow : row ∈ comparison.rows) :
    row.values.length = comparison.entries.length ∧
      row.speedups.length = comparison.entries.length := by
  rw [h.values row hrow, h.speedups row hrow, h.names, List.length_map]
  exact ⟨rfl, rfl⟩

/-- No row is filled up or cut off. -/
theorem rows_sheet (h : comparison.Covers entries baseline) :
    comparison.sheet.rows = comparison.rows.map cells := by
  refine Sheet.rows_pushAll_new _ (List.forall_mem_map.2 fun row hrow => ?_)
  obtain ⟨hvalues, hspeedups⟩ := h.length_row hrow
  rw [length_cells, hvalues, hspeedups, List.length_cons, length_columnNames]
  omega

theorem cell?_sheet (h : comparison.Covers entries baseline)
    (hrow : comparison.rows[index]? = some row) (column : Nat) :
    comparison.sheet.cell? index column = (cells row)[column]? := by
  rw [Sheet.cell?, rows_sheet h, List.getElem?_map, hrow]
  rfl

/-- The values stand behind the size, in the order of the entries. -/
theorem getElem?_cells_value (hplace : place < row.values.length) :
    (cells row)[1 + place]? = row.values[place]?.map Cell.ofText := by
  rw [cells, Nat.add_comm, List.cons_append, List.getElem?_cons_succ,
    List.getElem?_append_left (by simpa using hplace), List.getElem?_map]

/-- The speedups stand behind the values, in the order of the entries. -/
theorem getElem?_cells_speedup (row : ComparisonRow) (place : Nat) :
    (cells row)[1 + row.values.length + place]? = row.speedups[place]?.map speedupCell := by
  rw [cells, List.cons_append, Nat.add_assoc, Nat.add_comm, List.getElem?_cons_succ,
    List.getElem?_append_right (by simp), List.getElem?_map]
  simp

/-! ### What a cell shows -/

/-- The sheet shows what the comparison says of an entry at a size: the label of the size, the
value of the entry and its speedup, each in a column of its own. A cell is empty exactly when the
value is, or when there is no speedup. -/
structure Pictures (comparison : Comparison) (sheet : Sheet) (index place : Nat) : Prop where
  size : ∃ row, comparison.rows[index]? = some row ∧ sheet.cell? index 0 = some (.text row.size)
  value : ∃ row text, comparison.rows[index]? = some row ∧ row.values[place]? = some text ∧
    sheet.cell? index (1 + place) = some (if text = "" then .empty else .text text)
  speedup : ∃ cell, comparison.speedup? index place = some cell ∧
    (∀ x, sheet.cell? index (1 + comparison.entries.length + place) = some (.number x) ↔
      cell = .ok x) ∧
    (sheet.cell? index (1 + comparison.entries.length + place) = some .empty ↔
      ∃ e, cell = .error e)

theorem pictures_sheet (h : comparison.Covers entries baseline)
    (hindex : index < comparison.rows.length) (hplace : place < comparison.entries.length) :
    comparison.Pictures comparison.sheet index place := by
  obtain ⟨row, hrow⟩ : ∃ row, comparison.rows[index]? = some row :=
    ⟨_, List.getElem?_eq_getElem hindex⟩
  obtain ⟨hvalues, hspeedups⟩ := h.length_row (List.mem_of_getElem? hrow)
  rw [← hvalues] at hplace
  obtain ⟨text, htext⟩ : ∃ text, row.values[place]? = some text :=
    ⟨_, List.getElem?_eq_getElem hplace⟩
  obtain ⟨cell, hcell⟩ : ∃ cell, row.speedups[place]? = some cell :=
    ⟨_, List.getElem?_eq_getElem (by omega)⟩
  have hshown : comparison.sheet.cell? index (1 + comparison.entries.length + place) =
      some (speedupCell cell) := by
    rw [cell?_sheet h hrow, ← hvalues, getElem?_cells_speedup, hcell, Option.map_some]
  refine ⟨⟨row, hrow, cell?_sheet h hrow 0⟩, ⟨row, text, hrow, htext, ?_⟩, ⟨cell, ?_, ?_, ?_⟩⟩
  · rw [cell?_sheet h hrow, getElem?_cells_value hplace, htext, Option.map_some,
      Cell.ofText_eq_ite]
  · rw [speedup?, hrow, Option.bind_some, hcell]
  · intro x
    rw [hshown, Option.some.injEq, speedupCell_eq_number_iff]
  · rw [hshown, Option.some.injEq, speedupCell_eq_empty_iff]

/-! ### Reading a comparison off its sheet -/

/-- The comparisons say the same, but for the reasons why speedups are missing. -/
structure Matches (comparison comparison' : Comparison) : Prop where
  entries : comparison.entries = comparison'.entries
  sizes : comparison.rows.map (·.size) = comparison'.rows.map (·.size)
  values : comparison.rows.map (·.values) = comparison'.rows.map (·.values)
  speedups : ∀ index place x, comparison.speedup? index place = some (.ok x) ↔
    comparison'.speedup? index place = some (.ok x)

theorem entries_eq_of_columnNames_eq (h : comparison.columnNames = comparison'.columnNames) :
    comparison.entries = comparison'.entries := by
  have hlength : comparison.entries.length = comparison'.entries.length := by
    have := congrArg List.length h
    rw [length_columnNames, length_columnNames] at this
    omega
  exact List.append_inj_left h hlength

/-- A row can be read off its cells when it is known how many of them are values. -/
theorem cells_inj (hlength : row.values.length = row'.values.length) (h : cells row = cells row') :
    row.size = row'.size ∧ row.values = row'.values ∧
      row.speedups.map speedupCell = row'.speedups.map speedupCell := by
  rw [cells, cells, List.cons_append, List.cons_append] at h
  obtain ⟨hsize, htail⟩ := List.cons.inj h
  obtain ⟨hvalues, hspeedups⟩ := List.append_inj htail (by simpa using hlength)
  exact ⟨Cell.text.inj hsize, List.map_injective_iff.2 Cell.ofText_injective hvalues, hspeedups⟩

/-- Whatever can be read off the cells of one row can be read off those of all rows. -/
theorem map_eq_of_map_cells_eq {β : Type} {count : Nat} {f : ComparisonRow → β}
    (hf : ∀ row row', row.values.length = row'.values.length → cells row = cells row' →
      f row = f row') {rows rows' : List ComparisonRow}
    (hrows : ∀ row ∈ rows, row.values.length = count)
    (hrows' : ∀ row ∈ rows', row.values.length = count) (h : rows.map cells = rows'.map cells) :
    rows.map f = rows'.map f := by
  induction rows generalizing rows' with
  | nil =>
      cases rows' with
      | nil => rfl
      | cons row' rows' => cases h
  | cons row rows ih =>
      cases rows' with
      | nil => cases h
      | cons row' rows' =>
          rw [List.forall_mem_cons] at hrows hrows'
          obtain ⟨hrow, htail⟩ := List.cons.inj h
          rw [List.map_cons, List.map_cons, ih hrows.2 hrows'.2 htail,
            hf row row' (hrows.1.trans hrows'.1.symm) hrow]

/-- The cells of the speedups, looked up as the speedups are. -/
theorem map_speedup? (comparison : Comparison) (index place : Nat) :
    (comparison.speedup? index place).map speedupCell =
      (comparison.rows.map fun row => row.speedups.map speedupCell)[index]?.bind (·[place]?) := by
  rw [speedup?, List.getElem?_map]
  cases comparison.rows[index]? <;> simp

theorem speedup?_eq_ok_iff :
    comparison.speedup? index place = some (.ok x) ↔
      (comparison.speedup? index place).map speedupCell = some (.number x) := by
  cases comparison.speedup? index place <;> simp [speedupCell_eq_number_iff]

theorem matches_of_sheet_eq {entries' : List NamedSeries} {baseline' : Nat}
    (h : comparison.Covers entries baseline) (h' : comparison'.Covers entries' baseline')
    (hsheet : comparison.sheet = comparison'.sheet) : comparison.Matches comparison' := by
  have hentries : comparison.entries = comparison'.entries :=
    entries_eq_of_columnNames_eq (List.cons.inj (congrArg Sheet.headers hsheet)).2
  have hrows : comparison.rows.map cells = comparison'.rows.map cells := by
    rw [← rows_sheet h, ← rows_sheet h', hsheet]
  have hread : ∀ {β : Type} (f : ComparisonRow → β),
      (∀ row row', row.values.length = row'.values.length → cells row = cells row' →
        f row = f row') → comparison.rows.map f = comparison'.rows.map f := by
    intro β f hf
    refine map_eq_of_map_cells_eq hf (fun row hrow => (h.length_row hrow).1) ?_ hrows
    intro row hrow
    rw [hentries]
    exact (h'.length_row hrow).1
  refine ⟨hentries, hread _ fun _ _ hlength hcells => (cells_inj hlength hcells).1,
    hread _ fun _ _ hlength hcells => (cells_inj hlength hcells).2.1, fun index place x => ?_⟩
  rw [speedup?_eq_ok_iff, speedup?_eq_ok_iff, map_speedup?, map_speedup?,
    hread _ fun _ _ hlength hcells => (cells_inj hlength hcells).2.2]

/-- **The sheet of a comparison is a faithful picture of it.** It has a column for the size and two
for each entry, and a row for each row of the comparison, which is neither filled up nor cut off. In
the row of a size the label stands first, and the value and the speedup of each entry stand in
their columns, a speedup exactly when there is one. So comparisons with the same sheet have the same
entries, labels, values and speedups. -/
theorem sheet_faithful (h : compare entries baseline metric = .ok comparison) :
    comparison.entries = entries.map (·.1) ∧
    comparison.sheet.headers = "size" :: (entries.map (·.1) ++
      entries.map fun entry => entry.1 ++ "[speedup]") ∧
    comparison.sheet.headers.length = 1 + 2 * entries.length ∧
    comparison.sheet.rows = comparison.rows.map cells ∧
    (∀ row ∈ comparison.sheet.rows, row.length = 1 + 2 * entries.length) ∧
    (∀ index place, index < comparison.rows.length → place < entries.length →
      comparison.Pictures comparison.sheet index place) ∧
    ∀ entries' baseline' metric' comparison',
      compare entries' baseline' metric' = .ok comparison' →
      comparison.sheet = comparison'.sheet → comparison.Matches comparison' := by
  have hcovers := covers_of_compare h
  have hcount : comparison.entries.length = entries.length := by
    rw [hcovers.names, List.length_map]
  refine ⟨hcovers.names, ?_, ?_, rows_sheet hcovers, ?_, ?_, ?_⟩
  · rw [headers_sheet, columnNames, hcovers.names, List.map_map]
    rfl
  · rw [headers_sheet, List.length_cons, length_columnNames, hcount, Nat.add_comm]
  · intro cells hcells
    rw [rows_sheet hcovers] at hcells
    obtain ⟨row, hrow, rfl⟩ := List.mem_map.1 hcells
    obtain ⟨hvalues, hspeedups⟩ := hcovers.length_row hrow
    rw [length_cells, hvalues, hspeedups, hcount]
    omega
  · intro index place hindex hplace
    exact pictures_sheet hcovers hindex (hcount ▸ hplace)
  · intro entries' baseline' metric' comparison' h' hsheet
    exact matches_of_sheet_eq hcovers (covers_of_compare h') hsheet

/-- An entry with a zero has no speedup. The sheet does not tell the ratios from their inverses
here, but all that the comparisons say of entries, sizes, values and speedups is the same. -/
theorem sheet_faithful_of_zero :
    let base : Series := { sizes := #["8"], columns := [⟨"real_time", #["40"]⟩] }
    let other : Series := { sizes := #["8"], columns := [⟨"real_time", #["0"]⟩] }
    ∃ comparison comparison' : Comparison,
      compare [("nodes", base), ("flat", other)] 0 ⟨"real_time", false⟩ = .ok comparison ∧
      compare [("nodes", base), ("flat", other)] 0 ⟨"real_time", true⟩ = .ok comparison' ∧
      comparison.sheet.headers = ["size", "nodes", "flat", "nodes[speedup]", "flat[speedup]"] ∧
      comparison.sheet.rows = [[.text "8", .text "40", .text "0", .number 1, .empty]] ∧
      comparison.Pictures comparison.sheet 0 1 ∧
      comparison.sheet = comparison'.sheet ∧ comparison.Matches comparison' := by
  intro base other
  have h : ∀ metric, compare [("nodes", base), ("flat", other)] 0 metric =
      .ok (ofAligned [("nodes", base), ("flat", other)] 0 base metric) := by
    intro metric
    refine (compare_eq_ok_iff rfl).2 ⟨?_, rfl⟩
    simp [Series.size, base, other]
  have hrows : ∀ reciprocal, (ofAligned [("nodes", base), ("flat", other)] 0 base
      ⟨"real_time", reciprocal⟩).sheet.rows =
        [[.text "8", .text "40", .text "0", .number 1, .empty]] := by
    decide +kernel
  have hsheet : (ofAligned [("nodes", base), ("flat", other)] 0 base ⟨"real_time", false⟩).sheet =
      (ofAligned [("nodes", base), ("flat", other)] 0 base ⟨"real_time", true⟩).sheet :=
    congrArg (Sheet.mk _ _) ((hrows false).trans (hrows true).symm)
  obtain ⟨-, hheaders, -, -, -, hpictures, hmatches⟩ := sheet_faithful (h ⟨"real_time", false⟩)
  refine ⟨_, _, h _, h _, hheaders.trans (by simp), hrows false, hpictures 0 1 ?_ (by decide),
    hsheet, hmatches _ _ _ _ (h _) hsheet⟩
  rw [length_rows_ofAligned]
  decide

end Comparison

end BenchBoard
