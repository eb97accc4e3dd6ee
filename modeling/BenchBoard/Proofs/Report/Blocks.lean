import BenchBoard.Proofs.Report.FullResults
import BenchBoard.Proofs.Text.Separators
/-!
# BenchBoard.Proofs.Report.Blocks

**How the full results are laid out.** Their headers are the fields of all files in the order in
which they are first met, each once (`addFields_eq_append`). Their rows are the blocks of the
entries with one empty row between two of them, whatever is in the blocks (`rows_sheet`). A row is
as wide as the headers from the start, so nothing is cut off and nothing is filled up.

What a file says is only known of entries that were read (`Entry.IsRead`). Their records have the
fields of their header and no others, so in the columns of other files their rows are empty.
-/

namespace BenchBoard

/-! ### Records of accepted files -/

theorem Record.get_of_not_mem {record : Record} {field : String}
    (h : field ∉ record.fields.map (·.1)) : record.get field = "" := by
  have hnone : record.get? field = none := by
    refine List.lookup_eq_none_iff.2 fun p hp => ?_
    rw [bne_iff_ne]
    rintro rfl
    exact h (List.mem_map_of_mem hp)
  rw [get, hnone, Option.getD_none]

/-- The records of an accepted table have the fields of its header and no others. -/
theorem ResultTable.map_fst_fields_of_parse {limits : Limits} {text : String} {table : ResultTable}
    (h : parse limits text = .ok table) :
    ∀ record ∈ table.records, record.fields.map (·.1) = table.header.fields := by
  intro record hrecord
  obtain ⟨line, -, texts, -, -, hkeeps⟩ := exists_line_of_parse h hrecord
  exact hkeeps.all_names

namespace FullResults

variable {known fields : List String} {field name header : String} {column : Nat}
  {entry : String × Results} {loaded : List (String × Results)} {record : Record} {row : List Cell}
  {c : Case}

/-! ### Headers -/

/-- The fields that are not known yet are added, each where it is first met. -/
theorem addFields_eq_append (known fields : List String) :
    addFields known fields = known ++ (fields.filter fun field => field ∉ known).eraseDups := by
  induction fields generalizing known with
  | nil => simp [addFields]
  | cons field fields ih =>
      by_cases h : field ∈ known
      · rw [addFields_cons_of_mem h, ih, List.filter_cons_of_neg (by simpa using h)]
      · have hlater : (fields.filter fun other => other ∉ known).filter
            (fun other => !other == field) =
              fields.filter fun other => other ∉ known ++ [field] := by
          rw [List.filter_filter]
          refine List.filter_congr fun other _ => ?_
          simp [Bool.beq_eq_decide_eq, Bool.and_comm]
        rw [addFields_cons_of_not_mem h, ih, List.filter_cons_of_pos (by simpa using h),
          List.eraseDups_cons, hlater, List.append_assoc, List.singleton_append]

/-! ### Rows -/

/-- The row begins with the name of an entry and shows the values of a record behind it. -/
structure IsRowOf (headers : List String) (name : String) (record : Record) (row : List Cell) :
    Prop where
  width : row.length = headers.length
  first : row[0]? = some (.text name)
  values : ∀ (column : Nat) (header : String), column ≠ 0 → headers[column]? = some header →
    row[column]? = some (.ofText (record.get header))

theorem isRowOf_row (loaded : List (String × Results)) (name : String) (record : Record) :
    IsRowOf (headers loaded) name record (FullResults.row (headers loaded) name record) where
  width := length_row_headers loaded name record
  first := rfl
  values := by
    intro column header hcolumn hheader
    obtain ⟨others, hothers⟩ := exists_headers_eq loaded
    have hdistinct := nodup_headers loaded
    have hfirst : (headers loaded)[0]? = some entryHeader := by rw [hothers]; rfl
    have hne : header ≠ entryHeader := by
      rintro rfl
      have hlt := (List.getElem?_eq_some_iff.1 hheader).1
      exact hcolumn ((List.getElem?_inj hlt hdistinct).1 (hheader.trans hfirst.symm))
    rw [getElem?_row_headers hheader, if_neg hne]

/-- A row has nothing in the column of a field that the record lacks. -/
theorem IsRowOf.eq_empty {headers : List String} (h : IsRowOf headers name record row)
    (hcolumn : column ≠ 0) (hheader : headers[column]? = some header)
    (hlacks : header ∉ record.fields.map (·.1)) : row[column]? = some .empty := by
  rw [h.values column header hcolumn hheader, Record.get_of_not_mem hlacks]
  rfl

theorem rows_sheet_eq_map (c : Case) :
    (sheet c).rows = (rows (headers (c.entries.filterMap loaded?))
      (c.entries.filterMap loaded?)).map (Sheet.resize (sheet c).headers.length) :=
  List.nil_append _

/-- No row of the sheet is cut off or filled up but the empty ones between the blocks. -/
theorem rows_sheet (c : Case) :
    (sheet c).rows = [List.replicate (sheet c).headers.length .empty].intercalate
      ((c.entries.filterMap loaded?).map (block (sheet c).headers)) := by
  have hheaders : (sheet c).headers = headers (c.entries.filterMap loaded?) := rfl
  have hblock : ∀ entry : String × Results,
      (block (headers (c.entries.filterMap loaded?)) entry).map
        (Sheet.resize (sheet c).headers.length) =
          block (headers (c.entries.filterMap loaded?)) entry := by
    intro entry
    rw [block, List.map_map]
    exact List.map_congr_left fun record _ => Sheet.resize_of_length (by
      rw [hheaders, length_row_headers])
  have hblank : Sheet.resize (sheet c).headers.length [] =
      List.replicate (sheet c).headers.length .empty := by
    simp [Sheet.resize]
  rw [rows_sheet_eq_map, rows, map_intercalate, List.map_singleton, hblank, List.map_map]
  congr 1
  exact List.map_congr_left fun entry _ => hblock entry

/-- The block of an entry has one row for each of its records, in order. -/
theorem forall₂_isRowOf_block (loaded : List (String × Results)) (entry : String × Results) :
    List.Forall₂ (IsRowOf (headers loaded) entry.1) entry.2.table.records
      (block (headers loaded) entry) := by
  rw [block, List.forall₂_map_right_iff]
  exact List.forall₂_same.2 fun record _ => isRowOf_row loaded entry.1 record

/-- Every row is one of an entry or empty, so it is as wide as the headers. -/
theorem length_of_mem_rows_sheet (c : Case) (hrow : row ∈ (sheet c).rows) :
    row.length = (sheet c).headers.length := by
  rw [rows_sheet_eq_map] at hrow
  obtain ⟨original, -, rfl⟩ := List.mem_map.1 hrow
  exact Sheet.length_resize _ _

theorem length_rows_sheet (c : Case) :
    (sheet c).rows.length =
      ((c.entries.filterMap loaded?).map (·.2.table.size)).foldr (· + ·) 0 +
        ((c.entries.filterMap loaded?).length - 1) := by
  rw [rows_sheet, length_intercalate, List.map_map, List.length_map, List.length_singleton,
    Nat.one_mul]
  congr 2
  exact List.map_congr_left fun entry _ => length_block _ entry

/-- The records of an entry that was read have the fields of its own header. -/
theorem map_fst_fields_of_mem_loaded (hread : ∀ entry ∈ c.entries, ∃ limits, entry.IsRead limits)
    {entry : String × Results} (hentry : entry ∈ c.entries.filterMap loaded?) :
    ∀ record ∈ entry.2.table.records, record.fields.map (·.1) = entry.2.table.header.fields := by
  obtain ⟨original, hmem, hloaded⟩ := List.mem_filterMap.1 hentry
  obtain ⟨results, hresults, rfl⟩ := Option.map_eq_some_iff.1 hloaded
  obtain ⟨limits, horiginal⟩ := hread original hmem
  obtain ⟨text, htext⟩ := horiginal results hresults
  exact ResultTable.map_fst_fields_of_parse (Results.ofText_eq_ok_iff.1 htext).1

/-- **The layout of the full results.** Behind the column with the names of the entries there is
one for each other field of the loaded files, in the order in which the fields are first met. The
rows are the blocks of the loaded entries in order, with one empty row between two of them. A block
has a row for each record of its entry in file order, with the name of the entry in front. So there
are as many rows as records and one for each block but the last, all as wide as the headers. When
the entries were read from files, the rows of an entry are empty in the columns of fields that its
own header lacks. -/
theorem sheet_layout (c : Case) :
    let loaded := c.entries.filterMap loaded?
    (sheet c).headers.Nodup ∧
    (sheet c).headers = entryHeader ::
      ((loaded.flatMap (·.2.table.header.fields)).filter (· ≠ entryHeader)).eraseDups ∧
    (∃ blocks : List (List (List Cell)),
      (sheet c).rows =
        [List.replicate (sheet c).headers.length .empty].intercalate blocks ∧
      List.Forall₂ (fun entry block =>
        List.Forall₂ (IsRowOf (sheet c).headers entry.1) entry.2.table.records block)
        loaded blocks ∧
      ((∀ entry ∈ c.entries, ∃ limits, entry.IsRead limits) →
        List.Forall₂ (fun entry block => ∀ row ∈ block, ∀ (column : Nat) (header : String),
          column ≠ 0 → (sheet c).headers[column]? = some header →
          header ∉ entry.2.table.header.fields → row[column]? = some .empty) loaded blocks)) ∧
    (∀ row ∈ (sheet c).rows, row.length = (sheet c).headers.length) ∧
    (sheet c).rows.length =
      (loaded.map (·.2.table.size)).foldr (· + ·) 0 + (loaded.length - 1) := by
  intro loaded
  have hheaders : (sheet c).headers = headers loaded := rfl
  refine ⟨nodup_headers loaded, ?_, ⟨loaded.map (block (headers loaded)), rows_sheet c, ?_, ?_⟩,
    fun row => length_of_mem_rows_sheet c, length_rows_sheet c⟩
  · rw [hheaders, headers_eq, addFields_eq_append]
    simp
  · rw [List.forall₂_map_right_iff]
    exact List.forall₂_same.2 fun entry _ => forall₂_isRowOf_block loaded entry
  · intro hread
    rw [List.forall₂_map_right_iff]
    refine List.forall₂_same.2 fun entry hentry row hrow column header hcolumn hheader hlacks => ?_
    obtain ⟨record, hrecord, hrowOf⟩ :=
      exists_of_forall₂ (forall₂_isRowOf_block loaded entry) row hrow
    refine hrowOf.eq_empty hcolumn hheader ?_
    rwa [map_fst_fields_of_mem_loaded hread hentry record hrecord]

open Samples in
/-- The second file has a field that the first one lacks. One row is empty in its column, and so is
the row between the two. -/
theorem sheet_layout_taggedCase :
    (∀ entry ∈ taggedCase.entries, ∃ limits, entry.IsRead limits) ∧
    (∃ blocks, (sheet taggedCase).rows =
        [List.replicate (sheet taggedCase).headers.length .empty].intercalate blocks ∧
      List.Forall₂ (fun entry block => ∀ row ∈ block, ∀ (column : Nat) (header : String),
        column ≠ 0 → (sheet taggedCase).headers[column]? = some header →
        header ∉ entry.2.table.header.fields → row[column]? = some .empty)
        (taggedCase.entries.filterMap loaded?) blocks) ∧
    (sheet taggedCase).headers = ["entry", "name", "real_time", "cpu_time"] ∧
    (sheet taggedCase).rows =
      [[.text "nodes", .text "A/8", .text "1", .empty], [.empty, .empty, .empty, .empty],
        [.text "flat", .text "A/8", .empty, .empty]] := by
  have hread : ∀ entry ∈ taggedCase.entries, ∃ limits, entry.IsRead limits :=
    fun entry hentry => ⟨_, isRead_taggedCase entry hentry⟩
  obtain ⟨-, -, ⟨blocks, hrows, -, hempty⟩, -⟩ := sheet_layout taggedCase
  exact ⟨hread, ⟨blocks, hrows, hempty hread⟩, by decide +kernel, by decide +kernel⟩

end FullResults

end BenchBoard
