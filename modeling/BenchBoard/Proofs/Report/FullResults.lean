import Mathlib.Data.List.Nodup
import BenchBoard.Proofs.Catalogue.Origin
import BenchBoard.Report.Sheets
import BenchBoard.Samples.Pairs
/-!
# BenchBoard.Proofs.Report.FullResults

**Where the full results show a field.** The headers are those of all files, each once, behind that
of the column with the names of the entries (`nodup_headers`, `mem_headers`). So every field has
exactly one column. The rows of an entry begin where those of the entries in front of it and the
blank rows after them end (`getElem?_rows`).

A record shows each of its values in the column of its field, with one exception: a field that is
called like the first column has no column of its own, and its values are not shown
(`sheet_shows`).
-/

namespace BenchBoard

namespace Sheet

variable {sheet : Sheet} {title header : String} {headers : List String} {rows : List (List Cell)}
  {row : List Cell} {place column : Nat}

/-- The column of a header, when no header occurs twice. -/
theorem column?_of_getElem? (hdistinct : sheet.headers.Nodup)
    (h : sheet.headers[column]? = some header) : sheet.column? header = some column := by
  obtain ⟨hlt, rfl⟩ := List.getElem?_eq_some_iff.1 h
  refine List.findIdx?_eq_some_iff_getElem.2 ⟨hlt, by simp, fun other hother => ?_⟩
  rw [beq_iff_eq, List.Nodup.getElem_inj_iff hdistinct]
  omega

/-- A row that is as wide as the headers stays as it is. -/
theorem cell?_pushAll_new (hrow : rows[place]? = some row) (hwidth : row.length = headers.length) :
    ((new title headers).pushAll rows).cell? place column = row[column]? := by
  simp [cell?, pushAll, new, hrow, resize_of_length hwidth]

end Sheet

/-! ### Accepted records -/

/-- The record has a value for each name, in the order of the names. -/
def Record.HasAll (names : List String) (record : Record) : Prop :=
  ∀ (i : Nat) (name : String), names[i]? = some name →
    ∃ value, record.fields[i]? = some (name, value) ∧ record.get? name = some value

namespace ResultTable

variable {names : List String} {record : Record}

theorem Holds.hasAll {line : NumberedLine} (h : Holds names line record)
    (hdistinct : names.Nodup) : record.HasAll names := by
  obtain ⟨texts, -, hfits, hkeeps⟩ := h
  intro i name hname
  obtain ⟨hlt, -⟩ := List.getElem?_eq_some_iff.1 hname
  obtain ⟨text, htext⟩ : ∃ text, texts[i]? = some text :=
    ⟨_, List.getElem?_eq_getElem (Nat.lt_of_lt_of_le hlt hfits.1)⟩
  refine ⟨Text.trim text, ?_, hkeeps.found i name text hname htext⟩
  rw [(Record.keeps_iff hdistinct hfits.1).1 hkeeps]
  exact List.getElem?_zip_eq_some.2 ⟨hname, by rw [List.getElem?_map, htext]; rfl⟩

/-- The records of an accepted table have all fields of its header. -/
theorem hasAll_of_parse {limits : Limits} {text : String} {table : ResultTable}
    (h : parse limits text = .ok table) :
    ∀ record ∈ table.records, record.HasAll table.header.fields := by
  intro record hrecord
  obtain ⟨line, -, hline⟩ := exists_line_of_parse h hrecord
  exact hline.hasAll (nodup_of_parse h)

end ResultTable

namespace FullResults

variable {known fields : List String} {field name : String} {loaded : List (String × Results)}
  {entry : String × Results} {record : Record} {place index column : Nat}

/-! ### Headers -/

theorem addFields_cons_of_mem (h : field ∈ known) (fields : List String) :
    addFields known (field :: fields) = addFields known fields := by
  simp [addFields, h]

theorem addFields_cons_of_not_mem (h : field ∉ known) (fields : List String) :
    addFields known (field :: fields) = addFields (known ++ [field]) fields := by
  simp [addFields, h]

theorem mem_addFields : field ∈ addFields known fields ↔ field ∈ known ∨ field ∈ fields := by
  induction fields generalizing known with
  | nil => simp [addFields]
  | cons other fields ih =>
      by_cases h : other ∈ known
      · rw [addFields_cons_of_mem h, ih, List.mem_cons]
        constructor
        · exact Or.imp_right .inr
        · rintro (hfield | rfl | hfield)
          · exact .inl hfield
          · exact .inl h
          · exact .inr hfield
      · rw [addFields_cons_of_not_mem h, ih, List.mem_append, List.mem_singleton, List.mem_cons,
          or_assoc]

theorem nodup_addFields (h : known.Nodup) : (addFields known fields).Nodup := by
  induction fields generalizing known with
  | nil => exact h
  | cons other fields ih =>
      by_cases hother : other ∈ known
      · rw [addFields_cons_of_mem hother]
        exact ih h
      · rw [addFields_cons_of_not_mem hother]
        refine ih (List.nodup_append.2 ⟨h, by simp, ?_⟩)
        intro old hold new hnew
        obtain rfl := List.mem_singleton.1 hnew
        exact fun heq => hother (heq ▸ hold)

/-- What is known stays in front. -/
theorem prefix_addFields (known fields : List String) : known <+: addFields known fields := by
  induction fields generalizing known with
  | nil => exact List.prefix_rfl
  | cons other fields ih =>
      by_cases h : other ∈ known
      · rw [addFields_cons_of_mem h]
        exact ih known
      · rw [addFields_cons_of_not_mem h]
        exact (List.prefix_append known [other]).trans (ih _)

/-- The fields of all files are added to the first column. -/
theorem headers_eq (loaded : List (String × Results)) :
    headers loaded =
      addFields [entryHeader] (loaded.flatMap fun entry => entry.2.table.header.fields) := by
  rw [addFields, List.foldl_flatMap]
  rfl

theorem mem_headers : field ∈ headers loaded ↔
    field = entryHeader ∨ ∃ entry ∈ loaded, field ∈ entry.2.table.header.fields := by
  rw [headers_eq, mem_addFields, List.mem_singleton, List.mem_flatMap]

theorem nodup_headers (loaded : List (String × Results)) : (headers loaded).Nodup := by
  rw [headers_eq]
  exact nodup_addFields (by simp)

/-- The first column has the names of the entries. -/
theorem exists_headers_eq (loaded : List (String × Results)) :
    ∃ others, headers loaded = entryHeader :: others := by
  obtain ⟨others, hothers⟩ := prefix_addFields [entryHeader]
    (loaded.flatMap fun entry => entry.2.table.header.fields)
  exact ⟨others, by rw [headers_eq, ← hothers]; rfl⟩

/-! ### Rows -/

/-- Rows are as wide as the headers. -/
theorem length_row_headers (loaded : List (String × Results)) (name : String) (record : Record) :
    (row (headers loaded) name record).length = (headers loaded).length := by
  obtain ⟨others, hothers⟩ := exists_headers_eq loaded
  rw [hothers]
  simp [row]

/-- What a row shows in the column of a header. -/
theorem getElem?_row_headers (h : (headers loaded)[column]? = some field) :
    (row (headers loaded) name record)[column]? =
      some (if field = entryHeader then .text name else .ofText (record.get field)) := by
  obtain ⟨others, hothers⟩ := exists_headers_eq loaded
  have hdistinct := nodup_headers loaded
  rw [hothers] at h hdistinct ⊢
  cases column with
  | zero =>
      obtain rfl : entryHeader = field := Option.some.inj h
      rw [if_pos rfl]
      rfl
  | succ column =>
      rw [List.getElem?_cons_succ] at h
      -- The first header does not occur a second time.
      have hne : field ≠ entryHeader := by
        rintro rfl
        exact (List.nodup_cons.1 hdistinct).1 (List.mem_of_getElem? h)
      rw [if_neg hne]
      simp [row, h]

@[simp] theorem length_block (headers : List String) (entry : String × Results) :
    (block headers entry).length = entry.2.table.size := by
  simp [block, ResultTable.size]

/-- The number of rows that the blocks of these results take when others follow. -/
def start : List (String × Results) → Nat
  | [] => 0
  | entry :: loaded => entry.2.table.size + 1 + start loaded

theorem length_flatMap_block (headers : List String) (loaded : List (String × Results)) :
    (loaded.flatMap fun entry => block headers entry ++ [[]]).length = start loaded := by
  induction loaded with
  | nil => rfl
  | cons entry loaded ih =>
      rw [List.flatMap_cons, List.length_append, ih, List.length_append, length_block]
      rfl

/-- The blocks in front of another one have a blank row each. -/
theorem rows_append_cons (headers : List String) (front back : List (String × Results))
    (entry : String × Results) :
    rows headers (front ++ entry :: back) =
      (front.flatMap fun first => block headers first ++ [[]]) ++ rows headers (entry :: back) := by
  induction front with
  | nil => rfl
  | cons first front ih =>
      have hrest : rows headers (first :: (front ++ entry :: back)) =
          block headers first ++ [] :: rows headers (front ++ entry :: back) := by
        cases front with
        | nil => simp [rows, List.intercalate_cons_cons]
        | cons next front => simp [rows, List.intercalate_cons_cons]
      rw [List.cons_append, hrest, ih]
      simp

theorem prefix_rows (headers : List String) (entry : String × Results)
    (back : List (String × Results)) : block headers entry <+: rows headers (entry :: back) := by
  cases back with
  | nil => simp [rows]
  | cons next back => simp [rows, List.intercalate_cons_cons]

/-- The rows of an entry follow each other behind those of the entries in front of it. -/
theorem getElem?_rows (headers : List String) (front back : List (String × Results))
    (entry : String × Results) (hrecord : entry.2.table.records[index]? = some record) :
    (rows headers (front ++ entry :: back))[start front + index]? =
      some (row headers entry.1 record) := by
  have hrow : (block headers entry)[index]? = some (row headers entry.1 record) := by
    rw [block, List.getElem?_map, hrecord, Option.map_some]
  have hfront := length_flatMap_block headers front
  obtain ⟨others, hothers⟩ := prefix_rows headers entry back
  rw [rows_append_cons, List.getElem?_append_right (by omega), hfront, Nat.add_sub_cancel_left,
    ← hothers, List.getElem?_append_left (List.getElem?_eq_some_iff.1 hrow).1, hrow]

/-! ### The sheet -/

variable {c : Case}

/-- The loaded entries of a case are those in front of one of them, this one and those after it. -/
theorem filterMap_loaded? {entry : Entry} {results : Results}
    (hentry : c.entries[place]? = some entry) (hresults : entry.results = some results) :
    c.entries.filterMap loaded? = (c.entries.take place).filterMap loaded? ++
      (entry.name, results) :: (c.entries.drop (place + 1)).filterMap loaded? := by
  obtain ⟨hlt, rfl⟩ := List.getElem?_eq_some_iff.1 hentry
  have hloaded : loaded? c.entries[place] = some (c.entries[place].name, results) := by
    rw [loaded?, hresults, Option.map_some]
  conv_lhs => rw [← List.take_append_drop place c.entries, List.drop_eq_getElem_cons hlt]
  rw [List.filterMap_append, List.filterMap_cons_some hloaded]

/-- The row in which the records of the entry at this place begin. -/
def firstRow (c : Case) (place : Nat) : Nat :=
  start ((c.entries.take place).filterMap loaded?)

/-- **The full results show every field but one.** When the entries of a case were read from
accepted files, each record of each loaded entry has a row, and each field of its header has a
column, in which the row shows the value of the record, or nothing if the value is empty. Only a
field that is called like the first column is not shown: its column is the first, where the row
has the name of the entry. -/
theorem sheet_shows (hread : ∀ entry ∈ c.entries, ∃ limits, entry.IsRead limits)
    {entry : Entry} {results : Results} (hentry : c.entries[place]? = some entry)
    (hresults : entry.results = some results)
    (hrecord : results.table.records[index]? = some record) {i : Nat}
    (hfield : results.table.header.fields[i]? = some field) :
    ∃ value column, record.fields[i]? = some (field, value) ∧ record.get? field = some value ∧
      (sheet c).column? field = some column ∧
      (sheet c).cell? (firstRow c place + index) column =
        some (if field = entryHeader then .text entry.name else .ofText value) := by
  obtain ⟨limits, hentryRead⟩ := hread entry (List.mem_of_getElem? hentry)
  obtain ⟨text, htext⟩ := hentryRead results hresults
  have htable := (Results.ofText_eq_ok_iff.1 htext).1
  obtain ⟨value, hvalue, hget⟩ :=
    ResultTable.hasAll_of_parse htable record (List.mem_of_getElem? hrecord) i field hfield
  have hloaded := filterMap_loaded? hentry hresults
  have hmem : field ∈ headers (c.entries.filterMap loaded?) := by
    refine mem_headers.2 (.inr ⟨(entry.name, results), ?_, List.mem_of_getElem? hfield⟩)
    rw [hloaded]
    exact List.mem_append_right _ List.mem_cons_self
  obtain ⟨column, hcolumn⟩ := List.mem_iff_getElem?.1 hmem
  have hrow := getElem?_rows (headers (c.entries.filterMap loaded?))
    ((c.entries.take place).filterMap loaded?) ((c.entries.drop (place + 1)).filterMap loaded?)
    (entry.name, results) hrecord
  rw [← hloaded] at hrow
  refine ⟨value, column, hvalue, hget, Sheet.column?_of_getElem? (nodup_headers _) hcolumn, ?_⟩
  calc (sheet c).cell? (firstRow c place + index) column
      = (row (headers (c.entries.filterMap loaded?)) entry.name record)[column]? :=
        Sheet.cell?_pushAll_new hrow (length_row_headers _ _ _)
    _ = some (if field = entryHeader then .text entry.name else .ofText (record.get field)) :=
        getElem?_row_headers hcolumn
    _ = some (if field = entryHeader then .text entry.name else .ofText value) := by
        rw [Record.get, hget, Option.getD_some]

open Samples in
theorem isRead_taggedCase : ∀ entry ∈ taggedCase.entries, entry.IsRead .standard :=
  Case.isRead_loadAll (by decide) _ _ _

open Samples in
/-- The second file of the case has a field that is called like the first column, and one that the
first file lacks. -/
theorem exists_record_taggedCase : ∃ entry results record,
    taggedCase.entries[1]? = some entry ∧ entry.name = "flat" ∧ entry.results = some results ∧
      results.table.header.fields = ["name", "entry", "cpu_time"] ∧
      results.table.records[0]? = some record ∧ record.get "entry" = "left" := by
  have hread : taggedCase.entries[1]?.any (fun entry => entry.name = "flat" ∧
      entry.results.any fun results =>
        results.table.header.fields = ["name", "entry", "cpu_time"] ∧
        results.table.records[0]?.any fun record => record.get "entry" = "left") = true := by
    decide +kernel
  simp only [Option.any_eq_true, decide_eq_true_eq] at hread
  obtain ⟨entry, hentry, hname, results, hresults, hfields, record, hrecord, hvalue⟩ := hread
  exact ⟨entry, results, record, hentry, hname, hresults, hfields, hrecord, hvalue⟩

open Samples in
/-- A field of the second file only has its column behind those of the first file. -/
theorem sheet_shows_taggedCase :
    (∀ entry ∈ taggedCase.entries, ∃ limits, entry.IsRead limits) ∧
      (∃ entry results record, taggedCase.entries[1]? = some entry ∧
        entry.results = some results ∧ results.table.records[0]? = some record ∧
        results.table.header.fields[2]? = some "cpu_time" ∧
        ∃ value column, record.fields[2]? = some ("cpu_time", value) ∧
          record.get? "cpu_time" = some value ∧
          (sheet taggedCase).column? "cpu_time" = some column ∧
          (sheet taggedCase).cell? (firstRow taggedCase 1 + 0) column =
            some (if "cpu_time" = entryHeader then .text entry.name else .ofText value)) ∧
      firstRow taggedCase 1 = 2 ∧ (sheet taggedCase).column? "cpu_time" = some 3 ∧
      (sheet taggedCase).cell? 2 3 = some .empty := by
  have hread : ∀ entry ∈ taggedCase.entries, ∃ limits, entry.IsRead limits :=
    fun entry hentry => ⟨_, isRead_taggedCase entry hentry⟩
  obtain ⟨entry, results, record, hentry, -, hresults, hfields, hrecord, -⟩ :=
    exists_record_taggedCase
  have hfield : results.table.header.fields[2]? = some "cpu_time" := by rw [hfields]; rfl
  refine ⟨hread, ⟨entry, results, record, hentry, hresults, hrecord, hfield,
    sheet_shows hread hentry hresults hrecord hfield⟩, ?_, ?_, ?_⟩
  · decide +kernel
  · decide +kernel
  · decide +kernel

open Samples in
/-- A value that is not shown: the field is called like the first column, and nothing in the
sheet has its value. -/
theorem exists_field_not_shown :
    ∃ (c : Case) (entry : Entry) (results : Results) (record : Record) (column : Nat),
      (∀ entry ∈ c.entries, entry.IsRead .standard) ∧ c.entries[1]? = some entry ∧
      entry.results = some results ∧ results.table.records[0]? = some record ∧
      "entry" ∈ results.table.header.fields ∧ record.get "entry" = "left" ∧
      (sheet c).column? "entry" = some column ∧
      (sheet c).cell? (firstRow c 1) column = some (.text "flat") ∧
      ∀ row ∈ (sheet c).rows, .text "left" ∉ row := by
  obtain ⟨entry, results, record, hentry, -, hresults, hfields, hrecord, hvalue⟩ :=
    exists_record_taggedCase
  refine ⟨taggedCase, entry, results, record, 0, isRead_taggedCase, hentry, hresults, hrecord,
    by simp [hfields], hvalue, ?_, ?_, ?_⟩
  · decide +kernel
  · decide +kernel
  · decide +kernel

end FullResults

end BenchBoard
