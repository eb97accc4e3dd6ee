import BenchBoard.Catalogue.Description
import BenchBoard.Proofs.Catalogue.Topics
import BenchBoard.Proofs.Json.Decoding
import BenchBoard.Proofs.Results.Tables
import BenchBoard.Results.Codec
import BenchBoard.Samples.Descriptions
import BenchBoard.Series.Codec
/-!
# BenchBoard.Proofs.Json.Stored

**What is stored comes back.** A result table, a series and a description are taken back from
their JSON texts, compact and pretty (`stored_reads_back`). The proof follows the data: the
reader of each part takes the part back, and so does the reader of the whole.

A line number of a table is taken back when it is a machine word, as that of every table of a
file is.
-/

namespace BenchBoard

open BenchBoard.Json BenchBoard.Text

/-! ### Result tables -/

theorem Header.takesBack (header : Header) :
    TakesBack Header.ofJson? Header.toJson header := by
  have hfields := TakesBack.texts header.fields
  constructor
  · exact .record (by simp [hfields.wellFormed])
  · rw [toJson, ofJson?, fields?_record (by simp)]
    simp [List.lookup_cons, required, hfields.read_write]

theorem Record.takesBack_pair (pair : String × String) :
    TakesBack Record.readPair Record.pairToJson pair where
  wellFormed := .array (by simp [(TakesBack.text _).wellFormed])
  read_write := rfl

theorem Record.takesBack {record : Record} (h : record.line < UInt64.size) :
    TakesBack Record.ofJson? Record.toJson record := by
  have hline := TakesBack.count h
  have hfields : TakesBack (readList readPair) (fun pairs => .array (pairs.map pairToJson))
      record.fields := .list fun pair _ => takesBack_pair pair
  constructor
  · exact .record (by simp [hline.wellFormed, hfields.wellFormed])
  · rw [toJson, ofJson?, fields?_record (by simp)]
    simp [List.lookup_cons, required, hline.read_write, hfields.read_write]

/-- All line numbers are machine words, as those of the lines of a text in memory are. -/
structure ResultTable.LinesFit (table : ResultTable) : Prop where
  headerLine : table.headerLine < UInt64.size
  records : ∀ record ∈ table.records, record.line < UInt64.size

/-- Each record is on the line that it holds. -/
theorem ResultTable.line_mem_of_holds {names : List String} {lines : List NumberedLine}
    {records : List Record} (h : List.Forall₂ (Holds names) lines records) :
    ∀ record ∈ records, record.line ∈ lines.map (·.2) := by
  intro record hrecord
  obtain ⟨line, hline, texts, -, -, hkeeps⟩ := exists_of_forall₂ h record hrecord
  exact List.mem_map.2 ⟨line, hline, hkeeps.on_line.symm⟩

/-- Reading a file of less than `2 ^ 64` characters gives no other line numbers. -/
theorem ResultTable.linesFit_of_parse {limits : Limits} {text : String} {table : ResultTable}
    (h : parse limits text = .ok table) (hlength : text.toList.length < UInt64.size) :
    table.LinesFit := by
  obtain ⟨⟨before, opening, after, hdivides, -, hopening, hholds⟩, -⟩ :=
    parse_eq_ok_iff_describes.1 h
  have hcount : (lines (withoutMark text.toList)).length ≤ text.toList.length :=
    Nat.le_trans (lined_iff.2 rfl).length_le (length_withoutMark_le _)
  have hnumber : ∀ line ∈ before ++ opening :: after, line.2 < UInt64.size := by
    intro line hline
    rw [← hdivides.parts] at hline
    have := List.snd_lt_add_of_mem_zipIdx (List.mem_of_mem_filter hline)
    omega
  refine ⟨hopening ▸ hnumber opening (by simp), ?_⟩
  intro record hrecord
  obtain ⟨line, hline, heq⟩ := List.mem_map.1 (line_mem_of_holds hholds record hrecord)
  exact heq ▸ hnumber line (by simp [hline])

theorem ResultTable.takesBack {table : ResultTable} (h : table.LinesFit) :
    TakesBack ResultTable.ofJson? ResultTable.toJson table := by
  have hheader := Header.takesBack table.header
  have hline := TakesBack.count h.headerLine
  have hrecords : TakesBack (readList Record.ofJson?)
      (fun records => .array (records.map Record.toJson)) table.records :=
    .list fun record hrecord => Record.takesBack (h.records record hrecord)
  constructor
  · exact .record (by simp [hheader.wellFormed, hline.wellFormed, hrecords.wellFormed])
  · rw [toJson, ofJson?, fields?_record (by simp)]
    simp [List.lookup_cons, required, hheader.read_write, hline.read_write, hrecords.read_write]

/-! ### Series -/

theorem Column.takesBack (column : Column) :
    TakesBack Column.ofJson? Column.toJson column := by
  have hname := TakesBack.text column.name
  have hvalues := TakesBack.texts column.values.toList
  constructor
  · exact .record (by simp [hname.wellFormed, hvalues.wellFormed])
  · rw [toJson, ofJson?, fields?_record (by simp)]
    simp [List.lookup_cons, required, hname.read_write, hvalues.read_write]

theorem Series.takesBack (series : Series) :
    TakesBack Series.ofJson? Series.toJson series := by
  have hoptional := TakesBack.optionalText
  have hsizes := TakesBack.texts series.sizes.toList
  have hcolumns : TakesBack (readList Column.ofJson?)
      (fun columns => .array (columns.map Column.toJson)) series.columns :=
    .list fun column _ => Column.takesBack column
  constructor
  · exact .record (by
      simp [(hoptional _).wellFormed, hsizes.wellFormed, hcolumns.wellFormed])
  · rw [toJson, ofJson?, fields?_record (by simp)]
    simp [fieldNames, List.lookup_cons, required, Json.optional, (hoptional _).read_write,
      hsizes.read_write, hcolumns.read_write]

/-! ### Descriptions -/

/-- The mark is left out when it is not set, and is then read as not set. -/
theorem EntrySpec.takesBack (spec : EntrySpec) :
    TakesBack EntrySpec.ofJson? EntrySpec.toJson spec := by
  obtain ⟨name, file, baseline⟩ := spec
  have htext := TakesBack.text
  cases baseline with
  | false =>
      constructor
      · exact .record (by simp [(htext _).wellFormed])
      · rw [toJson, ofJson?, fields?_record (by simp)]
        simp [List.lookup_cons, required, defaulted, (htext _).read_write]
  | true =>
      have hmark := TakesBack.bool true
      constructor
      · exact .record (by simp [(htext _).wellFormed, hmark.wellFormed])
      · rw [toJson, ofJson?, fields?_record (by simp)]
        simp [List.lookup_cons, required, defaulted, (htext _).read_write, hmark.read_write]

theorem CaseSpec.takesBack (spec : CaseSpec) :
    TakesBack CaseSpec.ofJson? CaseSpec.toJson spec := by
  have htext := TakesBack.text
  have hentries : TakesBack (readList EntrySpec.ofJson?)
      (fun entries => .array (entries.map EntrySpec.toJson)) spec.entries :=
    .list fun entry _ => EntrySpec.takesBack entry
  constructor
  · exact .record (by simp [(htext _).wellFormed, hentries.wellFormed])
  · rw [toJson, ofJson?, fields?_record (by simp)]
    simp [List.lookup_cons, required, defaulted, (htext _).read_write, hentries.read_write]

theorem Description.takesBack (description : Description) :
    TakesBack Description.ofJson? Description.toJson description := by
  have hcases (specs : List CaseSpec) : TakesBack (readList CaseSpec.ofJson?)
      (fun specs => .array (specs.map CaseSpec.toJson)) specs :=
    .list fun spec _ => CaseSpec.takesBack spec
  constructor
  · refine .record fun member hmember => ?_
    obtain ⟨topic, -, rfl⟩ := List.mem_map.1 hmember
    exact (hcases topic.2).wellFormed
  · have htopics : (description.toList.map fun topic =>
        (some topic.1, Value.array (topic.2.map CaseSpec.toJson))).mapM readTopic =
          some description.toList :=
      mapM_map_eq_some fun topic _ => by simp [readTopic, (hcases topic.2).read_write]
    calc ofJson? description.toJson
      _ = ((description.toList.map fun topic =>
            (some topic.1, Value.array (topic.2.map CaseSpec.toJson))).mapM readTopic).map
              Topics.ofList := by
          rw [toJson, Value.record, List.map_map]
          rfl
      _ = some (Topics.ofList description.toList) := by rw [htopics, Option.map_some]
      _ = some description := by rw [Topics.ofList_toList]

/-! ### All stored types -/

/-- Descriptions, tables and series come back from their texts. -/
theorem stored_reads_back :
    (∀ description : Description,
      Description.parse description.toJson.compact = some description ∧
      Description.parse description.toJson.pretty = some description) ∧
    (∀ table : ResultTable, table.LinesFit →
      (Json.parse table.toJson.compact).bind ResultTable.ofJson? = some table ∧
      (Json.parse table.toJson.pretty).bind ResultTable.ofJson? = some table) ∧
    (∀ series : Series,
      (Json.parse series.toJson.compact).bind Series.ofJson? = some series ∧
      (Json.parse series.toJson.pretty).bind Series.ofJson? = some series) := by
  refine ⟨?_, ?_, ?_⟩
  · intro description
    exact ⟨description.takesBack.compact, description.takesBack.pretty⟩
  · intro table htable
    exact ⟨(ResultTable.takesBack htable).compact, (ResultTable.takesBack htable).pretty⟩
  · intro series
    exact ⟨series.takesBack.compact, series.takesBack.pretty⟩

/-- A table whose texts need escapes of every kind. -/
def escapedTable : ResultTable where
  header := ⟨["name", "\"time\"", "C:\\tmp"]⟩
  headerLine := 3
  records := [⟨4, [("name", "a/\t8"), ("\"time\"", "\x01\x1f\n"), ("C:\\tmp", "é\x08")]⟩,
    ⟨9, []⟩]

theorem stored_reads_back_escaped :
    (Json.parse escapedTable.toJson.compact).bind ResultTable.ofJson? = some escapedTable ∧
      (Json.parse escapedTable.toJson.pretty).bind ResultTable.ofJson? = some escapedTable :=
  stored_reads_back.2.1 escapedTable ⟨by decide, by decide⟩

end BenchBoard
