import BenchBoard.Proofs.Csv.Writable
import BenchBoard.Proofs.Results.Tables
import BenchBoard.Proofs.Series.Aggregation
/-!
# BenchBoard.Proofs.Series.Provenance

**Every text of a series stands on one line of its file.** Names and values are fields of a line
without the blanks around them, and the label of a size is a part of such a value. None of these
steps adds a character, so none of the texts has a line feed.
-/

namespace BenchBoard

open BenchBoard.Text

variable {limits : Limits} {text : String} {texts names : List String} {raw : List Char}

/-- The text has no line feed. -/
def Unbroken (text : String) : Prop :=
  '\n' ∉ text.toList

theorem unbroken_empty : Unbroken "" :=
  List.not_mem_nil

theorem Unbroken.of_subset {other : String} (h : Unbroken text)
    (hsub : other.toList ⊆ text.toList) : Unbroken other :=
  fun hmem => h (hsub hmem)

theorem Unbroken.trim (h : Unbroken text) : Unbroken (trim text) := by
  refine h.of_subset ?_
  rw [Text.trim, String.toList_ofList]
  exact (trimChars_sublist text.toList).subset

theorem unbroken_of_parse (h : Csv.parse (String.ofList raw) = .ok texts) (hraw : '\n' ∉ raw) :
    ∀ text ∈ texts, Unbroken text := by
  intro text htext hmem
  have hline := Csv.mem_of_parse h htext hmem
  rw [String.toList_ofList] at hline
  exact hraw hline

/-! ### Tables -/

namespace ResultTable

theorem Heads.unbroken (h : Heads raw names) (hraw : '\n' ∉ raw) :
    ∀ name ∈ names, Unbroken name := by
  obtain ⟨-, texts, k, hparse, htexts⟩ := h
  intro name hname
  have htrimmed : name ∈ texts.map trim := by
    rw [htexts]
    exact List.mem_append_left _ hname
  obtain ⟨text, htext, rfl⟩ := List.mem_map.1 htrimmed
  exact (unbroken_of_parse hparse hraw text htext).trim

theorem Holds.unbroken {line : NumberedLine} {record : Record} (h : Holds names line record)
    (hline : '\n' ∉ line.1) : ∀ value ∈ record.values, Unbroken value := by
  obtain ⟨texts, hparse, -, hkeeps⟩ := h
  intro value hvalue
  rw [hkeeps.all_values] at hvalue
  obtain ⟨text, htext, rfl⟩ := List.mem_map.1 hvalue
  exact (unbroken_of_parse hparse hline text (List.mem_of_mem_take htext)).trim

theorem unbroken_of_holds {lines : List NumberedLine} {records : List Record}
    (h : List.Forall₂ (Holds names) lines records) (hlines : ∀ line ∈ lines, '\n' ∉ line.1) :
    ∀ record ∈ records, ∀ value ∈ record.values, Unbroken value := by
  intro record hrecord
  obtain ⟨line, hline, hholds⟩ := exists_of_forall₂ h record hrecord
  exact hholds.unbroken (hlines line hline)

theorem fst_mem_of_mem_numbered {n : Nat} {ls : List (List Char)} {line : NumberedLine}
    (h : line ∈ numbered n ls) : line.1 ∈ ls :=
  List.fst_mem_of_mem_zipIdx (List.mem_of_mem_filter h)

/-- The names and values of a table have no line feeds. -/
theorem unbroken_of_parse {table : ResultTable} (h : parse limits text = .ok table) :
    (∀ name ∈ table.header.fields, Unbroken name) ∧
      ∀ record ∈ table.records, ∀ value ∈ record.values, Unbroken value := by
  obtain ⟨⟨before, opening, after, hdivides, hheads, -, hholds⟩, -⟩ :=
    parse_eq_ok_iff_describes.1 h
  have hlined : Lined (withoutMark text.toList) (lines (withoutMark text.toList)) :=
    lined_iff.2 rfl
  have hlines : ∀ line ∈ before ++ opening :: after, '\n' ∉ line.1 := by
    intro line hline
    rw [← hdivides.parts] at hline
    exact hlined.not_mem_feed line.1 (fst_mem_of_mem_numbered hline)
  refine ⟨hheads.unbroken (hlines opening (by simp)), unbroken_of_holds hholds ?_⟩
  intro line hline
  exact hlines line (by simp [hline])

end ResultTable

/-! ### Series -/

theorem Record.unbroken_get {record : Record} (h : ∀ value ∈ record.values, Unbroken value)
    (field : String) : Unbroken (record.get field) := by
  unfold get get?
  cases hfound : record.fields.lookup field with
  | none => exact unbroken_empty
  | some value =>
      obtain ⟨before, after, hfields, -⟩ := List.lookup_eq_some_iff.1 hfound
      exact h value (by simp [values, hfields])

/-- The label of a size is a part of the name. -/
theorem Sample.unbroken_size (sample : Sample) (h : Unbroken sample.record.name) :
    Unbroken sample.size := by
  rcases sample.splits with ⟨hname, -⟩ | ⟨-, -, hsize⟩
  · -- What stands after the last slash is part of the name without its quotes.
    refine h.of_subset ?_
    intro c hc
    have hplain : c ∈ RecordKind.withoutQuotes sample.record.name.toList := by
      rw [hname]
      exact List.mem_append_right _ (List.mem_cons_of_mem _ hc)
    exact List.mem_of_mem_filter hplain
  · rw [hsize]
    exact unbroken_empty

theorem Sample.record_mem {records : List Record} {sample : Sample}
    (h : sample ∈ ofRecords records) : sample.record ∈ records := by
  obtain ⟨record, hrecord, rfl⟩ := List.mem_map.1 h
  exact List.mem_of_mem_filter hrecord

/-- The texts of the series have no line feeds. -/
structure Series.IsUnbroken (series : Series) : Prop where
  sizes : ∀ size ∈ series.sizes.toList, Unbroken size
  names : ∀ name ∈ series.metricNames, Unbroken name
  values : ∀ column ∈ series.columns, ∀ value ∈ column.values.toList, Unbroken value

/-- What is read of a text is its table and the series of that table. -/
theorem Results.ofText_eq_ok_iff {results : Results} :
    ofText limits text = .ok results ↔
      ResultTable.parse limits text = .ok results.table ∧
        Series.aggregate results.table = .ok results.series := by
  unfold ofText
  simp only [bind_eq_ok_iff]
  constructor
  · rintro ⟨table, htable, series, hseries, hresults⟩
    cases hresults
    exact ⟨htable, hseries⟩
  · intro h
    exact ⟨_, h.1, _, h.2, rfl⟩

theorem Results.isUnbroken {results : Results} (h : ofText limits text = .ok results) :
    results.series.IsUnbroken := by
  obtain ⟨htable, hseries⟩ := ofText_eq_ok_iff.1 h
  obtain ⟨hnames, hvalues⟩ := ResultTable.unbroken_of_parse htable
  have hsummarizes := Series.summarizes_of_aggregate hseries
  refine ⟨?_, ?_, ?_⟩
  · intro size hsize
    rw [hsummarizes.sizes] at hsize
    obtain ⟨sample, hsample, rfl⟩ := List.mem_map.1 hsize
    exact sample.unbroken_size (Record.unbroken_get (hvalues _ (Sample.record_mem hsample)) _)
  · intro name hname
    have hfield : name ∈ results.table.header.fields := by
      rw [Series.metricNames, hsummarizes.names] at hname
      exact List.mem_of_mem_filter hname
    exact hnames name hfield
  · intro column hcolumn value hvalue
    rw [hsummarizes.values column hcolumn] at hvalue
    obtain ⟨sample, hsample, rfl⟩ := List.mem_map.1 hvalue
    exact Record.unbroken_get (hvalues _ (Sample.record_mem hsample)) _

end BenchBoard
