import BenchBoard.Proofs.Decimal.Digits
import BenchBoard.Proofs.Results.CutOff
import BenchBoard.Proofs.Samples.Rows
/-!
# BenchBoard.Proofs.Samples.ReadBack

**The writer and the reader are inverse.** A text of the preamble, the header and some rows has one
record for each row (`parse_unlines_rows`). The records of samples are samples of the one case, in
order, whatever it is called (`map_ofRecords_sampleRows`), and those of a fitted class are its fit
and its deviation. So the series of a written file is the one that was written.
-/

namespace BenchBoard

open BenchBoard.Text

theorem ResultTable.numbered_append (n : Nat) (ls others : List (List Char)) :
    numbered n (ls ++ others) = numbered n ls ++ numbered (n + ls.length) others := by
  simp [numbered, List.zipIdx_append]

/-! ### Names of records -/

namespace RecordKind

variable {name : List Char} {ending : String}

theorem withoutQuotes_of_not_mem (h : '"' ∉ name) : withoutQuotes name = name := by
  rw [withoutQuotes, List.filter_eq_self]
  intro c hc
  simp only [bne_iff_ne]
  rintro rfl
  exact h hc

theorem endsIn_append (caseName ending : String) :
    endsIn (caseName ++ ending).toList ending = true := by
  rw [endsIn, List.isSuffixOf_iff_suffix, String.toList_append]
  exact List.suffix_append _ _

/-- What ends in a digit does not end like a word that does not. -/
theorem endsIn_eq_false (hname : name.getLast?.any Decimal.isDigit = true)
    (hending : ending.toList.getLast?.any (fun c => !Decimal.isDigit c) = true) :
    endsIn name ending = false := by
  rw [Bool.eq_false_iff, Ne, endsIn, List.isSuffixOf_iff_suffix]
  rintro ⟨front, rfl⟩
  obtain ⟨c, hc, hdigit⟩ := (Option.any_eq_true _ _).1 hending
  rw [List.getLast?_append, hc] at hname
  simp only [Option.some_or, Option.any_some] at hname
  rw [hname] at hdigit
  cases hdigit

/-- A slash in front of a text without slashes is the last one. -/
theorem splitSize_append {size : List Char} (h : '/' ∉ size) (name : List Char) :
    splitSize (name ++ '/' :: size) = (String.ofList name, String.ofList size) := by
  have hsize : ∀ c ∈ size.reverse, (c != '/') = true := by
    intro c hc
    simp only [bne_iff_ne]
    rintro rfl
    exact h (List.mem_reverse.1 hc)
  have hreverse : (name ++ '/' :: size).reverse = size.reverse ++ '/' :: name.reverse := by simp
  unfold splitSize
  simp only [hreverse, List.dropWhile_append_of_pos hsize, List.takeWhile_append_of_pos hsize]
  simp

end RecordKind

namespace Samples

open ResultTable

/-! ### The table of some rows -/

/-- The lines of a text are those of which it was made. -/
theorem lines_unlines {ls : List String}
    (h : ∀ line ∈ ls, Unbroken line ∧ line.toList.getLast? ≠ some '\r') :
    lines (unlines ls).toList = ls.map String.toList := by
  refine Lined.lines_eq ?_
  induction ls with
  | nil => exact .nil
  | cons line ls ih =>
      rw [List.forall_mem_cons] at h
      have hunlines : (unlines (line :: ls)).toList =
          line.toList ++ '\n' :: (unlines ls).toList := by
        simp [unlines]
      rw [hunlines, List.map_cons]
      exact .feed h.1.1 h.1.2 (ih h.2)

/-- The record of the row on line `n`. -/
def Row.record (row : Row) (n : Nat) : Record where
  line := n
  fields := Samples.fields.zip row.fields

/-- The records of the rows on the lines `n`, `n + 1`, … -/
def records (n : Nat) : List Row → List Record
  | [] => []
  | row :: rows => row.record n :: records (n + 1) rows

theorem isSchema_fields : IsSchema fields where
  nonempty := by decide
  distinct := by decide
  has_name := by decide

theorem Row.holds (row : Row) (n : Nat) :
    Holds Samples.fields (row.line.toList, n) (row.record n) := by
  have hlength : Samples.fields.length = row.fields.length := by
    rw [Row.fields, List.length_cons, row.width]
    rfl
  refine ⟨row.fields, ?_, ⟨Nat.le_of_eq hlength, ?_⟩, ?_⟩
  · rw [String.ofList_toList]
    exact row.parse_line
  · rw [hlength, List.drop_length]
    simp
  · refine (Record.keeps_iff isSchema_fields.distinct (Nat.le_of_eq hlength)).2 ?_
    rw [row.map_trim_fields]
    rfl

/-- Each row is read as its record. -/
theorem forall₂_holds (rows : List Row) (n : Nat) :
    List.Forall₂ (Holds fields) (numbered n (rows.map fun row => row.line.toList))
      (records n rows) := by
  induction rows generalizing n with
  | nil => exact .nil
  | cons row rows ih =>
      have hquote : '"' ∈ row.line.toList := by
        rw [row.toList_line]
        exact List.mem_cons_self
      rw [List.map_cons, numbered_cons_of_not_blank (not_allBlank_of_mem hquote rfl)]
      exact .cons (row.holds n) (ih (n + 1))

theorem heads_header : Heads header.toList fields := by
  refine ⟨isSchema_fields, fields, 0, ?_, ?_⟩
  · rw [String.ofList_toList]
    cbv
  · cbv

/-- None of the lines about the machine begins with `name`. -/
theorem not_opens_preamble :
    ∀ line ∈ numbered 1 (preamble.map String.toList), ¬ Opens line.1 := by
  have hclosed : ∀ line ∈ numbered 1 (preamble.map String.toList),
      opensTable line.1 = false := by
    decide +kernel
  intro line hline hopens
  have hline := hclosed line hline
  rw [opensTable_iff.2 hopens] at hline
  cases hline

theorem lines_rows (rows : List Row) :
    lines (unlines (preamble ++ header :: rows.map Row.line)).toList =
      preamble.map String.toList ++ header.toList :: rows.map fun row => row.line.toList := by
  have hfixed : ∀ line ∈ preamble ++ [header],
      '\n' ∉ line.toList ∧ line.toList.getLast? ≠ some '\r' := by
    decide +kernel
  rw [lines_unlines]
  · rw [List.map_append, List.map_cons, List.map_map]
    rfl
  · intro line hline
    rw [List.append_cons, List.mem_append, List.mem_map] at hline
    rcases hline with hline | ⟨row, -, rfl⟩
    · exact hfixed line hline
    · exact ⟨row.unbroken_line, row.getLast?_line⟩

/-- The header is the eighth line. -/
theorem divides_rows (rows : List Row) :
    Divides
      (numbered 1 (preamble.map String.toList ++ header.toList ::
        rows.map fun row => row.line.toList))
      (numbered 1 (preamble.map String.toList)) (header.toList, 8)
      (numbered 9 (rows.map fun row => row.line.toList)) where
  parts := by
    have hheader : allBlank header.toList = false := by decide +kernel
    rw [numbered_append, numbered_cons_of_not_blank hheader]
    rfl
  opens := by
    have hheader : opensTable header.toList = true := by decide +kernel
    exact opensTable_iff.1 hheader
  first := not_opens_preamble

/-- A text of the preamble, the header and rows is the table of these rows. -/
theorem parse_unlines_rows (rows : List Row) :
    ResultTable.parse .unlimited (unlines (preamble ++ header :: rows.map Row.line)) =
      .ok ⟨⟨fields⟩, 8, records 9 rows⟩ := by
  have hmark : withoutMark (unlines (preamble ++ header :: rows.map Row.line)).toList =
      (unlines (preamble ++ header :: rows.map Row.line)).toList := by
    simp [unlines, preamble, withoutMark, byteOrderMark]
  rw [parse_eq_ok_iff_describes, hmark, lines_rows]
  refine ⟨⟨numbered 1 (preamble.map String.toList), (header.toList, 8),
    numbered 9 (rows.map fun row => row.line.toList), divides_rows rows, ?_, ?_, ?_⟩, ?_⟩
  · exact heads_header
  · rfl
  · exact forall₂_holds rows 9
  · exact withinLimits_unlimited _ _ _ _

/-! ### The rows of samples -/

variable {caseName : String}

theorem Row.withoutQuotes_name (row : Row) (n : Nat) :
    RecordKind.withoutQuotes (row.record n).name.toList = row.name.toList :=
  RecordKind.withoutQuotes_of_not_mem row.quotable.no_quote

theorem Sample.toList_name_row (h : IsCaseName caseName) (sample : Sample) :
    (sample.row h).name.toList = caseName.toList ++ '/' :: Decimal.digitsOf sample.size := by
  simp [row, ← Decimal.toList_toString]

/-- The name of a sample ends in a digit, so it has none of the suffixes of summaries. -/
theorem Sample.isSample_row (h : IsCaseName caseName) (sample : Sample) (n : Nat) :
    ((sample.row h).record n).isSample = true := by
  have hdigit : (sample.row h).name.toList.getLast?.any Decimal.isDigit = true := by
    have hne := Decimal.digitsOf_ne_nil sample.size
    rw [toList_name_row, List.append_cons, List.getLast?_append_of_ne_nil _ hne,
      List.getLast?_eq_some_getLast hne]
    exact Decimal.isDigit_of_mem_digitsOf (List.getLast_mem hne)
  have hendings : ∀ ending ∈ ["_BigO", "_RMS", "_mean", "_median", "_stddev", "_cv"],
      ending.toList.getLast?.any (fun c => !Decimal.isDigit c) = true := by
    decide +kernel
  unfold Record.isSample Record.endsIn
  rw [Row.withoutQuotes_name, List.all_eq_true]
  intro ending hending
  rw [RecordKind.endsIn_eq_false hdigit (hendings ending hending)]
  rfl

/-- The last slash of the name stands in front of the size, whatever the case is called. -/
theorem Sample.splitSize_row (h : IsCaseName caseName) (sample : Sample) (n : Nat) :
    RecordKind.splitSize (RecordKind.withoutQuotes ((sample.row h).record n).name.toList) =
      (caseName, toString sample.size) := by
  have hslash : '/' ∉ Decimal.digitsOf sample.size := by
    intro hmem
    exact absurd (Decimal.isDigit_of_mem_digitsOf hmem) (by decide)
  rw [Row.withoutQuotes_name, toList_name_row, RecordKind.splitSize_append hslash,
    String.ofList_toList, ← Decimal.toList_toString, String.ofList_toList]

/-- The rows of the samples. -/
def sampleRows (h : IsCaseName caseName) (samples : List Sample) : List Row :=
  samples.map (Sample.row h)

theorem isSample_of_mem_sampleRows (h : IsCaseName caseName) (samples : List Sample) (n : Nat) :
    ∀ record ∈ records n (sampleRows h samples), record.isSample = true := by
  unfold sampleRows
  induction samples generalizing n with
  | nil => simp [records]
  | cons sample samples ih =>
      exact List.forall_mem_cons.2 ⟨sample.isSample_row h n, ih (n + 1)⟩

/-- What can be said of each sample is said of all in order. -/
theorem map_ofRecords_sampleRows (h : IsCaseName caseName) {α : Type} {f : BenchBoard.Sample → α}
    {g : Sample → α} (hfg : ∀ sample n, f (.ofRecord ((sample.row h).record n)) = g sample)
    (samples : List Sample) (n : Nat) :
    (BenchBoard.Sample.ofRecords (records n (sampleRows h samples))).map f = samples.map g := by
  rw [BenchBoard.Sample.ofRecords, List.filter_eq_self.2 (isSample_of_mem_sampleRows h samples n),
    List.map_map]
  unfold sampleRows
  induction samples generalizing n with
  | nil => rfl
  | cons sample samples ih =>
      rw [List.map_cons, List.map_cons, records, List.map_cons, Function.comp_apply, hfg, ih]

/-! ### The series -/

/-- A column with a text for each sample. -/
def columnOf (samples : List Sample) (field : String) (shown : Sample → String) : Column :=
  ⟨field, (samples.map shown).toArray⟩

/-- The series that holds these samples and this fit, as they are shown. -/
def seriesOf (caseName : String) (samples : List Sample) (fit : Option FittedClass) : Series where
  caseName := if samples = [] then none else some caseName
  sizes := (samples.map fun sample => toString sample.size).toArray
  columns := [
    columnOf samples "iterations" fun _ => "1000",
    columnOf samples "real_time" fun sample => Decimal.exact sample.realTime,
    columnOf samples "cpu_time" fun sample => Decimal.exact sample.cpuTime,
    columnOf samples "time_unit" fun _ => "ns",
    columnOf samples "bytes_per_second" fun _ => "",
    columnOf samples "items_per_second" Sample.rate,
    columnOf samples "label" fun _ => "",
    columnOf samples "error_occurred" fun _ => "",
    columnOf samples "error_message" fun _ => ""]
  fit := match fit with
    | none => ⟨none, none, none⟩
    | some fit =>
        ⟨some fit.label, some (Decimal.exact fit.realTime), some (Decimal.exact fit.cpuTime)⟩
  deviation := match fit with
    | none => ⟨none, none⟩
    | some fit =>
        ⟨some (Decimal.exact fit.realDeviation), some (Decimal.exact fit.cpuDeviation)⟩

/-- All samples name the case. -/
theorem map_caseName_sampleRows (h : IsCaseName caseName) (samples : List Sample) (n : Nat) :
    (BenchBoard.Sample.ofRecords (records n (sampleRows h samples))).map (·.caseName) =
      samples.map fun _ => caseName :=
  map_ofRecords_sampleRows h (fun sample n => congrArg Prod.fst (sample.splitSize_row h n))
    samples n

theorem head?_caseName_sampleRows (h : IsCaseName caseName) (samples : List Sample) (n : Nat) :
    (BenchBoard.Sample.ofRecords (records n (sampleRows h samples))).head?.map (·.caseName) =
      (seriesOf caseName samples none).caseName := by
  rw [← List.head?_map, map_caseName_sampleRows]
  cases samples with
  | nil => rfl
  | cons sample samples => simp [seriesOf]

/-- Each field is a column with a text for each sample. -/
theorem columns_sampleRows (h : IsCaseName caseName) (samples : List Sample) (n : Nat) :
    (Header.metricFields ⟨fields⟩).map (fun field => ⟨field,
      ((BenchBoard.Sample.ofRecords (records n (sampleRows h samples))).map
        (·.record.get field)).toArray⟩) = (seriesOf caseName samples none).columns := by
  have hcolumn : ∀ (field : String) (shown : Sample → String),
      (∀ sample n, ((sample.row h).record n).get field = shown sample) →
      (⟨field, ((BenchBoard.Sample.ofRecords (records n (sampleRows h samples))).map
        (·.record.get field)).toArray⟩ : Column) = columnOf samples field shown := by
    intro field shown hshown
    rw [map_ofRecords_sampleRows h hshown, columnOf]
  have hfields : Header.metricFields ⟨fields⟩ = ["iterations", "real_time", "cpu_time", "time_unit",
      "bytes_per_second", "items_per_second", "label", "error_occurred", "error_message"] := by
    decide +kernel
  rw [hfields]
  simp only [List.map_cons, List.map_nil]
  rw [hcolumn "iterations" (fun _ => "1000") fun _ _ => rfl,
    hcolumn "real_time" (fun sample => Decimal.exact sample.realTime) fun _ _ => rfl,
    hcolumn "cpu_time" (fun sample => Decimal.exact sample.cpuTime) fun _ _ => rfl,
    hcolumn "time_unit" (fun _ => "ns") fun _ _ => rfl,
    hcolumn "bytes_per_second" (fun _ => "") fun _ _ => rfl,
    hcolumn "items_per_second" Sample.rate fun _ _ => rfl,
    hcolumn "label" (fun _ => "") fun _ _ => rfl,
    hcolumn "error_occurred" (fun _ => "") fun _ _ => rfl,
    hcolumn "error_message" (fun _ => "") fun _ _ => rfl]
  rfl

theorem ofRecords_of_not_samples {others : List Record}
    (h : ∀ record ∈ others, record.isSample = false) : BenchBoard.Sample.ofRecords others = [] := by
  rw [BenchBoard.Sample.ofRecords, List.filter_eq_nil_iff.2, List.map_nil]
  intro record hrecord
  simp [h record hrecord]

/-- Records that are no samples change nothing but the fit and the deviation. -/
theorem summary_sampleRows (h : IsCaseName caseName) (samples : List Sample) (n : Nat)
    {others : List Record} (hothers : ∀ record ∈ others, record.isSample = false) :
    Series.summary ⟨fields⟩ (records n (sampleRows h samples) ++ others) =
      { seriesOf caseName samples none with
        fit := Series.lastOr (others.filter Record.isFit) Series.fitOf {}
        deviation := Series.lastOr (others.filter Record.isDeviation) Series.deviationOf {} } := by
  have hsamples := isSample_of_mem_sampleRows h samples n
  have hnone := ofRecords_of_not_samples hothers
  have hfit : (records n (sampleRows h samples)).filter Record.isFit = [] := by
    rw [List.filter_eq_nil_iff]
    intro record hrecord
    simp [(classify_of_isSample (hsamples record hrecord)).2.1]
  have hdeviation : (records n (sampleRows h samples)).filter Record.isDeviation = [] := by
    rw [List.filter_eq_nil_iff]
    intro record hrecord
    simp [(classify_of_isSample (hsamples record hrecord)).2.2]
  have hsizes := map_ofRecords_sampleRows h (f := (·.size))
    (g := fun sample => toString sample.size)
    (fun sample n => congrArg Prod.snd (sample.splitSize_row h n)) samples n
  rw [Series.summary, BenchBoard.Sample.ofRecords_append, hnone, List.append_nil,
    List.filter_append, List.filter_append, hfit, hdeviation, List.nil_append, List.nil_append,
    head?_caseName_sampleRows, columns_sampleRows, hsizes]
  rfl

/-- All samples name the case, so nothing stops the aggregation. -/
theorem aggregate_sampleRows (h : IsCaseName caseName) (samples : List Sample) (n k : Nat)
    (others : List Record) (hothers : ∀ record ∈ others, record.isSample = false) :
    Series.aggregate ⟨⟨fields⟩, k, records n (sampleRows h samples) ++ others⟩ =
      .ok { seriesOf caseName samples none with
        fit := Series.lastOr (others.filter Record.isFit) Series.fitOf {}
        deviation := Series.lastOr (others.filter Record.isDeviation) Series.deviationOf {} } := by
  have hcase : ∀ sample ∈ BenchBoard.Sample.ofRecords (records n (sampleRows h samples) ++ others),
      sample.caseName = caseName := by
    rw [BenchBoard.Sample.ofRecords_append, ofRecords_of_not_samples hothers, List.append_nil]
    intro sample hsample
    have hmem := List.mem_map_of_mem (f := (·.caseName)) hsample
    rw [map_caseName_sampleRows] at hmem
    obtain ⟨_, -, hname⟩ := List.mem_map.1 hmem
    exact hname.symm
  have hagree : Series.dissent? (BenchBoard.Sample.ofRecords
      (records n (sampleRows h samples) ++ others)) = none := by
    rw [Series.dissent?_eq_none_iff]
    intro sample hsample other hother
    rw [hcase sample hsample, hcase other hother]
  rw [Series.aggregate, Series.foldlM_step, hagree, ← summary_sampleRows h samples n hothers]

/-! ### The records of a fitted class -/

theorem records_append (n : Nat) (rows others : List Row) :
    records n (rows ++ others) = records n rows ++ records (n + rows.length) others := by
  induction rows generalizing n with
  | nil => rfl
  | cons row rows ih =>
      rw [List.cons_append, records, records, ih, List.cons_append, List.length_cons]
      simp only [Nat.add_assoc, Nat.add_comm 1]

theorem FittedClass.isFit_fitRow (h : IsCaseName caseName) (fit : FittedClass)
    (hlabel : IsBare fit.label) (n : Nat) : ((fit.fitRow h hlabel).record n).isFit = true := by
  rw [Record.isFit, Record.endsIn, Row.withoutQuotes_name]
  exact RecordKind.endsIn_append caseName "_BigO"

theorem FittedClass.isDeviation_deviationRow (h : IsCaseName caseName) (fit : FittedClass)
    (n : Nat) : ((fit.deviationRow h).record n).isDeviation = true := by
  rw [Record.isDeviation, Record.endsIn, Row.withoutQuotes_name]
  exact RecordKind.endsIn_append caseName "_RMS"

/-- The series of samples and of a fitted class after them. -/
theorem aggregate_fittedRows (h : IsCaseName caseName) (samples : List Sample) (n k : Nat)
    (fit : FittedClass) (hlabel : IsBare fit.label) :
    Series.aggregate ⟨⟨fields⟩, k,
      records n (sampleRows h samples ++ [fit.fitRow h hlabel, fit.deviationRow h])⟩ =
        .ok (seriesOf caseName samples (some fit)) := by
  have hfit := fit.isFit_fitRow h hlabel (n + (sampleRows h samples).length)
  have hdeviation := fit.isDeviation_deviationRow h (n + (sampleRows h samples).length + 1)
  -- No name has both endings.
  have hother := isDeviation_of_isFit hfit
  have hother' : ((fit.deviationRow h).record (n + (sampleRows h samples).length + 1)).isFit =
      false := by
    rw [Bool.eq_false_iff]
    intro hboth
    rw [isDeviation_of_isFit hboth] at hdeviation
    cases hdeviation
  rw [records_append, aggregate_sampleRows h samples n k _ ?_]
  · simp only [records, List.filter_cons, List.filter_nil, hfit, hdeviation, hother, hother']
    rfl
  · intro record hrecord
    simp only [records, List.mem_cons, List.not_mem_nil, or_false] at hrecord
    rcases hrecord with rfl | rfl
    · rw [isSample_eq, hfit]
      rfl
    · rw [isSample_eq, hdeviation]
      simp

/-! ### Reading back -/

/-- **What was written is read back.** Whatever the case is called, as long as its name can stand
between quotes, and whatever was measured and fitted, the text that is written is accepted, and its
series holds the sizes, the times and the rates of the samples in order, and the fitted class
with its coefficients and deviations if there is one. A rate is missing exactly where no
processor time was needed. -/
theorem parse_resultFile (h : IsCaseName caseName) (samples : List Sample)
    (fit : Option FittedClass) (hfit : ∀ fitted ∈ fit, IsBare fitted.label) :
    Series.parse .unlimited (resultFile caseName samples fit) =
        .ok (seriesOf caseName samples fit) ∧
      ∀ sample ∈ samples, sample.rate = "" ↔ (sample.cpuTime == 0.0) = true := by
  refine ⟨?_, fun sample _ => sample.rate_eq_empty_iff⟩
  have hlines : (sampleRows h samples).map Row.line = samples.map (Sample.line caseName) := by
    rw [sampleRows, List.map_map]
    exact List.map_congr_left fun sample _ => sample.line_row h
  unfold resultFile
  cases fit with
  | none =>
      have hparse := parse_unlines_rows (sampleRows h samples)
      have haggregate := aggregate_sampleRows h samples 9 8 [] (by simp)
      rw [hlines] at hparse
      rw [List.append_nil] at haggregate
      rw [Option.elim_none, List.append_nil, Series.parse, hparse]
      exact haggregate
  | some fitted =>
      have hlabel := hfit fitted rfl
      have hparse := parse_unlines_rows
        (sampleRows h samples ++ [fitted.fitRow h hlabel, fitted.deviationRow h])
      have hrows := fitted.lines_rows h hlabel
      rw [List.map_append, hlines, List.map_cons, List.map_cons, List.map_nil, hrows] at hparse
      rw [Option.elim_some, List.append_assoc, List.cons_append, Series.parse, hparse]
      exact aggregate_fittedRows h samples 9 8 fitted hlabel

/-- The case may be called almost anything, even like a deviation, and sizes may repeat. -/
theorem parse_resultFile_of_suffix :
    IsCaseName "a, b/it's_RMS" ∧ IsBare "N lgN" ∧
    ∃ series, Series.parse .unlimited (resultFile "a, b/it's_RMS"
        [⟨8, 2.5, 0.0⟩, ⟨8, 1.0, 4.0⟩] (some ⟨"N lgN", 1.0, 2.0, 0.5, 0.25⟩)) = .ok series ∧
      series.caseName = some "a, b/it's_RMS" ∧ series.sizes = #["8", "8"] ∧
      series.fit.label = some "N lgN" := by
  have hcase : IsCaseName "a, b/it's_RMS" :=
    ⟨by decide, by decide, by unfold Unbroken; decide, by decide⟩
  have hunreserved : "N lgN".toList.all (fun c => c ∉ Csv.reserved) = true := by decide
  have hlabel : IsBare "N lgN" :=
    ⟨fun c hc => of_decide_eq_true (List.all_eq_true.1 hunreserved c hc), by decide,
      by unfold Unbroken; decide⟩
  have hread := (parse_resultFile hcase [⟨8, 2.5, 0.0⟩, ⟨8, 1.0, 4.0⟩]
    (some ⟨"N lgN", 1.0, 2.0, 0.5, 0.25⟩) (fun _ h => Option.some.inj h ▸ hlabel)).1
  exact ⟨hcase, hlabel, _, hread, rfl, rfl, rfl⟩

end Samples

end BenchBoard
