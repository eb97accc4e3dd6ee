import BenchBoard.Proofs.Catalogue.Alignment
import BenchBoard.Proofs.Catalogue.Origin
/-!
# BenchBoard.Proofs.Catalogue.BaselineColumn

**What the baseline's column shows.** A text of the baseline's file is read into records, their
values become columns of a series, and a comparison shows the column of its metric. So each value
that is shown stands in the file, on the line of its sample and under the metric
(`ReachableOn.baseline_shows_file`).

There is one exception. Which metrics are compared is decided by the header, which also has the
field `name`, but the series has no column for it. Who tracks it gets a comparison without a value
(`exists_baseline_not_shown`).
-/

namespace BenchBoard

open Text

/-! ### From the text to the series -/

theorem Header.contains_iff {header : Header} {field : String} :
    header.contains field = true ↔ field ∈ header.fields := by
  simp [contains, position?]

/-- On this line of the text, and under this field of the table's header, stands the value with
blanks around it. -/
def ResultTable.HasOnLine (text : String) (table : ResultTable) (line : Nat)
    (field value : String) : Prop :=
  ∃ (raw : List Char) (texts : List String) (column : Nat) (written : String),
    (raw, line) ∈ numbered 1 (lines (withoutMark text.toList)) ∧
    Csv.parse (String.ofList raw) = .ok texts ∧ table.header.fields[column]? = some field ∧
    texts[column]? = some written ∧ value = trim written

/-- Under a field of an accepted table, exactly the value of the record stands on its line. -/
theorem ResultTable.hasOnLine_iff_of_parse {limits : Limits} {text : String} {table : ResultTable}
    (h : parse limits text = .ok table) {record : Record} (hrecord : record ∈ table.records)
    {field : String} (hfield : field ∈ table.header.fields) (value : String) :
    table.HasOnLine text record.line field value ↔ value = record.get field := by
  obtain ⟨⟨raw, line⟩, hline, texts, htexts, hfits, hkeeps⟩ := exists_line_of_parse h hrecord
  obtain rfl : record.line = line := hkeeps.on_line
  constructor
  · rintro ⟨other, texts', column, written, hother, htexts', hcolumn, hwritten, rfl⟩
    obtain rfl : other = raw := eq_of_mem_numbered hother hline
    obtain rfl : texts' = texts := Except.ok.inj (htexts'.symm.trans htexts)
    rw [Record.get, hkeeps.found column field written hcolumn hwritten, Option.getD_some]
  · rintro rfl
    obtain ⟨column, hcolumn⟩ := List.mem_iff_getElem?.1 hfield
    obtain ⟨hlt, -⟩ := List.getElem?_eq_some_iff.1 hcolumn
    obtain ⟨written, hwritten⟩ : ∃ written, texts[column]? = some written :=
      ⟨_, List.getElem?_eq_getElem (Nat.lt_of_lt_of_le hlt hfits.1)⟩
    refine ⟨raw, texts, column, written, hline, htexts, hcolumn, hwritten, ?_⟩
    rw [Record.get, hkeeps.found column field written hcolumn hwritten, Option.getD_some]

/-- The value of a metric at a size is that of the sample, but there is no metric `name`. -/
theorem Series.Summarizes.value? {table : ResultTable} {series : Series}
    (h : Summarizes table series) {field : String} (hfield : field ∈ table.header.fields)
    (index : Nat) : series.value? field index =
      if field = nameField then none
      else (Sample.ofRecords table.records)[index]?.map (·.record.get field) := by
  unfold Series.value? metric?
  cases hfind : series.columns.find? (·.name == field) with
  | none =>
      have hmissing : ∀ name ∈ series.columns.map (·.name), name ≠ field := by
        simpa using hfind
      rw [h.names] at hmissing
      have hname : field = nameField := by
        refine Decidable.byContradiction fun hother => hmissing field ?_ rfl
        exact List.mem_filter.2 ⟨hfield, by simpa using hother⟩
      rw [if_pos hname, Option.map_none, Option.bind_none]
  | some column =>
      have hcolumn : column ∈ series.columns := List.mem_of_find?_eq_some hfind
      obtain rfl : column.name = field := by simpa using List.find?_some hfind
      have hother : column.name ≠ nameField := by
        have hmem : column.name ∈ series.columns.map (·.name) := List.mem_map_of_mem hcolumn
        rw [h.names, List.mem_filter] at hmem
        simpa using hmem.2
      rw [if_neg hother, Option.map_some, Option.bind_some, ← Array.getElem?_toList,
        h.values column hcolumn, List.getElem?_map]

/-! ### From the series to the comparison -/

namespace Comparison

variable {entries : List NamedSeries} {baseline : Nat} {name : String} {results : Results}
  {metric : Metric}

/-- The rows of a comparison have what the samples of the baseline have under the metric. -/
theorem forall₂_values_ofAligned (hbase : entries[baseline]? = some (name, results.series))
    (hsummarizes : Series.Summarizes results.table results.series)
    (hfield : metric.field ∈ results.table.header.fields) :
    List.Forall₂ (fun sample row => row.values[baseline]? =
        some (if metric.field = nameField then "" else sample.record.get metric.field))
      (Sample.ofRecords results.table.records)
      (ofAligned entries baseline results.series metric).rows := by
  have hsize : results.series.size = (Sample.ofRecords results.table.records).length := by
    have hlength := congrArg List.length hsummarizes.sizes
    rwa [List.length_map, Array.length_toList] at hlength
  rw [List.forall₂_iff_get]
  refine ⟨by rw [length_rows_ofAligned, hsize], fun index hsample hrow => ?_⟩
  have hvalue := (exists_value_of_rows (List.getElem?_eq_getElem hrow) hbase).2
  rw [hsummarizes.value? hfield, List.getElem?_eq_getElem hsample] at hvalue
  rw [List.get_eq_getElem, List.get_eq_getElem, hvalue]
  split <;> rfl

end Comparison

/-- The baseline of a case stands in its place among the series of the entries. -/
theorem Case.getElem?_baseline_named {c : Case} {entries : List NamedSeries} {results : Results}
    (hnamed : c.entries.map Entry.named? = entries.map some)
    (hresults : c.baselineEntry.results = some results) :
    entries[c.baseline]? = some (c.baselineEntry.name, results.series) := by
  have hbaseline : c.baselineEntry.named? = some (c.baselineEntry.name, results.series) := by
    rw [Entry.named?, Entry.series?, hresults]
    rfl
  have hplace : (entries.map some)[c.baseline]? = some c.baselineEntry.named? := by
    rw [← hnamed, List.getElem?_map, c.getElem?_baseline, Option.map_some]
  rw [List.getElem?_map, hbaseline] at hplace
  simpa using hplace

namespace Registry

variable {registry : Registry} {holds : String → String → Prop} {view : View}

/-! ### Reachable registries -/

/-- What is shown is a case whose entries are loaded, with its comparisons. -/
theorem Coherent.compared_view (h : registry.Coherent) (hview : registry.view? = some view) :
    (∃ cases, registry.cases? view.topic = some cases ∧ view.chosen ∈ cases) ∧
      Compared registry.metrics view.chosen view.comparisons := by
  cases hselection : registry.selection with
  | onCase topic index =>
      obtain ⟨cases, c, hcases, hc, hcompared⟩ := h.shown topic index hselection
      rw [view?_of_getElem? hselection hcases hc] at hview
      cases hview
      exact ⟨⟨cases, hcases, List.mem_of_getElem? hc⟩, hcompared⟩
  | idle =>
      rw [view?_eq_none (by rw [hselection]; rfl)] at hview
      cases hview
  | onTopic topic =>
      rw [view?_eq_none (by rw [hselection]; rfl)] at hview
      cases hview

/-- **The baseline's column shows the file's data.** In every registry that can be reached, the
baseline of the case that is shown was read from a text that its file may hold. Every comparison has
a row for each sample of that text, in order, and in it exactly what stands in the text on the line
of the sample and under the metric. But a comparison of the field `name` has no values. -/
theorem ReachableOn.baseline_shows_file (h : ReachableOn holds registry)
    (hview : registry.view? = some view) :
    ∃ text results, holds view.chosen.baselineEntry.file text ∧
      Results.ofText registry.loader.limits text = .ok results ∧
      ∀ comparison ∈ view.comparisons, comparison.baseline = view.chosen.baseline ∧
        List.Forall₂ (fun sample row => ∃ value,
            (∀ other, results.table.HasOnLine text sample.record.line comparison.metric.field other
              ↔ other = value) ∧
            row.values[comparison.baseline]? =
              some (if comparison.metric.field = nameField then "" else value))
          (Sample.ofRecords results.table.records) comparison.rows := by
  obtain ⟨⟨cases, hcases, hmem⟩, hcompared⟩ := h.reachable.coherent.compared_view hview
  obtain ⟨results, entries, hresults, hnamed, hcomparisons⟩ := hcompared.compared
  obtain ⟨text, hholds, htext⟩ := h.readFrom view.topic cases hcases view.chosen hmem
    view.chosen.baselineEntry (List.get_mem _ _) results hresults
  refine ⟨text, results, hholds, htext, fun comparison hcomparison => ?_⟩
  obtain ⟨htable, hseries⟩ := Results.ofText_eq_ok_iff.1 htext
  have hbase := Case.getElem?_baseline_named hnamed hresults
  obtain ⟨metric, hfield, hcompare⟩ : ∃ metric : Metric,
      metric.field ∈ results.table.header.fields ∧
        Comparison.compare entries view.chosen.baseline metric = .ok comparison := by
    have hmade : (.ok comparison : Except Misalignment Comparison) ∈ view.comparisons.map .ok :=
      List.mem_map_of_mem hcomparison
    rw [← hcomparisons] at hmade
    obtain ⟨metric, htracked, hcompare⟩ := List.mem_map.1 hmade
    exact ⟨metric, Header.contains_iff.1 (List.mem_filter.1 htracked).2, hcompare⟩
  obtain ⟨-, rfl⟩ := (Comparison.compare_eq_ok_iff hbase).1 hcompare
  refine ⟨rfl, ?_⟩
  have hvalues := Comparison.forall₂_values_ofAligned hbase
    (Series.summarizes_of_aggregate hseries) hfield
  have hwritten : ∀ sample ∈ Sample.ofRecords results.table.records, ∀ other,
      results.table.HasOnLine text sample.record.line metric.field other ↔
        other = sample.record.get metric.field := fun sample hsample =>
    ResultTable.hasOnLine_iff_of_parse htable (Sample.record_mem hsample) hfield
  exact ((List.forall₂_and_left _ _).2 ⟨hwritten, hvalues⟩).imp
    fun sample row hrow => ⟨_, hrow.1, hrow.2⟩

open Samples in
theorem gives_pairFiles : pairFiles.Gives fun _ text => text = "name,real_time\nA/8,1" := by
  intro path state text htext
  cases htext
  rfl

open Samples in
/-- Of the file of the baseline, with one sample, the time is shown. -/
theorem baseline_shows_file_pairFiles :
    let registry := pairsRegistry.runFrom pairFiles [.topic (some "list"), .case (some 0)]
      ⟨(), #[]⟩
    ReachableOn (fun _ text => text = "name,real_time\nA/8,1") registry ∧
      ∃ view, registry.view? = some view ∧
        view.comparisons.map (·.rows.map (·.values)) = [[["1", "1"]]] ∧
        ∃ text results, text = "name,real_time\nA/8,1" ∧
          Results.ofText registry.loader.limits text = .ok results ∧
          ∀ comparison ∈ view.comparisons, comparison.baseline = view.chosen.baseline ∧
            List.Forall₂ (fun sample row => ∃ value,
                (∀ other, results.table.HasOnLine text sample.record.line comparison.metric.field
                  other ↔ other = value) ∧
                row.values[comparison.baseline]? =
                  some (if comparison.metric.field = nameField then "" else value))
              (Sample.ofRecords results.table.records) comparison.rows := by
  intro registry
  have hbuilt : ofDescription pairs "" pairsRegistry.metrics pairsRegistry.loader =
      .ok pairsRegistry := rfl
  have hreach : ReachableOn (fun _ text => text = "name,real_time\nA/8,1") registry :=
    (ReachableOn.built hbuilt).runFrom gives_pairFiles _ _
  have hshown : registry.view?.any (fun view =>
      view.comparisons.map (·.rows.map (·.values)) = [[["1", "1"]]]) = true := by
    decide +kernel
  simp only [Option.any_eq_true, decide_eq_true_eq] at hshown
  obtain ⟨view, hview, hvalues⟩ := hshown
  exact ⟨hreach, view, hview, hvalues, ReachableOn.baseline_shows_file hreach hview⟩

open Samples in
/-- The field `name` is tracked. The file has a name on the line of its sample, and the comparison
shows nothing in its place. -/
theorem exists_baseline_not_shown :
    ∃ (registry : Registry) (view : View) (results : Results) (sample : Sample)
      (comparison : Comparison) (row : ComparisonRow),
      ReachableOn (fun _ text => text = "name,real_time\nA/8,1") registry ∧
      registry.view? = some view ∧
      Results.ofText registry.loader.limits "name,real_time\nA/8,1" = .ok results ∧
      view.comparisons[0]? = some comparison ∧ comparison.rows[0]? = some row ∧
      (Sample.ofRecords results.table.records)[0]? = some sample ∧
      results.table.HasOnLine "name,real_time\nA/8,1" sample.record.line comparison.metric.field
        "A/8" ∧
      row.values[comparison.baseline]? = some "" := by
  let tracking : Registry := { pairsRegistry with metrics := [⟨nameField, false⟩] }
  have hbuilt : ofDescription pairs "" tracking.metrics tracking.loader = .ok tracking := rfl
  let registry := tracking.runFrom pairFiles [.topic (some "list"), .case (some 0)] ⟨(), #[]⟩
  have hshown : registry.view?.any (fun view => view.comparisons[0]?.any fun comparison =>
      comparison.metric.field = nameField ∧ comparison.rows[0]?.any fun row =>
        row.values[comparison.baseline]? = some "") = true := by
    decide +kernel
  have hread : (Results.ofText registry.loader.limits "name,real_time\nA/8,1").toOption.any
      (fun results => results.table.header.fields[0]? = some nameField ∧
        (Sample.ofRecords results.table.records)[0]?.any fun sample =>
          sample.record.line = 2) = true := by
    decide +kernel
  simp only [Option.any_eq_true, decide_eq_true_eq] at hshown hread
  obtain ⟨view, hview, comparison, hcomparison, hmetric, row, hrow, hvalue⟩ := hshown
  obtain ⟨results, hresults, hheader, sample, hsample, hline⟩ := hread
  refine ⟨registry, view, results, sample, comparison, row,
    (ReachableOn.built hbuilt).runFrom gives_pairFiles _ _, hview, ?_, hcomparison, hrow,
    hsample, ?_, hvalue⟩
  · cases hparsed : Results.ofText registry.loader.limits "name,real_time\nA/8,1" with
    | error e =>
        rw [hparsed] at hresults
        cases hresults
    | ok found =>
        rw [hparsed] at hresults
        cases hresults
        rfl
  · rw [hmetric, hline]
    exact ⟨"A/8,1".toList, ["A/8", "1"], 0, "A/8", by decide +kernel, by decide +kernel, hheader,
      rfl, by decide +kernel⟩

end Registry

end BenchBoard
