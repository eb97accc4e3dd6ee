import BenchBoard.Proofs.Catalogue.Alignment
import BenchBoard.Proofs.Catalogue.Origin
import BenchBoard.Report.Case
/-!
# BenchBoard.Proofs.Report.Agreement

**The parts of a report agree with each other.** The sheets and the plots of a report are four
separate walks over the entries of one case. What they have in common is stated from the series of
the entries: which entries have a curve, how long it is, what its values are, how many rows each
sheet has, and whether the fits are shown at all (`CaseReport.Agrees`).

Three facts come together here. Every entry of a selected case is loaded, the columns of each
series are as long as its sizes, and entries that could be compared have as many sizes as the
baseline.
-/

namespace BenchBoard

/-! ### Sheets -/

namespace Sheet

variable {sheet : Sheet} {rows : List (List Cell)} {row : List Cell}

/-- Rows that are appended to a new sheet are as wide as its headers. -/
theorem length_of_mem_pushAll {title : String} {headers : List String}
    (h : row ∈ ((new title headers).pushAll rows).rows) : row.length = headers.length := by
  simp only [pushAll, new, List.nil_append, List.mem_map] at h
  obtain ⟨given, -, rfl⟩ := h
  exact length_resize headers.length given

end Sheet

/-! ### Loaded entries -/

variable {entries : List NamedSeries} {c : Case} {field : String}

/-- The curve of a series that has the metric. -/
def Plot.ofNamed? (field : String) (entry : NamedSeries) : Option Plot :=
  (entry.2.metric? field).map fun values =>
    ⟨entry.1, field, entry.2.sizes.toList, values.toList.map value?⟩

/-- The curves of a loaded case are those of its series. -/
theorem Plot.ofCase_eq (h : c.entries.map Entry.named? = entries.map some) (field : String) :
    ofCase field c = entries.filterMap (ofNamed? field) := by
  have hcurve : curve? field = fun entry => entry.named?.bind (ofNamed? field) := by
    funext entry
    unfold curve? Entry.named? ofNamed?
    cases entry.series? with
    | none => rfl
    | some series => cases hvalues : series.metric? field <;> simp [hvalues]
  calc ofCase field c
      = (c.entries.map Entry.named?).filterMap (·.bind (ofNamed? field)) := by
        rw [ofCase, hcurve, List.filterMap_map]
        rfl
    _ = entries.filterMap (ofNamed? field) := by
        rw [h, List.filterMap_map]
        rfl

/-! ### Curves -/

/-- The plot shows what the comparison has of the entry at this place. -/
structure Plot.Shows (comparison : Comparison) (entry : NamedSeries) (place : Nat) (plot : Plot) :
    Prop where
  name : plot.entry = entry.1
  metric : plot.metric = comparison.metric.field
  labels : plot.sizes = entry.2.sizes.toList
  sizes_length : plot.sizes.length = comparison.rows.length
  values_length : plot.values.length = comparison.rows.length
  /-- Each value is the number that the text in the same row spells, if it does. -/
  value : ∀ (index : Nat) (row : ComparisonRow), comparison.rows[index]? = some row → ∃ text,
    row.values[place]? = some text ∧
      plot.values[index]? = some (Decimal.read? (Text.trim text))

theorem Series.Aligned.size_of_metric? {series : Series} (h : series.Aligned)
    {values : Array String} (hmetric : series.metric? field = some values) :
    values.size = series.size := by
  obtain ⟨column, hfound, rfl⟩ := Option.map_eq_some_iff.1 hmetric
  exact h column (List.mem_of_find?_eq_some hfound)

variable {baseline : Nat} {base : Series} {metric : Metric} {entry : NamedSeries} {place : Nat}
  {plot : Plot}

/-- The curve of an entry that is compared shows what the comparison has of it. -/
theorem Plot.shows_of_ofNamed? (hsizes : ∀ entry ∈ entries, entry.2.size = base.size)
    (haligned : entry.2.Aligned) (hentry : entries[place]? = some entry)
    (hplot : ofNamed? metric.field entry = some plot) :
    Shows (Comparison.ofAligned entries baseline base metric) entry place plot := by
  obtain ⟨values, hvalues, rfl⟩ := Option.map_eq_some_iff.1 hplot
  have hsize : entry.2.size = base.size := hsizes entry (List.mem_of_getElem? hentry)
  have hlength : values.size = base.size := (haligned.size_of_metric? hvalues).trans hsize
  refine ⟨rfl, rfl, rfl, ?_, ?_, ?_⟩
  · rw [Comparison.length_rows_ofAligned, Array.length_toList]
    exact hsize
  · rw [Comparison.length_rows_ofAligned, List.length_map, Array.length_toList, hlength]
  · intro index row hrow
    obtain ⟨hlt, hvalue⟩ := Comparison.exists_value_of_rows hrow hentry
    refine ⟨_, hvalue, ?_⟩
    have hthere : index < values.size := by omega
    simp [Series.value?, hvalues, hthere, value?]

/-- What is kept of a list and what is made of it go together when they agree about what to
leave out. -/
theorem forall₂_filter_filterMap {α β : Type} {R : α → β → Prop} {p : α → Bool}
    {f : α → Option β} {list : List α} (hsome : ∀ a, p a = (f a).isSome)
    (h : ∀ a ∈ list, ∀ b, f a = some b → R a b) :
    List.Forall₂ R (list.filter p) (list.filterMap f) := by
  induction list with
  | nil => exact .nil
  | cons a list ih =>
      rw [List.forall_mem_cons] at h
      have hrest := ih h.2
      cases hf : f a with
      | none => simpa [hsome, hf] using hrest
      | some b => simpa [hsome, hf] using ⟨h.1 b hf, hrest⟩

/-- Has the series the metric? -/
def Series.has (field : String) (series : Series) : Bool :=
  (series.metric? field).isSome

/-- A loaded case that could be compared has one curve for each entry with the metric. -/
theorem Plot.forall₂_shows_ofCase (hnamed : c.entries.map Entry.named? = entries.map some)
    (hsizes : ∀ entry ∈ entries, entry.2.size = base.size)
    (haligned : ∀ entry ∈ entries, entry.2.Aligned) :
    List.Forall₂ (fun entry plot =>
        Shows (Comparison.ofAligned entries baseline base metric) entry.1 entry.2 plot)
      (entries.zipIdx.filter fun entry => entry.1.2.has metric.field)
      (ofCase metric.field c) := by
  have hplots : ofCase metric.field c =
      entries.zipIdx.filterMap fun entry => ofNamed? metric.field entry.1 := by
    calc ofCase metric.field c
        = (entries.zipIdx.map Prod.fst).filterMap (ofNamed? metric.field) := by
          rw [ofCase_eq hnamed, List.zipIdx_map_fst]
      _ = entries.zipIdx.filterMap fun entry => ofNamed? metric.field entry.1 := by
          rw [List.filterMap_map]
          rfl
  rw [hplots]
  refine forall₂_filter_filterMap ?_ ?_
  · intro entry
    simp [ofNamed?, Series.has]
  · intro entry hentry plot hplot
    have hplace : entries[entry.2]? = some entry.1 := List.mem_zipIdx_iff_getElem?.1 hentry
    exact shows_of_ofNamed? hsizes (haligned _ (List.mem_of_getElem? hplace)) hplace hplot

/-! ### Fits -/

/-- The sheet has a row for each entry, in order and under its name. -/
structure Complexity.Lists (kind : TimeKind) (entries : List NamedSeries) (sheet : Sheet) : Prop where
  title : sheet.title = s!"complexity ({kind.name})"
  rows : List.Forall₂ (fun entry row => row.head? = some (.text entry.1)) entries sheet.rows

/-- A series has a fit exactly when some part of it is there. -/
theorem Series.hasFit_iff (series : Series) : series.hasFit = true ↔ series.fit ≠ {} := by
  obtain ⟨caseName, sizes, columns, ⟨label, realTime, cpuTime⟩, deviation⟩ := series
  cases label <;> cases realTime <;> cases cpuTime <;> simp [hasFit]

/-- The series of a loaded case are all there. -/
theorem filterMap_named? (hnamed : c.entries.map Entry.named? = entries.map some) :
    c.entries.filterMap Entry.named? = entries := by
  calc c.entries.filterMap Entry.named?
      = (c.entries.map Entry.named?).filterMap id := by rw [List.filterMap_map]; rfl
    _ = entries := by rw [hnamed, List.filterMap_map]; simp

namespace Complexity

theorem sheet?_of_unfitted (hnamed : c.entries.map Entry.named? = entries.map some)
    (hfit : ∀ entry ∈ entries, entry.2.fit = {}) (kind : TimeKind) : sheet? kind c = none := by
  have hany : ¬ entries.any (·.2.hasFit) = true := by
    simpa [Series.hasFit_iff] using hfit
  simp only [sheet?, filterMap_named? hnamed, if_neg hany]

theorem exists_sheet? (hnamed : c.entries.map Entry.named? = entries.map some)
    (hfit : ∃ entry ∈ entries, entry.2.fit ≠ {}) (kind : TimeKind) :
    ∃ sheet, sheet? kind c = some sheet ∧ Lists kind entries sheet ∧
      ∀ row ∈ sheet.rows, row.length = sheet.headers.length := by
  have hany : entries.any (·.2.hasFit) = true := by
    simpa [Series.hasFit_iff] using hfit
  simp only [sheet?, filterMap_named? hnamed, if_pos hany]
  refine ⟨_, rfl, ⟨rfl, ?_⟩, fun row hrow => Sheet.length_of_mem_pushAll hrow⟩
  simp only [Sheet.pushAll, Sheet.new, List.nil_append, List.map_map, List.forall₂_map_right_iff]
  exact List.forall₂_same.2 fun entry _ => rfl

/-- Both times are shown or none is, and none exactly when no entry has a fit. -/
theorem sheets_cases (hnamed : c.entries.map Entry.named? = entries.map some) :
    let sheets := [TimeKind.real, TimeKind.cpu].filterMap (sheet? · c)
    (sheets = [] ∨ ∃ real cpu, sheets = [real, cpu] ∧
      Lists .real entries real ∧ Lists .cpu entries cpu) ∧
    (sheets = [] ↔ ∀ entry ∈ entries, entry.2.fit = {}) ∧
    ∀ sheet ∈ sheets, ∀ row ∈ sheet.rows, row.length = sheet.headers.length := by
  intro sheets
  by_cases hfit : ∀ entry ∈ entries, entry.2.fit = {}
  · have hsheets : sheets = [] := by
      simp [sheets, sheet?_of_unfitted hnamed hfit]
    rw [hsheets]
    exact ⟨.inl rfl, iff_of_true rfl hfit, by simp⟩
  · have hfitted : ∃ entry ∈ entries, entry.2.fit ≠ {} := by
      simpa using hfit
    obtain ⟨real, hreal, hlists, hwidth⟩ := exists_sheet? hnamed hfitted .real
    obtain ⟨cpu, hcpu, hlists', hwidth'⟩ := exists_sheet? hnamed hfitted .cpu
    have hsheets : sheets = [real, cpu] := by
      simp [sheets, hreal, hcpu]
    rw [hsheets]
    refine ⟨.inr ⟨real, cpu, rfl, hlists, hlists'⟩, iff_of_false (by simp) hfit, ?_⟩
    simp only [List.forall_mem_cons]
    exact ⟨hwidth, hwidth', by simp⟩

end Complexity

/-! ### The report -/

/-- What the parts of the report of a view have in common, given the series of the entries in
order and that of the baseline. -/
structure CaseReport.Agrees (report : CaseReport) (view : View) (entries : List NamedSeries)
    (base : Series) : Prop where
  /-- One sheet for each comparison, with a row for each size of the baseline. -/
  comparisons : List.Forall₂ (fun comparison sheet => sheet = Comparison.sheet comparison ∧
    sheet.title = comparison.metric.field ∧ sheet.rows.length = base.size ∧
    comparison.rows.length = base.size) view.comparisons report.comparisons
  /-- For each comparison, one plot for each entry that has the metric. -/
  plots : ∃ groups, report.plots = groups.flatten ∧
    List.Forall₂ (fun comparison group =>
      List.Forall₂ (fun entry plot => Plot.Shows comparison entry.1 entry.2 plot)
        (entries.zipIdx.filter fun entry => entry.1.2.has comparison.metric.field) group)
      view.comparisons groups
  /-- Both times or none, with a row for each entry. -/
  complexity : report.complexity = [] ∨ ∃ real cpu, report.complexity = [real, cpu] ∧
    Complexity.Lists .real entries real ∧ Complexity.Lists .cpu entries cpu
  /-- There is nothing to show of the fits exactly when no entry has one. -/
  complexity_eq_nil_iff : report.complexity = [] ↔ ∀ entry ∈ entries, entry.2.fit = {}
  /-- All rows are as wide as the headers of their sheet. -/
  widths : ∀ sheet ∈ report.sheets, ∀ row ∈ sheet.rows, row.length = sheet.headers.length

variable {view : View}

/-- The parts agree when all entries are loaded, the comparisons are those of the case, and all
columns are as long as the sizes. -/
theorem CaseReport.agrees_ofView {name : String}
    (hnamed : view.chosen.entries.map Entry.named? = entries.map some)
    (hbase : entries[view.chosen.baseline]? = some (name, base))
    (haligned : ∀ entry ∈ entries, entry.2.Aligned)
    (hcompared : ∀ comparison ∈ view.comparisons, ∃ metric,
      Comparison.compare entries view.chosen.baseline metric = .ok comparison)
    (withFull : Bool) : (ofView view withFull).Agrees view entries base where
  comparisons := by
    rw [ofView, List.forall₂_map_right_iff, List.forall₂_same]
    intro comparison hcomparison
    obtain ⟨metric, hcompare⟩ := hcompared comparison hcomparison
    obtain ⟨-, rfl⟩ := (Comparison.compare_eq_ok_iff hbase).1 hcompare
    refine ⟨rfl, rfl, ?_, Comparison.length_rows_ofAligned _ _ _ _⟩
    simp [Comparison.sheet, Sheet.pushAll, Sheet.new]
  plots := by
    refine ⟨view.comparisons.map fun comparison => Plot.ofCase comparison.metric.field view.chosen,
      by rw [ofView, List.flatMap_def], ?_⟩
    rw [List.forall₂_map_right_iff, List.forall₂_same]
    intro comparison hcomparison
    obtain ⟨metric, hcompare⟩ := hcompared comparison hcomparison
    obtain ⟨hsizes, rfl⟩ := (Comparison.compare_eq_ok_iff hbase).1 hcompare
    exact Plot.forall₂_shows_ofCase hnamed hsizes haligned
  complexity := (Complexity.sheets_cases hnamed).1
  complexity_eq_nil_iff := (Complexity.sheets_cases hnamed).2.1
  widths := by
    intro sheet hsheet
    simp only [sheets, List.mem_append, or_assoc] at hsheet
    rcases hsheet with hsheet | hsheet | hsheet
    · obtain ⟨comparison, -, rfl⟩ := List.mem_map.1 hsheet
      exact fun row hrow => Sheet.length_of_mem_pushAll hrow
    · exact (Complexity.sheets_cases hnamed).2.2 sheet hsheet
    · cases withFull with
      | false => cases hsheet
      | true =>
          obtain rfl := List.mem_singleton.1 hsheet
          exact fun row hrow => Sheet.length_of_mem_pushAll hrow

namespace Registry

variable {registry : Registry}

/-- The series of a loaded case are aligned when its entries keep only what was read. -/
theorem aligned_of_isRead {limits : Limits} (hread : ∀ entry ∈ c.entries, entry.IsRead limits)
    (hnamed : c.entries.map Entry.named? = entries.map some) :
    ∀ entry ∈ entries, entry.2.Aligned := by
  intro named hmem
  have hsome : some named ∈ c.entries.map Entry.named? := by
    rw [hnamed]
    exact List.mem_map_of_mem hmem
  obtain ⟨entry, hentry, hsome⟩ := List.mem_map.1 hsome
  exact (hread entry hentry).aligned hsome

/-- **The products of a report agree.** In every registry that can be reached, a selected case is
shown, and whether the full results are asked for or not, the sheets, the plots and the fits of
its report agree with each other and with the series of its entries. -/
theorem Reachable.report_agrees (h : Reachable registry) {topic : String} {index : Nat}
    (hselection : registry.selection = .onCase topic index) :
    ∃ view entries name base, registry.view? = some view ∧
      view.chosen.entries.map Entry.named? = entries.map some ∧
      entries[view.chosen.baseline]? = some (name, base) ∧
      ∀ withFull, (CaseReport.ofView view withFull).Agrees view entries base := by
  obtain ⟨cases, c, hcases, hc, hshown⟩ := h.coherent.shown topic index hselection
  obtain ⟨results, entries, -, hnamed, hcompared⟩ := hshown.compared
  obtain ⟨name, base, hbase, -⟩ := Case.exists_base_aligned_iff hnamed
  have hread := h.isRead topic cases hcases c (List.mem_of_getElem? hc)
  refine ⟨_, entries, name, base, view?_of_getElem? hselection hcases hc, hnamed, hbase, ?_⟩
  refine CaseReport.agrees_ofView hnamed hbase (aligned_of_isRead hread hnamed) ?_
  intro comparison hcomparison
  have hmem : (.ok comparison : Except Misalignment Comparison) ∈ registry.comparisons.map .ok :=
    List.mem_map_of_mem hcomparison
  rw [← hcompared] at hmem
  obtain ⟨metric, -, hcompare⟩ := List.mem_map.1 hmem
  exact ⟨metric, hcompare⟩

open Samples in
/-- Of two files with one record each, the report has one sheet with one row and two curves. -/
theorem report_agrees_pairFiles :
    let registry := pairsRegistry.runFrom pairFiles [.topic (some "list"), .case (some 0)]
      ⟨(), #[]⟩
    Reachable registry ∧ registry.selection = .onCase "list" 0 ∧
      ∃ view entries base, registry.view? = some view ∧
        (CaseReport.ofView view true).Agrees view entries base ∧
        (CaseReport.ofView view true).comparisons.map (·.rows.length) = [1] ∧
        (CaseReport.ofView view true).plots.length = 2 := by
  intro registry
  have hbuilt : ofDescription pairs "" pairsRegistry.metrics pairsRegistry.loader =
      .ok pairsRegistry := rfl
  have hreach : Reachable registry := (Reachable.built hbuilt).runFrom _ _ _
  have hselection : registry.selection = .onCase "list" 0 := by decide +kernel
  obtain ⟨view, entries, name, base, hview, -, -, hagrees⟩ :=
    Reachable.report_agrees hreach hselection
  have hcounts : registry.view?.all (fun view =>
      (CaseReport.ofView view true).comparisons.map (·.rows.length) = [1] ∧
        (CaseReport.ofView view true).plots.length = 2) = true := by
    decide +kernel
  rw [hview] at hcounts
  exact ⟨hreach, hselection, view, entries, base, hview, hagrees true, of_decide_eq_true hcounts⟩

end Registry

end BenchBoard
