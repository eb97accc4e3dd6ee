import BenchBoard.Proofs.Catalogue.Coherence
import BenchBoard.Proofs.Comparison.Rows
/-!
# BenchBoard.Proofs.Catalogue.Alignment

**Which cases can be selected.** A comparison needs as many sizes of each entry as of the baseline,
and refuses the case otherwise. But nobody looks at the sizes when there is no metric to
compare: a case none of whose tracked metrics is in the header of its baseline is selected
whatever its entries hold. These are the two ways in which a loaded case is selected
(`Registry.exists_compareLoaded_iff`), and so every selected case is of one of the two kinds.
-/

namespace BenchBoard

variable {σ : Type} {source : Source σ}

/-! ### Aligned cases -/

/-- At how many sizes the entry was measured, once it is loaded. -/
def Entry.sizeCount? (entry : Entry) : Option Nat :=
  entry.series?.map (·.size)

namespace Case

/-- Every entry was measured at as many sizes as the baseline. -/
def Aligned (c : Case) : Prop :=
  ∃ count, c.baselineEntry.sizeCount? = some count ∧
    ∀ entry ∈ c.entries, entry.sizeCount? = some count

/-- None of the metrics is in the header of the baseline's file. -/
def Untracked (metrics : List Metric) (c : Case) : Prop :=
  ∀ results, c.baselineEntry.results = some results →
    ∀ metric ∈ metrics, results.table.header.contains metric.field = false

variable {c : Case} {entries : List NamedSeries}

theorem aligned_iff : c.Aligned ↔ c.baselineEntry.sizeCount?.isSome ∧
    ∀ entry ∈ c.entries, entry.sizeCount? = c.baselineEntry.sizeCount? := by
  constructor
  · intro ⟨count, hbaseline, hentries⟩
    rw [hbaseline]
    exact ⟨rfl, hentries⟩
  · intro ⟨hsome, hentries⟩
    obtain ⟨count, hbaseline⟩ := Option.isSome_iff_exists.1 hsome
    rw [hbaseline] at hentries
    exact ⟨count, hbaseline, hentries⟩

instance (c : Case) : Decidable c.Aligned :=
  decidable_of_iff _ aligned_iff.symm

instance (metrics : List Metric) (c : Case) : Decidable (c.Untracked metrics) :=
  match h : c.baselineEntry.results with
  | none => isTrue (by simp [Untracked, h])
  | some results =>
      decidable_of_iff (∀ metric ∈ metrics, results.table.header.contains metric.field = false)
        (by simp [Untracked, h])

theorem getElem?_baseline (c : Case) : c.entries[c.baseline]? = some c.baselineEntry :=
  List.getElem?_eq_getElem c.baseline_lt

theorem sizeCount?_of_named? {entry : Entry} {named : NamedSeries}
    (h : entry.named? = some named) : entry.sizeCount? = some named.2.size := by
  unfold Entry.named? at h
  obtain ⟨series, hseries, rfl⟩ := Option.map_eq_some_iff.1 h
  rw [Entry.sizeCount?, hseries]
  rfl

theorem map_sizeCount? (h : c.entries.map Entry.named? = entries.map some) :
    c.entries.map Entry.sizeCount? = entries.map fun named => some named.2.size := by
  generalize c.entries = loaded at h
  induction loaded generalizing entries with
  | nil =>
      obtain rfl : entries = [] := by simpa using h.symm
      rfl
  | cons entry loaded ih =>
      cases entries with
      | nil => cases h
      | cons named entries =>
          obtain ⟨hentry, hrest⟩ := List.cons.inj h
          rw [List.map_cons, List.map_cons, sizeCount?_of_named? hentry, ih hrest]

/-- The baseline of a loaded case is there, and alignment is a matter of its series. -/
theorem exists_base_aligned_iff (h : c.entries.map Entry.named? = entries.map some) :
    ∃ name base, entries[c.baseline]? = some (name, base) ∧
      (c.Aligned ↔ ∀ entry ∈ entries, entry.2.size = base.size) := by
  have hcounts := map_sizeCount? h
  have hnamed : (entries.map some)[c.baseline]? = some c.baselineEntry.named? := by
    rw [← h, List.getElem?_map, getElem?_baseline, Option.map_some]
  rw [List.getElem?_map] at hnamed
  obtain ⟨⟨name, base⟩, hbase, hentry⟩ := Option.map_eq_some_iff.1 hnamed
  have hcount := sizeCount?_of_named? hentry.symm
  refine ⟨name, base, hbase, ?_⟩
  have hall : (∀ entry ∈ c.entries, entry.sizeCount? = some base.size) ↔
      ∀ entry ∈ entries, entry.2.size = base.size := by
    have hmem : (∀ count ∈ c.entries.map Entry.sizeCount?, count = some base.size) ↔
        ∀ count ∈ entries.map (fun named => some named.2.size), count = some base.size := by
      rw [hcounts]
    simp only [List.forall_mem_map, Option.some.injEq] at hmem
    exact hmem
  constructor
  · rintro ⟨count, hbaseline, hentries⟩
    rw [hcount] at hbaseline
    cases hbaseline
    exact hall.1 hentries
  · intro hentries
    exact ⟨base.size, hcount, hall.2 hentries⟩

end Case

/-! ### Comparing -/

namespace Registry

variable {registry : Registry} {metrics : List Metric} {entries : List NamedSeries}
  {baseline : Nat} {c : Case} {session : Session σ}

/-- Metrics that can be compared one by one can be compared one after the other. -/
theorem exists_compareEach
    (h : ∀ metric ∈ metrics, ∃ comparison,
      Comparison.compare entries baseline metric = .ok comparison) (session : Session σ) :
    ∃ comparisons, (compareEach entries baseline metrics session).1 = .ok comparisons := by
  induction metrics generalizing session with
  | nil => exact ⟨[], rfl⟩
  | cons metric metrics ih =>
      rw [List.forall_mem_cons] at h
      obtain ⟨⟨comparison, hcompare⟩, hrest⟩ := h
      unfold compareEach
      rw [hcompare]
      simp only
      generalize session.noteAll _ = noted
      obtain ⟨comparisons, hcomparisons⟩ := ih hrest noted
      rcases heach : compareEach entries baseline metrics noted with ⟨outcome, after⟩
      rw [heach] at hcomparisons
      obtain rfl : outcome = .ok comparisons := hcomparisons
      exact ⟨comparison :: comparisons, rfl⟩

/-- Nothing is compared exactly when the baseline has none of the metrics. -/
theorem filter_eq_nil_iff_untracked {results : Results}
    (h : c.baselineEntry.results = some results) :
    (metrics.filter fun m => results.table.header.contains m.field) = [] ↔
      c.Untracked metrics := by
  rw [List.filter_eq_nil_iff]
  constructor
  · intro hnone other hother metric hmetric
    rw [h] at hother
    cases hother
    simpa using hnone metric hmetric
  · intro huntracked metric hmetric
    simpa using huntracked results h metric hmetric

/-- A case with these comparisons is aligned, unless there was nothing to compare. -/
theorem Compared.aligned_or_untracked {comparisons : List Comparison}
    (h : Compared metrics c comparisons) : c.Aligned ∨ c.Untracked metrics := by
  obtain ⟨results, entries, hresults, hentries, hcompared⟩ := h.compared
  obtain ⟨name, base, hbase, haligned⟩ := Case.exists_base_aligned_iff hentries
  rw [haligned, ← filter_eq_nil_iff_untracked hresults]
  generalize metrics.filter (fun m => results.table.header.contains m.field) = tracked
    at hcompared
  cases tracked with
  | nil => exact .inr rfl
  | cons metric others =>
      -- One comparison is enough to tell.
      cases comparisons with
      | nil => cases hcompared
      | cons comparison comparisons =>
          have hfirst : Comparison.compare entries c.baseline metric = .ok comparison :=
            (List.cons.inj hcompared).1
          exact .inl ((Comparison.exists_compare_iff hbase metric).1 ⟨comparison, hfirst⟩)

/-- A loaded case can be compared exactly when it is aligned or there is nothing to compare. -/
theorem exists_compareLoaded_iff (hloaded : c.IsLoaded) (session : Session σ) :
    (∃ comparisons, (compareLoaded metrics c session).1 = .ok comparisons) ↔
      c.Aligned ∨ c.Untracked metrics := by
  constructor
  · rintro ⟨comparisons, h⟩
    exact (compared_of_compareLoaded hloaded h).aligned_or_untracked
  · intro hkind
    obtain ⟨results, hresults⟩ := hloaded.exists_baseline_results
    obtain ⟨entries, hseries, hentries⟩ := hloaded.exists_loadedSeries
    obtain ⟨name, base, hbase, haligned⟩ := Case.exists_base_aligned_iff hentries
    rw [haligned, ← filter_eq_nil_iff_untracked hresults] at hkind
    simp only [compareLoaded, hresults, hseries, Option.getD_some]
    rcases hkind with hsizes | hnone
    · refine exists_compareEach (fun metric _ => ?_) session
      exact (Comparison.exists_compare_iff hbase metric).2 hsizes
    · rw [hnone]
      exact ⟨[], rfl⟩

/-! ### Selected cases -/

theorem selectedCase?_eq_some {topic : String} {index : Nat} {cases : List Case}
    (hselection : registry.selection = .onCase topic index)
    (hcases : registry.cases? topic = some cases) (hc : cases[index]? = some c) :
    registry.selectedCase? = some c := by
  rw [selectedCase?, hselection]
  simp only
  rw [hcases, Option.bind_some, hc]

/-- A case that can be loaded is selected exactly when it can be compared. -/
theorem selection_selectCase_iff {topic : String} {index : Nat} {cases : List Case}
    {loaded : Case} {after : Session σ} (htopic : registry.selection.topic? = some topic)
    (hother : registry.selection.index? ≠ some index)
    (hcases : registry.cases? topic = some cases) (hc : cases[index]? = some c)
    (hload : c.loadAll registry.loader source session = (.ok (), loaded, after)) :
    (registry.selectCase source (some index) session).2.1.selection = .onCase topic index ↔
      ∃ comparisons, (compareLoaded registry.metrics loaded after).1 = .ok comparisons := by
  unfold selectCase
  simp only [htopic, hother, hcases, hc, compareCase_of_loaded hload, if_false]
  cases (compareLoaded registry.metrics loaded after).1 with
  | error e => simp [putCase, moveTo]
  | ok comparisons => simp

/-- The selected case of a registry that can be reached is aligned or has nothing to compare,
and every loaded case of one of these kinds can be selected. -/
theorem Reachable.selected_aligned_or_untracked (h : Reachable registry) :
    (∀ topic index, registry.selection = .onCase topic index →
      ∃ c, registry.selectedCase? = some c ∧ (c.Aligned ∨ c.Untracked registry.metrics)) ∧
    ∀ {σ : Type} (source : Source σ) (session after : Session σ) topic index cases c loaded,
      registry.selection.topic? = some topic → registry.selection.index? ≠ some index →
      registry.cases? topic = some cases → cases[index]? = some c →
      c.loadAll registry.loader source session = (.ok (), loaded, after) →
      ((registry.selectCase source (some index) session).2.1.selection = .onCase topic index ↔
        loaded.Aligned ∨ loaded.Untracked registry.metrics) := by
  constructor
  · intro topic index hselection
    obtain ⟨cases, c, hcases, hc, hshown⟩ := h.coherent.shown topic index hselection
    exact ⟨c, selectedCase?_eq_some hselection hcases hc, hshown.aligned_or_untracked⟩
  · intro σ source session after topic index cases c loaded htopic hother hcases hc hload
    have hloaded : loaded.IsLoaded := (Case.loads_of_loadAll hload).isLoaded rfl
    rw [selection_selectCase_iff htopic hother hcases hc hload,
      exists_compareLoaded_iff hloaded after]

section Sample

open Samples

/-- Of two files with one record each, the times can be compared. With no record in one of
them they cannot, and the case is not selected. -/
theorem selected_aligned_or_untracked_pairs :
    let registry := pairsRegistry.runFrom pairFiles [.topic (some "list"), .case (some 0)]
      ⟨(), #[]⟩
    Reachable registry ∧ (∃ c, registry.selectedCase? = some c ∧ c.Aligned) ∧
      (pairsRegistry.runFrom unevenFiles [.topic (some "list"), .case (some 0)]
        ⟨(), #[]⟩).selection ≠ .onCase "list" 0 := by
  intro registry
  have hbuilt : ofDescription pairs "" pairsRegistry.metrics pairsRegistry.loader =
      .ok pairsRegistry := rfl
  have hreach : Reachable registry := (Reachable.built hbuilt).runFrom _ _ _
  have htopic := (Reachable.built hbuilt).runFrom unevenFiles [.topic (some "list")] ⟨(), #[]⟩
  refine ⟨hreach, ?_, ?_⟩
  · have htracked :
        registry.selectedCase?.all (fun c => ¬ c.Untracked registry.metrics) = true := by
      decide +kernel
    obtain ⟨c, hc, hkind⟩ := (Reachable.selected_aligned_or_untracked hreach).1 "list" 0
      (by decide +kernel)
    rw [hc] at htracked
    exact ⟨c, hc, hkind.resolve_right (of_decide_eq_true htracked)⟩
  · intro hselection
    have hkind := ((Reachable.selected_aligned_or_untracked htopic).2 unevenFiles ⟨(), #[]⟩
      (pushBack.loadAll pairsRegistry.loader unevenFiles ⟨(), #[]⟩).2.2 "list" 0
      [pushBack, insertion] pushBack
      (pushBack.loadAll pairsRegistry.loader unevenFiles ⟨(), #[]⟩).2.1
      (by decide +kernel) (by decide +kernel) (by decide +kernel) rfl
      (Prod.ext (by decide +kernel) rfl)).1 hselection
    revert hkind
    decide +kernel

/-- Where only a metric is tracked that the files lack, a case is selected with one size of the
baseline and none of the other entry. -/
theorem exists_selected_not_aligned :
    let registry := ({ pairsRegistry with metrics := [⟨"iterations", false⟩] } : Registry).runFrom
      unevenFiles [.topic (some "list"), .case (some 0)] ⟨(), #[]⟩
    Reachable registry ∧ registry.selection = .onCase "list" 0 ∧
      ∃ c, registry.selectedCase? = some c ∧ ¬ c.Aligned := by
  intro registry
  have hbuilt : ofDescription pairs "" [⟨"iterations", false⟩] pairsRegistry.loader =
      .ok { pairsRegistry with metrics := [⟨"iterations", false⟩] } := rfl
  have huneven : registry.selectedCase?.any (fun c => ¬ c.Aligned) = true := by
    decide +kernel
  obtain ⟨c, hc, hnot⟩ := (Option.any_eq_true _ _).1 huneven
  exact ⟨(Reachable.built hbuilt).runFrom _ _ _, by decide +kernel, c, hc, of_decide_eq_true hnot⟩

end Sample

end Registry

end BenchBoard
