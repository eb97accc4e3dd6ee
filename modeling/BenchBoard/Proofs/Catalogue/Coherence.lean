import BenchBoard.Proofs.Catalogue.Building
import BenchBoard.Proofs.Catalogue.Runs
import BenchBoard.Samples.Pairs
/-!
# BenchBoard.Proofs.Catalogue.Coherence

**The selection, the comparisons and the loaded entries agree.** Three parts of a registry are
updated separately. `Coherent` says how they belong together, and it holds of every registry
that can be reached: every request either changes nothing, or drops the comparisons
together with the selected case, or sets both after everything was loaded and compared.
-/

namespace BenchBoard

variable {σ : Type} {source : Source σ}

namespace Registry

/-- These are the comparisons of the case, whose entries are all loaded: one for each tracked
metric that its baseline has, in that order, of all its entries. -/
structure Compared (metrics : List Metric) (c : Case) (comparisons : List Comparison) : Prop where
  loaded : c.IsLoaded
  compared : ∃ results entries, c.baselineEntry.results = some results ∧
    c.entries.map Entry.named? = entries.map some ∧
    (metrics.filter fun m => results.table.header.contains m.field).map
      (Comparison.compare entries c.baseline) = comparisons.map .ok

/-- What the parts of a registry have to do with each other. -/
structure Coherent (registry : Registry) : Prop where
  /-- A selected topic has cases. -/
  known : ∀ topic, registry.selection.topic? = some topic →
    ∃ cases, registry.cases? topic = some cases
  /-- Without a selected case there are no comparisons. -/
  bare : registry.selection.index? = none → registry.comparisons = []
  /-- A selected case is there, and the comparisons are its own. -/
  shown : ∀ topic index, registry.selection = .onCase topic index →
    ∃ cases c, registry.cases? topic = some cases ∧ cases[index]? = some c ∧
      Compared registry.metrics c registry.comparisons

variable {registry : Registry} {metrics : List Metric} {loader : Loader}

/-! ### One request -/

theorem compared_of_compareLoaded {c : Case} {session : Session σ} {comparisons : List Comparison}
    (hloaded : c.IsLoaded) (h : (compareLoaded metrics c session).1 = .ok comparisons) :
    Compared metrics c comparisons := by
  obtain ⟨results, hresults⟩ := hloaded.exists_baseline_results
  obtain ⟨entries, hseries, hentries⟩ := hloaded.exists_loadedSeries
  simp only [compareLoaded, hresults, hseries, Option.getD_some] at h
  exact ⟨hloaded, results, entries, hresults, hentries, map_compare_of_compareEach h⟩

/-- A comparison that succeeds is one of a loaded case. -/
theorem compared_of_compareCase {c c' : Case} {session after : Session σ}
    {comparisons : List Comparison}
    (h : compareCase loader metrics source c session = (.ok comparisons, c', after)) :
    Compared metrics c' comparisons := by
  rcases loadAll_of_compareCase h with ⟨e, -, houtcome⟩ | ⟨between, hload, hcompare⟩
  · cases houtcome
  · have hloaded : c'.IsLoaded := (Case.loads_of_loadAll hload).isLoaded rfl
    exact compared_of_compareLoaded hloaded (congrArg Prod.fst hcompare)

theorem Coherent.moveTo_idle (registry : Registry) : (registry.moveTo .idle).Coherent where
  known := by
    intro topic h
    cases h
  bare := fun _ => rfl
  shown := by
    intro topic index h
    cases h

theorem Coherent.moveTo_onTopic {topic : String} {cases : List Case}
    (h : registry.cases? topic = some cases) : (registry.moveTo (.onTopic topic)).Coherent where
  known := by
    intro other hother
    cases hother
    exact ⟨cases, h⟩
  bare := fun _ => rfl
  shown := by
    intro other index hother
    cases hother

theorem Coherent.selectTopic (h : registry.Coherent) (request : Option String) :
    (registry.selectTopic request).2.Coherent := by
  have hstep := topicStep_selectTopic registry request
  revert hstep
  generalize (registry.selectTopic request).1 = outcome
  generalize (registry.selectTopic request).2 = after
  intro hstep
  cases hstep with
  | same => exact h
  | left hother => exact .moveTo_idle registry
  | chosen hother hknown =>
      obtain ⟨cases, hcases⟩ := (registry.topics.mem_names_iff _).1 hknown
      exact .moveTo_onTopic hcases
  | unknown hother hunknown => exact h

theorem Coherent.selectCase (h : registry.Coherent) (source : Source σ) (request : Option Nat)
    (session : Session σ) : (registry.selectCase source request session).2.1.Coherent := by
  have hstep := caseStep_selectCase source registry request session
  revert hstep
  generalize (registry.selectCase source request session).1 = outcome
  generalize (registry.selectCase source request session).2.1 = after
  generalize (registry.selectCase source request session).2.2 = session'
  intro hstep
  cases hstep with
  | noTopic htopic => exact h
  | same htopic hsame => exact h
  | left htopic hother =>
      obtain ⟨cases, hcases⟩ := h.known _ htopic
      exact .moveTo_onTopic hcases
  | unknownTopic htopic hother hcases =>
      -- The selected topic is known.
      obtain ⟨cases, hknown⟩ := h.known _ htopic
      rw [hcases] at hknown
      cases hknown
  | unknownCase htopic hother hcases hc => exact .moveTo_onTopic hcases
  | @failed topic index cases c c' e _ htopic hother hcases hc hcompare =>
      exact .moveTo_onTopic (cases?_putCase_self registry topic cases index c')
  | @chosen topic index cases c c' comparisons _ htopic hother hcases hc hcompare =>
      have hput := cases?_putCase_self (registry.moveTo (.onTopic topic)) topic cases index c'
      have hlt : index < cases.length := (List.getElem?_eq_some_iff.1 hc).1
      refine ⟨?_, ?_, ?_⟩
      · intro other hother
        cases hother
        exact ⟨_, hput⟩
      · intro hnone
        cases hnone
      · intro other place hselected
        cases hselected
        refine ⟨_, c', hput, ?_, compared_of_compareCase hcompare⟩
        rw [List.getElem?_set_self hlt]

/-! ### All requests -/

/-- Every registry that can be reached is coherent. -/
theorem Reachable.coherent (h : Reachable registry) : registry.Coherent := by
  induction h with
  | @built description root metrics loader registry hbuilt =>
      obtain ⟨topics, -, rfl⟩ := ofDescription_eq_ok_iff.1 hbuilt
      exact .moveTo_idle ⟨topics, .idle, [], metrics, loader⟩
  | asked source request session _ ih =>
      cases request with
      | topic name => exact ih.selectTopic name
      | case index => exact ih.selectCase source index session

/-- What can be seen of a registry that can be reached. Nothing is shown until a case is
selected. Then the case is one of a known topic, all its entries are loaded, and
it is shown with one comparison of them all for each tracked metric that the header of its
baseline has. -/
theorem Reachable.selection_agrees (h : Reachable registry) :
    match registry.selection with
    | .idle => registry.comparisons = [] ∧ registry.view? = none
    | .onTopic topic =>
        topic ∈ registry.topics.names ∧ registry.comparisons = [] ∧ registry.view? = none
    | .onCase topic index =>
        topic ∈ registry.topics.names ∧ ∃ cases c results entries,
          registry.cases? topic = some cases ∧ index < cases.length ∧
          cases[index]? = some c ∧ (∀ entry ∈ c.entries, entry.isLoaded = true) ∧
          registry.view? = some ⟨topic, index, c, registry.comparisons⟩ ∧
          c.baselineEntry.results = some results ∧
          c.entries.map Entry.named? = entries.map some ∧
          (registry.metrics.filter fun m => results.table.header.contains m.field).map
            (Comparison.compare entries c.baseline) = registry.comparisons.map .ok := by
  have hcoherent := h.coherent
  cases hselection : registry.selection with
  | idle =>
      refine ⟨hcoherent.bare ?_, ?_⟩
      · rw [hselection]
        rfl
      · exact view?_eq_none (by rw [hselection]; rfl)
  | onTopic topic =>
      refine ⟨(registry.topics.mem_names_iff topic).2 (hcoherent.known topic ?_),
        hcoherent.bare ?_, ?_⟩
      · rw [hselection]
        rfl
      · rw [hselection]
        rfl
      · exact view?_eq_none (by rw [hselection]; rfl)
  | onCase topic index =>
      obtain ⟨cases, c, hcases, hc, hshown⟩ := hcoherent.shown topic index hselection
      obtain ⟨results, entries, hresults, hentries, hcompared⟩ := hshown.compared
      refine ⟨(registry.topics.mem_names_iff topic).2 ⟨cases, hcases⟩, cases, c, results,
        entries, hcases, (List.getElem?_eq_some_iff.1 hc).1, hc, hshown.loaded,
        view?_of_getElem? hselection hcases hc, hresults, hentries, hcompared⟩

open Samples in
/-- A case that could be selected only at the second attempt is shown as a whole. -/
theorem selection_agrees_latePairFiles :
    Reachable (pairsRegistry.runFrom latePairFiles
      [.topic (some "list"), .case (some 0), .case (some 0)] ⟨false, #[]⟩) ∧
    (pairsRegistry.runFrom latePairFiles [.topic (some "list"), .case (some 0)]
      ⟨false, #[]⟩).selection = .onTopic "list" ∧
    ∃ c comparisons, (pairsRegistry.runFrom latePairFiles
        [.topic (some "list"), .case (some 0), .case (some 0)] ⟨false, #[]⟩).view? =
          some ⟨"list", 0, c, comparisons⟩ ∧
      ∀ entry ∈ c.entries, entry.isLoaded = true := by
  have hbuilt : ofDescription pairs "" pairsRegistry.metrics pairsRegistry.loader =
      .ok pairsRegistry := rfl
  have hreach := (Reachable.built hbuilt).runFrom latePairFiles
    [.topic (some "list"), .case (some 0), .case (some 0)] ⟨false, #[]⟩
  have hselection : (pairsRegistry.runFrom latePairFiles
      [.topic (some "list"), .case (some 0), .case (some 0)] ⟨false, #[]⟩).selection =
        .onCase "list" 0 := by
    decide +kernel
  have hagrees := Reachable.selection_agrees hreach
  rw [hselection] at hagrees
  obtain ⟨-, cases, c, results, entries, -, -, -, hloaded, hview, -⟩ := hagrees
  exact ⟨hreach, by decide +kernel, c, _, hview, hloaded⟩

end Registry

end BenchBoard
