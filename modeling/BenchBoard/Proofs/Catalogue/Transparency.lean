import BenchBoard.Proofs.Catalogue.Building
import BenchBoard.Proofs.Catalogue.Uncached
import BenchBoard.Samples.Pairs
/-!
# BenchBoard.Proofs.Catalogue.Transparency

**That results are kept cannot be seen.** As long as the source is steady, a registry gives the
same answers and shows the same as a machine that loads every file again at every selection
(`Registry.cache_transparent`).

Design points:

* `Mirrors` is the simulation. The cases of the registry are those of the catalogue once what
  was loaded is forgotten, and what was loaded is what the source says.
* So nothing is asked of a selection that failed midway: whatever it left behind is faithful, and
  the next attempt meets the same first error as a full reload.
* Two runs that end in the same selection show the same, because the machine without a cache
  does.
-/

namespace BenchBoard

variable {σ : Type} {source : Source σ}

/-! ### The simulation -/

/-- The registry shows what the machine without a cache shows, of the same cases, and what it
has loaded is what the source says. -/
structure Mirrors (source : Source σ) (registry : Registry) (uncached : Uncached) : Prop where
  selection : registry.selection = uncached.selection
  metrics : registry.metrics = uncached.metrics
  loader : registry.loader = uncached.loader
  comparisons : registry.comparisons = uncached.comparisons
  view : registry.view? = uncached.shown
  catalogue : ∀ topic, (registry.cases? topic).map (List.map Case.forget) =
    (uncached.catalogue.get? topic).map (List.map Case.forget)
  faithful : ∀ topic cases, registry.cases? topic = some cases →
    ∀ c ∈ cases, c.Faithful registry.loader source

namespace Mirrors

variable {registry : Registry} {uncached : Uncached} {topic : String} {cases : List Case}

theorem get?_none (h : Mirrors source registry uncached) (hcases : registry.cases? topic = none) :
    uncached.catalogue.get? topic = none := by
  have hcatalogue := h.catalogue topic
  rw [hcases, Option.map_none] at hcatalogue
  exact Option.map_eq_none_iff.1 hcatalogue.symm

theorem exists_get? (h : Mirrors source registry uncached)
    (hcases : registry.cases? topic = some cases) :
    ∃ plains, uncached.catalogue.get? topic = some plains ∧
      plains.map Case.forget = cases.map Case.forget := by
  have hcatalogue := h.catalogue topic
  rw [hcases, Option.map_some] at hcatalogue
  exact Option.map_eq_some_iff.1 hcatalogue.symm

theorem exists_getElem? {index : Nat} {c : Case} (h : Mirrors source registry uncached)
    (hcases : registry.cases? topic = some cases) (hc : cases[index]? = some c) :
    ∃ plains plain, uncached.catalogue.get? topic = some plains ∧
      plains[index]? = some plain ∧ plain.forget = c.forget := by
  obtain ⟨plains, hplains, hforget⟩ := h.exists_get? hcases
  have hplace := congrArg (·[index]?) hforget
  simp only [List.getElem?_map, hc, Option.map_some] at hplace
  obtain ⟨plain, hplain, hsame⟩ := Option.map_eq_some_iff.1 hplace
  exact ⟨plains, plain, hplains, hplain, hsame⟩

theorem contains (h : Mirrors source registry uncached) (topic : String) :
    registry.topics.contains topic = uncached.catalogue.contains topic := by
  have hcatalogue := congrArg Option.isSome (h.catalogue topic)
  rw [Option.isSome_map, Option.isSome_map] at hcatalogue
  exact hcatalogue

/-- Both leave the selected case. -/
theorem moveTo (h : Mirrors source registry uncached) {selection : Selection}
    (hselection : selection.index? = none) :
    Mirrors source (registry.moveTo selection) (uncached.moveTo selection) where
  selection := rfl
  metrics := h.metrics
  loader := h.loader
  comparisons := rfl
  view := by
    cases selection with
    | idle => rfl
    | onTopic topic => rfl
    | onCase topic index => cases hselection
  catalogue := h.catalogue
  faithful := h.faithful

variable {index : Nat} {c c' : Case}

/-- The registry puts back a case of which more is loaded. -/
theorem putCase (h : Mirrors source registry uncached)
    (hselection : registry.selection.index? = none) (hcases : registry.cases? topic = some cases)
    (hc : cases[index]? = some c) (hforget : c'.forget = c.forget)
    (hfaithful : c'.Faithful registry.loader source) :
    Mirrors source (registry.putCase topic cases index c') uncached where
  selection := h.selection
  metrics := h.metrics
  loader := h.loader
  comparisons := h.comparisons
  view := by
    rw [← h.view, Registry.view?_eq_none hselection]
    exact Registry.view?_eq_none hselection
  catalogue := by
    intro other
    rw [← h.catalogue other, Registry.cases?_putCase]
    split
    · -- Only results differ, and those are forgotten.
      rename_i heq
      subst heq
      rw [hcases, Option.map_some, Option.map_some, Case.map_forget_set hc hforget]
    · rfl
  faithful := by
    intro other others hothers d hd
    rw [Registry.cases?_putCase] at hothers
    split at hothers
    · cases hothers
      rcases List.mem_or_eq_of_mem_set hd with hd | rfl
      · exact h.faithful topic cases hcases d hd
      · exact hfaithful
    · exact h.faithful other others hothers d hd

/-- Both select the case with the same results and comparisons. -/
theorem choose (h : Mirrors source registry uncached) {cases : List Case}
    (hcases : registry.cases? topic = some cases) (hc : cases[index]? = some c)
    (comparisons : List Comparison) :
    Mirrors source
      { registry with selection := .onCase topic index, comparisons := comparisons }
      { uncached with
        selection := .onCase topic index
        shown := some ⟨topic, index, c, comparisons⟩ } where
  selection := rfl
  metrics := h.metrics
  loader := h.loader
  comparisons := rfl
  view := Registry.view?_of_getElem? rfl hcases hc
  catalogue := h.catalogue
  faithful := h.faithful

/-- What the registry finds out of a case, the machine without a cache finds out as well. -/
theorem exists_compareAfresh (h : Mirrors source registry uncached) (steady : source.Steady)
    {session after : Session σ} {outcome : Except BoardError (List Comparison)}
    (hcases : registry.cases? topic = some cases) (hc : cases[index]? = some c)
    (hcompare : Registry.compareCase registry.loader registry.metrics source c session =
      (outcome, c', after)) (session' : Session σ) :
    ∃ plains plain, uncached.catalogue.get? topic = some plains ∧
      plains[index]? = some plain ∧
      (Registry.compareAfresh uncached.loader uncached.metrics source plain session').1 =
        outcome.map fun comparisons => (c', comparisons) := by
  obtain ⟨plains, plain, hplains, hplain, hforget⟩ := h.exists_getElem? hcases hc
  have hfaithful := h.faithful topic cases hcases c (List.mem_of_getElem? hc)
  refine ⟨plains, plain, hplains, hplain, ?_⟩
  rw [← h.loader, ← h.metrics]
  exact Registry.compareAfresh_fst_of_compareCase hcompare steady hfaithful hforget session'

/-- The registry keeps what was loaded of a case, also when comparing it failed. -/
theorem keepLoaded (h : Mirrors source registry uncached) (steady : source.Steady)
    {session after : Session σ} {outcome : Except BoardError (List Comparison)}
    (hcases : registry.cases? topic = some cases) (hc : cases[index]? = some c)
    (hcompare : Registry.compareCase registry.loader registry.metrics source c session =
      (outcome, c', after)) :
    Mirrors source ((registry.moveTo (.onTopic topic)).putCase topic cases index c')
      (uncached.moveTo (.onTopic topic)) := by
  have hleft : Mirrors source (registry.moveTo (.onTopic topic))
      (uncached.moveTo (.onTopic topic)) := h.moveTo rfl
  have hfaithful := h.faithful topic cases hcases c (List.mem_of_getElem? hc)
  exact hleft.putCase rfl hcases hc (Registry.forget_of_compareCase hcompare)
    (Registry.faithful_of_compareCase hcompare steady hfaithful)

/-- Selecting a topic is answered alike. -/
theorem selectTopic (h : Mirrors source registry uncached) (request : Option String) :
    (registry.selectTopic request).1 = (uncached.selectTopic request).1 ∧
    Mirrors source (registry.selectTopic request).2 (uncached.selectTopic request).2 := by
  cases request with
  | none =>
      simp only [Registry.selectTopic, Uncached.selectTopic, h.selection]
      split
      · exact ⟨rfl, h⟩
      · exact ⟨rfl, h.moveTo rfl⟩
  | some topic =>
      simp only [Registry.selectTopic, Uncached.selectTopic, h.selection, h.contains]
      split
      · exact ⟨rfl, h⟩
      · split
        · exact ⟨rfl, h.moveTo rfl⟩
        · exact ⟨rfl, h⟩

/-- Selecting a case is answered alike, however much of it is loaded already. -/
theorem selectCase (h : Mirrors source registry uncached) (steady : source.Steady)
    (request : Option Nat) (session session' : Session σ) :
    (registry.selectCase source request session).1 =
      (uncached.selectCase source request session').1 ∧
    Mirrors source (registry.selectCase source request session).2.1
      (uncached.selectCase source request session').2.1 := by
  have hstep := Registry.caseStep_selectCase source registry request session
  revert hstep
  generalize (registry.selectCase source request session).1 = outcome
  generalize (registry.selectCase source request session).2.1 = next
  generalize (registry.selectCase source request session).2.2 = after
  intro hstep
  unfold Uncached.selectCase
  rw [← h.selection]
  cases hstep with
  | noTopic htopic =>
      rw [htopic]
      exact ⟨rfl, h⟩
  | same htopic hsame =>
      rw [htopic, hsame]
      cases request with
      | none => exact ⟨rfl, h⟩
      | some index =>
          simp only [if_true]
          exact ⟨trivial, h⟩
  | left htopic hother =>
      simp only [htopic, if_neg hother]
      exact ⟨trivial, h.moveTo rfl⟩
  | unknownTopic htopic hother hcases =>
      simp only [htopic, if_neg hother, h.get?_none hcases]
      exact ⟨trivial, h.moveTo rfl⟩
  | @unknownCase topic index cases htopic hother hcases hc =>
      obtain ⟨plains, hplains, hforget⟩ := h.exists_get? hcases
      have hlength : plains.length = cases.length := by
        rw [← List.length_map (f := Case.forget), hforget, List.length_map]
      have hplain : plains[index]? = none := by
        rw [List.getElem?_eq_none_iff] at hc ⊢
        rw [hlength]
        exact hc
      simp only [htopic, if_neg hother, hplains, hplain, hlength]
      exact ⟨trivial, h.moveTo rfl⟩
  | @failed topic index cases c c' e _ htopic hother hcases hc hcompare =>
      obtain ⟨plains, plain, hplains, hplain, hafresh⟩ :=
        h.exists_compareAfresh steady hcases hc hcompare session'
      simp only [htopic, if_neg hother, hplains, hplain]
      -- The reload fails as well, and with the same error.
      rcases hreload : Registry.compareAfresh uncached.loader uncached.metrics source plain
        session' with ⟨answer, last⟩
      rw [hreload] at hafresh
      obtain rfl : answer = .error e := hafresh
      exact ⟨rfl, h.keepLoaded steady hcases hc hcompare⟩
  | @chosen topic index cases c c' comparisons _ htopic hother hcases hc hcompare =>
      obtain ⟨plains, plain, hplains, hplain, hafresh⟩ :=
        h.exists_compareAfresh steady hcases hc hcompare session'
      simp only [htopic, if_neg hother, hplains, hplain]
      rcases hreload : Registry.compareAfresh uncached.loader uncached.metrics source plain
        session' with ⟨answer, last⟩
      rw [hreload] at hafresh
      obtain rfl : answer = .ok (c', comparisons) := hafresh
      have hput := Registry.cases?_putCase_self (registry.moveTo (.onTopic topic)) topic cases
        index c'
      have hplace : (cases.set index c')[index]? = some c' := by
        rw [List.getElem?_set_self (List.getElem?_eq_some_iff.1 hc).1]
      exact ⟨rfl, (h.keepLoaded steady hcases hc hcompare).choose hput hplace comparisons⟩

/-- Every request is answered alike. -/
theorem simulates (steady : source.Steady) :
    Simulates (fun registry => Registry.answer registry source)
      (fun uncached => Uncached.answer uncached source) (Mirrors source) := by
  intro registry uncached request session session' h
  cases request with
  | topic name => exact h.selectTopic name
  | case index => exact h.selectCase steady index session session'

/-- What is just built has loaded nothing. -/
theorem built {description : Description} {root : String} {topics : Topics (List Case)}
    (h : (description.traverse fun specs => specs.mapM (Case.ofSpec root)) = .ok topics)
    (metrics : List Metric) (loader : Loader) :
    Mirrors source ⟨topics, .idle, [], metrics, loader⟩ ⟨topics, .idle, none, metrics, loader⟩
    where
  selection := rfl
  metrics := rfl
  loader := rfl
  comparisons := rfl
  view := rfl
  catalogue := fun _ => rfl
  faithful := by
    intro topic cases hcases c hc entry hentry
    exact Entry.faithful_of_not_loaded
      (Registry.not_loaded_of_traverse h hcases c hc entry hentry)

end Mirrors

/-! ### What can be seen -/

/-- What can be seen of a machine between two requests. -/
structure Observation where
  selection : Selection
  comparisons : List Comparison
  view? : Option View

/-- What can be seen of a machine without a cache. -/
def Uncached.observe (uncached : Uncached) : Observation :=
  ⟨uncached.selection, uncached.comparisons, uncached.shown⟩

/-- The answers to requests and what is seen after each. -/
def Uncached.traceFrom (uncached : Uncached) (source : Source σ) (requests : List Request)
    (session : Session σ) : List (Except BoardError Change × Observation) :=
  trace (fun uncached => Uncached.answer uncached source) observe requests uncached session

namespace Registry

/-- What can be seen of a registry. -/
def observe (registry : Registry) : Observation :=
  ⟨registry.selection, registry.comparisons, registry.view?⟩

/-- The answers to requests and what is seen after each. -/
def traceFrom (registry : Registry) (source : Source σ) (requests : List Request)
    (session : Session σ) : List (Except BoardError Change × Observation) :=
  trace (fun registry => Registry.answer registry source) observe requests registry session

/-- A registry answers and shows what a machine without a cache answers and shows, as long as
the source is steady, whatever is asked for and in whatever sessions. So what two runs of a
registry show depends only on the selection in which they end. -/
theorem cache_transparent (steady : source.Steady) (description : Description) (root : String)
    (metrics : List Metric) (loader : Loader) :
    (∀ requests (session session' : Session σ),
      (ofDescription description root metrics loader).map
          (fun registry => registry.traceFrom source requests session) =
        (Uncached.ofDescription description root metrics loader).map
          (fun uncached => uncached.traceFrom source requests session')) ∧
    ∀ registry, ofDescription description root metrics loader = .ok registry →
      ∀ requests requests' (session session' : Session σ),
        (registry.runFrom source requests session).selection =
          (registry.runFrom source requests' session').selection →
        (registry.runFrom source requests session).view? =
          (registry.runFrom source requests' session').view? := by
  have hobserve : ∀ registry uncached, Mirrors source registry uncached →
      registry.observe = uncached.observe := by
    intro registry uncached h
    rw [observe, Uncached.observe, h.selection, h.comparisons, h.view]
  refine ⟨?_, ?_⟩
  · intro requests session session'
    unfold ofDescription Uncached.ofDescription
    cases htopics : description.traverse fun specs => specs.mapM (Case.ofSpec root) with
    | error e => rfl
    | ok topics =>
        have htrace := (Mirrors.simulates steady).trace hobserve
          (Mirrors.built htopics metrics loader) requests session session'
        exact congrArg Except.ok htrace
  · intro registry hbuilt requests requests' session session' hselection
    obtain ⟨topics, htopics, rfl⟩ := ofDescription_eq_ok_iff.1 hbuilt
    have hbegin : Mirrors source ⟨topics, .idle, [], metrics, loader⟩
        ⟨topics, .idle, none, metrics, loader⟩ := .built htopics metrics loader
    have hend := (Mirrors.simulates steady).run hbegin requests session session
    have hend' := (Mirrors.simulates steady).run hbegin requests' session' session'
    have hshows : Uncached.Shows source ⟨topics, .idle, none, metrics, loader⟩
        ⟨topics, .idle, none, metrics, loader⟩ := ⟨rfl, rfl, rfl, fun _ => rfl⟩
    have hshown := (hshows.run steady requests session).shown session
    have hshown' := (hshows.run steady requests' session').shown session
    unfold runFrom at hselection ⊢
    rw [hend.view, hend'.view, hshown, hshown', ← hend.selection, ← hend'.selection]
    exact congrArg _ hselection

open Samples in
/-- A selection that failed after the first file was loaded is not noticed later. -/
theorem cache_transparent_pairs :
    pairFiles.Steady ∧
    (ofDescription pairs "" pairsRegistry.metrics pairsRegistry.loader).map
        (fun registry => registry.traceFrom pairFiles
          [.topic (some "list"), .case (some 1), .case (some 0), .case (some 1)] ⟨(), #[]⟩) =
      (Uncached.ofDescription pairs "" pairsRegistry.metrics pairsRegistry.loader).map
        (fun uncached => uncached.traceFrom pairFiles
          [.topic (some "list"), .case (some 1), .case (some 0), .case (some 1)] ⟨(), #[]⟩) ∧
    (pairsRegistry.runFrom pairFiles [.topic (some "list"), .case (some 1), .case (some 0)]
        ⟨(), #[]⟩).selection = .onCase "list" 0 ∧
    (pairsRegistry.runFrom pairFiles [.topic (some "list"), .case (some 1), .case (some 0)]
        ⟨(), #[]⟩).view? =
      (pairsRegistry.runFrom pairFiles [.topic (some "list"), .case (some 0)]
        ⟨(), #[]⟩).view? := by
  have steady : pairFiles.Steady := fun _ _ _ => ⟨rfl, rfl⟩
  have htransparent := cache_transparent steady pairs "" pairsRegistry.metrics
    pairsRegistry.loader
  refine ⟨steady, htransparent.1 _ _ _, ?_, ?_⟩
  · decide +kernel
  · exact htransparent.2 pairsRegistry rfl _ _ _ _ (by decide +kernel)

end Registry

end BenchBoard
