import BenchBoard.Catalogue.Registry
import BenchBoard.Proofs.Catalogue.Loading
import BenchBoard.Proofs.Catalogue.Topics
/-!
# BenchBoard.Proofs.Catalogue.Selecting

**What selecting can do.** Loading and comparing are taken apart first: a case whose
entries are loaded is compared without the source (`compareLoaded`), and `compareEach`
either gives the comparison of every metric or fails at the first that cannot be compared.
`CaseStep` then has one constructor for each way in which the selection of a case can end, with
all that it changes, and so has `TopicStep` for topics.
-/

namespace BenchBoard

variable {σ : Type} {loader : Loader} {source : Source σ}

/-! ### Selections -/

namespace Selection

variable {selection : Selection} {topic : String} {index : Nat}

theorem topic?_eq_none_iff : selection.topic? = none ↔ selection = .idle := by
  cases selection <;> simp [topic?]

theorem eq_onTopic (ht : selection.topic? = some topic) (hi : selection.index? = none) :
    selection = .onTopic topic := by
  cases selection with
  | idle => cases ht
  | onTopic other =>
      cases ht
      rfl
  | onCase other place => cases hi

theorem eq_onCase (ht : selection.topic? = some topic) (hi : selection.index? = some index) :
    selection = .onCase topic index := by
  cases selection with
  | idle => cases ht
  | onTopic other => cases hi
  | onCase other place =>
      cases ht
      cases hi
      rfl

end Selection

/-! ### Loading a case -/

namespace Case

/-- The case as it is before any of its entries is loaded. -/
def forget (c : Case) : Case :=
  { c with
    entries := c.entries.map Entry.forget
    baseline_lt := by rw [List.length_map]; exact c.baseline_lt }

/-- Every loaded entry keeps what loading its file gives. -/
def Faithful (loader : Loader) (source : Source σ) (c : Case) : Prop :=
  ∀ entry ∈ c.entries, entry.Faithful loader source

theorem forget_forget (c : Case) : c.forget.forget = c.forget := by
  unfold forget
  simp only [List.map_map]
  rfl

/-- Where nothing is loaded, nothing is wrong. -/
theorem faithful_forget (c : Case) (loader : Loader) (source : Source σ) :
    c.forget.Faithful loader source := by
  intro entry hentry
  obtain ⟨original, -, rfl⟩ := List.mem_map.1 hentry
  exact Entry.faithful_of_not_loaded rfl

/-- Are all entries loaded? -/
def IsLoaded (c : Case) : Prop :=
  ∀ entry ∈ c.entries, entry.isLoaded = true

variable {c c' : Case} {session after : Session σ} {outcome : Except BoardError Unit}

theorem entries_forget_of_forget_eq (h : c.forget = c'.forget) :
    c.entries.map Entry.forget = c'.entries.map Entry.forget :=
  congrArg Case.entries h

theorem forget_eq_of_entries (hn : c.name = c'.name) (hd : c.description = c'.description)
    (hb : c.baseline = c'.baseline)
    (he : c.entries.map Entry.forget = c'.entries.map Entry.forget) : c.forget = c'.forget := by
  obtain ⟨name, description, entries, baseline, hlt⟩ := c
  obtain ⟨name', description', entries', baseline', hlt'⟩ := c'
  simp only at hn hd hb he
  subst hn hd hb
  simp only [forget, he]

theorem loads_of_loadAll (h : c.loadAll loader source session = (outcome, c', after)) :
    Loads loader source c.entries session outcome c'.entries after := by
  have hloads := loads_loadEntries loader source c.entries session
  unfold loadAll at h
  cases h
  exact hloads

/-- Loading a case changes nothing but results. -/
theorem forget_of_loadAll (h : c.loadAll loader source session = (outcome, c', after)) :
    c'.forget = c.forget := by
  have hentries := (loads_of_loadAll h).map_forget
  unfold loadAll at h
  cases h
  exact forget_eq_of_entries rfl rfl rfl hentries

/-- Putting back what was loaded of a case does not change what the cases were before. -/
theorem map_forget_set {cases : List Case} {index : Nat} (hc : cases[index]? = some c)
    (h : c'.forget = c.forget) : (cases.set index c').map forget = cases.map forget := by
  obtain ⟨hlt, rfl⟩ := List.getElem?_eq_some_iff.1 hc
  have hlt' : index < (cases.map forget).length := by
    rw [List.length_map]
    exact hlt
  rw [List.map_set, h, ← List.getElem_map forget (h := hlt'), List.set_getElem_self]

/-- A loaded case has the results of its baseline. -/
theorem IsLoaded.exists_baseline_results (h : c.IsLoaded) :
    ∃ results, c.baselineEntry.results = some results :=
  Option.isSome_iff_exists.1 (h c.baselineEntry (List.get_mem _ _))

theorem mapM_named?_eq_some {entries : List Entry}
    (h : ∀ entry ∈ entries, entry.isLoaded = true) :
    ∃ named, entries.mapM Entry.named? = some named ∧
      entries.map Entry.named? = named.map some := by
  induction entries with
  | nil => exact ⟨[], rfl, rfl⟩
  | cons entry rest ih =>
      rw [List.forall_mem_cons] at h
      obtain ⟨results, hr⟩ := Option.isSome_iff_exists.1 h.1
      obtain ⟨others, hmapM, hmap⟩ := ih h.2
      have hnamed : entry.named? = some (entry.name, results.series) := by
        rw [Entry.named?, Entry.series?, hr]
        rfl
      refine ⟨(entry.name, results.series) :: others, ?_, ?_⟩
      · rw [List.mapM_cons, hnamed, hmapM]
        rfl
      · rw [List.map_cons, List.map_cons, hnamed, hmap]

/-- A loaded case has the series of all its entries, in order and under their names. -/
theorem IsLoaded.exists_loadedSeries (h : c.IsLoaded) :
    ∃ entries, c.loadedSeries? = some entries ∧
      c.entries.map Entry.named? = entries.map some :=
  mapM_named?_eq_some h

end Case

/-! ### Comparing a loaded case -/

namespace Registry

/-- The comparisons of a case whose entries are loaded, by every metric that its baseline
has. -/
def compareLoaded (metrics : List Metric) (c : Case) (session : Session σ) :
    Except BoardError (List Comparison) × Session σ :=
  match c.baselineEntry.results with
  | none => (.ok [], session)
  | some results =>
      compareEach (c.loadedSeries?.getD []) c.baseline
        (metrics.filter fun m => results.table.header.contains m.field) session

variable {metrics : List Metric} {c c' : Case} {session after : Session σ}

theorem compareCase_of_loaded (h : c.loadAll loader source session = (.ok (), c', after)) :
    compareCase loader metrics source c session =
      ((compareLoaded metrics c' after).1, c', (compareLoaded metrics c' after).2) := by
  rw [compareCase, h]
  simp only
  unfold compareLoaded
  cases c'.baselineEntry.results <;> rfl

/-- A case that cannot be loaded is not compared; one that is loaded is compared. -/
theorem loadAll_of_compareCase {outcome : Except BoardError (List Comparison)}
    (h : compareCase loader metrics source c session = (outcome, c', after)) :
    (∃ e, c.loadAll loader source session = (.error e, c', after) ∧ outcome = .error e) ∨
    (∃ between, c.loadAll loader source session = (.ok (), c', between) ∧
      compareLoaded metrics c' between = (outcome, after)) := by
  rcases hload : c.loadAll loader source session with ⟨loading, loaded, between⟩
  cases loading with
  | error e =>
      rw [compareCase, hload] at h
      cases h
      exact .inl ⟨e, rfl, rfl⟩
  | ok done =>
      rw [compareCase_of_loaded hload] at h
      cases h
      exact .inr ⟨between, rfl, rfl⟩

variable {entries : List NamedSeries} {baseline : Nat}

/-- What is found out about the metrics does not depend on the session. -/
theorem compareEach_fst (entries : List NamedSeries) (baseline : Nat) (metrics : List Metric)
    {τ : Type} (session : Session σ) (session' : Session τ) :
    (compareEach entries baseline metrics session).1 =
      (compareEach entries baseline metrics session').1 := by
  induction metrics generalizing session session' with
  | nil => rfl
  | cons metric metrics ih =>
      unfold compareEach
      cases Comparison.compare entries baseline metric with
      | error e => rfl
      | ok comparison =>
          generalize (Comparison.relabelled entries baseline).map Event.relabelled = events
          have h := ih (session.noteAll events) (session'.noteAll events)
          simp only
          rcases hs : compareEach entries baseline metrics (session.noteAll events) with
            ⟨answer, after⟩
          rcases hs' : compareEach entries baseline metrics (session'.noteAll events) with
            ⟨answer', after'⟩
          rw [hs, hs'] at h
          obtain rfl : answer = answer' := h
          cases answer <;> rfl

theorem compareLoaded_fst (metrics : List Metric) (c : Case) (session session' : Session σ) :
    (compareLoaded metrics c session).1 = (compareLoaded metrics c session').1 := by
  unfold compareLoaded
  split
  · rfl
  · exact compareEach_fst _ _ _ session session'

/-- When the comparison succeeds, it gives the comparison by each metric in order. -/
theorem map_compare_of_compareEach {comparisons : List Comparison}
    (h : (compareEach entries baseline metrics session).1 = .ok comparisons) :
    metrics.map (Comparison.compare entries baseline) = comparisons.map .ok := by
  induction metrics generalizing session comparisons with
  | nil =>
      cases h
      rfl
  | cons metric metrics ih =>
      unfold compareEach at h
      cases hc : Comparison.compare entries baseline metric with
      | error e =>
          rw [hc] at h
          cases h
      | ok comparison =>
          rw [hc] at h
          generalize (Comparison.relabelled entries baseline).map Event.relabelled = events at h
          simp only at h
          rcases hrest : compareEach entries baseline metrics (session.noteAll events) with
            ⟨answer, after⟩
          rw [hrest] at h
          cases answer with
          | error e => cases h
          | ok others =>
              cases h
              rw [List.map_cons, List.map_cons, hc, ih (congrArg Prod.fst hrest)]

/-! ### Looking at what is selected -/

section Looking

variable {registry : Registry} {topic : String} {index : Nat} {cases : List Case}

theorem view?_eq_none (h : registry.selection.index? = none) : registry.view? = none := by
  unfold view?
  split
  · rename_i hselection
    rw [hselection] at h
    cases h
  · rfl

theorem view?_of_getElem? (h : registry.selection = .onCase topic index)
    (hcases : registry.cases? topic = some cases) (hc : cases[index]? = some c) :
    registry.view? = some ⟨topic, index, c, registry.comparisons⟩ := by
  rw [view?, selectedCase?, h]
  simp only [hcases, Option.bind_some, hc, Option.map_some]

/-- The cases of a topic after a case was put in its place. -/
theorem cases?_putCase (registry : Registry) (topic other : String) (cases : List Case)
    (index : Nat) (c : Case) :
    (registry.putCase topic cases index c).cases? other =
      if other = topic then some (cases.set index c) else registry.cases? other :=
  Topics.get?_insert registry.topics topic other (cases.set index c)

theorem cases?_putCase_self (registry : Registry) (topic : String) (cases : List Case)
    (index : Nat) (c : Case) :
    (registry.putCase topic cases index c).cases? topic = some (cases.set index c) :=
  Topics.get?_insert_self registry.topics topic (cases.set index c)

end Looking

/-! ### Selecting a topic -/

/-- How selecting a topic can end. -/
inductive TopicStep (registry : Registry) :
    Option String → Except BoardError Change → Registry → Prop
  /-- What is asked for is selected. -/
  | same : TopicStep registry registry.selection.topic? (.ok .unchanged) registry
  /-- The selected topic is left. -/
  | left :
      registry.selection.topic? ≠ none →
      TopicStep registry none (.ok .changed) (registry.moveTo .idle)
  /-- Another topic is selected. -/
  | chosen {topic : String} :
      registry.selection.topic? ≠ some topic → topic ∈ registry.topics.names →
      TopicStep registry (some topic) (.ok .changed) (registry.moveTo (.onTopic topic))
  /-- There is no such topic. -/
  | unknown {topic : String} :
      registry.selection.topic? ≠ some topic → topic ∉ registry.topics.names →
      TopicStep registry (some topic) (.error (.unknownTopic topic)) registry

theorem topicStep_selectTopic (registry : Registry) (name : Option String) :
    TopicStep registry name (registry.selectTopic name).1 (registry.selectTopic name).2 := by
  by_cases hsame : registry.selection.topic? = name
  · subst hsame
    have hstep : registry.selectTopic registry.selection.topic? = (.ok .unchanged, registry) := by
      cases htopic : registry.selection.topic? with
      | none => exact if_pos (Selection.topic?_eq_none_iff.1 htopic)
      | some topic => exact if_pos htopic
    rw [hstep]
    exact .same
  · cases name with
    | none =>
        have hidle : registry.selection ≠ .idle := mt Selection.topic?_eq_none_iff.2 hsame
        simp only [selectTopic, if_neg hidle]
        exact .left hsame
    | some topic =>
        simp only [selectTopic, if_neg hsame, Topics.contains_iff]
        by_cases hknown : topic ∈ registry.topics.names
        · rw [if_pos hknown]
          exact .chosen hsame hknown
        · rw [if_neg hknown]
          exact .unknown hsame hknown

/-! ### Selecting a case -/

/-- How selecting a case can end: what is asked for, what is given, and the registry and the
session after it. -/
inductive CaseStep (source : Source σ) (registry : Registry) (session : Session σ) :
    Option Nat → Except BoardError Change → Registry → Session σ → Prop
  /-- There is no topic to select a case of. -/
  | noTopic {request} :
      registry.selection.topic? = none →
      CaseStep source registry session request (.error .noTopicSelected) registry session
  /-- What is asked for is selected. -/
  | same {request topic} :
      registry.selection.topic? = some topic → registry.selection.index? = request →
      CaseStep source registry session request (.ok .unchanged) registry session
  /-- The selected case is left. -/
  | left {topic} :
      registry.selection.topic? = some topic → registry.selection.index? ≠ none →
      CaseStep source registry session none (.ok .changed)
        (registry.moveTo (.onTopic topic)) session
  /-- The selected topic is not there. -/
  | unknownTopic {topic index} :
      registry.selection.topic? = some topic → registry.selection.index? ≠ some index →
      registry.cases? topic = none →
      CaseStep source registry session (some index) (.error (.unknownTopic topic))
        (registry.moveTo (.onTopic topic)) session
  /-- The topic has no such case. -/
  | unknownCase {topic index cases} :
      registry.selection.topic? = some topic → registry.selection.index? ≠ some index →
      registry.cases? topic = some cases → cases[index]? = none →
      CaseStep source registry session (some index)
        (.error (.unknownCase topic index cases.length))
        (registry.moveTo (.onTopic topic)) session
  /-- The case cannot be loaded or compared. -/
  | failed {topic index cases c c' e after} :
      registry.selection.topic? = some topic → registry.selection.index? ≠ some index →
      registry.cases? topic = some cases → cases[index]? = some c →
      compareCase registry.loader registry.metrics source c session = (.error e, c', after) →
      CaseStep source registry session (some index) (.error e)
        ((registry.moveTo (.onTopic topic)).putCase topic cases index c') after
  /-- The case is selected. -/
  | chosen {topic index cases c c' comparisons after} :
      registry.selection.topic? = some topic → registry.selection.index? ≠ some index →
      registry.cases? topic = some cases → cases[index]? = some c →
      compareCase registry.loader registry.metrics source c session =
        (.ok comparisons, c', after) →
      CaseStep source registry session (some index) (.ok .changed)
        { (registry.moveTo (.onTopic topic)).putCase topic cases index c' with
          selection := .onCase topic index
          comparisons := comparisons } after

theorem caseStep_selectCase (source : Source σ) (registry : Registry) (request : Option Nat)
    (session : Session σ) :
    CaseStep source registry session request (registry.selectCase source request session).1
      (registry.selectCase source request session).2.1
      (registry.selectCase source request session).2.2 := by
  unfold selectCase
  cases htopic : registry.selection.topic? with
  | none => exact .noTopic htopic
  | some topic =>
      cases request with
      | none =>
          simp only
          split
          · rename_i hsame
            exact .same htopic hsame
          · rename_i hother
            exact .left htopic hother
      | some index =>
          simp only
          split
          · rename_i hsame
            exact .same htopic hsame
          · rename_i hother
            cases hcases : registry.cases? topic with
            | none => exact .unknownTopic htopic hother hcases
            | some cases =>
                simp only
                cases hc : cases[index]? with
                | none => exact .unknownCase htopic hother hcases hc
                | some c =>
                    simp only
                    rcases hcompare : compareCase registry.loader registry.metrics source c
                      session with ⟨outcome, c', after⟩
                    cases outcome with
                    | error e => exact .failed htopic hother hcases hc hcompare
                    | ok comparisons => exact .chosen htopic hother hcases hc hcompare

end Registry

end BenchBoard
