import BenchBoard.Proofs.Catalogue.Coherence
/-!
# BenchBoard.Proofs.Catalogue.Automaton

**The selection is an automaton.** `Selection.next` says where a request leads that succeeds. What
else a request can do is read off `TopicStep` and `CaseStep`, one clause at a time, and the
clauses are put together in `Answers`.

Design points:

* A request for a case gives the selection up before it is known whether it can be
  answered. What is loaded by then is kept (`Registry.KeptIn`).
* Errors of loading and comparing are told apart from those of the requests by what they
  are about (`BoardError.OfCase`), so the latter have exactly one cause each.
* That the cases of the selected topic are found is no matter of one request. It needs that
  the registry is coherent.
-/

namespace BenchBoard

variable {σ : Type} {source : Source σ}

/-! ### The automaton -/

namespace Selection

variable {selection : Selection} {topic : String} {index : Nat}

/-- What is selected after a request that succeeds. -/
def next (selection : Selection) : Request → Selection
  | .topic none => .idle
  | .topic (some topic) => if selection.topic? = some topic then selection else .onTopic topic
  | .case place =>
    match selection.topic?, place with
    | none, _ => selection
    | some topic, none => .onTopic topic
    | some topic, some index => .onCase topic index

/-- A topic that is asked for again leads nowhere. -/
theorem next_topic_same : selection.next (.topic selection.topic?) = selection := by
  cases h : selection.topic? with
  | none => exact (topic?_eq_none_iff.1 h).symm
  | some topic => exact if_pos h

/-- A case that is asked for again leads nowhere. -/
theorem next_case_same (h : selection.topic? = some topic) :
    selection.next (.case selection.index?) = selection := by
  cases hi : selection.index? with
  | none =>
      rw [eq_onTopic h hi]
      rfl
  | some index =>
      rw [eq_onCase h hi]
      rfl

end Selection

/-! ### Errors of a case -/

/-- One of the files of the case cannot be loaded, or its entries do not fit together. -/
def BoardError.OfCase (c : Case) (e : BoardError) : Prop :=
  (∃ entry ∈ c.entries, e.OfFile entry.file) ∨ ∃ misalignment, e = .misaligned misalignment

theorem BoardError.OfCase.isRefusal {c : Case} {e : BoardError} (h : e.OfCase c) :
    e.isRefusal = false := by
  rcases h with ⟨entry, -, hfile⟩ | ⟨misalignment, rfl⟩
  · exact hfile.isRefusal
  · rfl

/-! ### What is loaded is kept -/

/-- The case is the same but for results, and entries that are loaded have the same results
afterwards. -/
structure Case.KeptIn (c after : Case) : Prop where
  same : after.forget = c.forget
  entries : List.Forall₂ Entry.KeptIn c.entries after.entries

theorem Case.KeptIn.refl (c : Case) : c.KeptIn c :=
  ⟨rfl, List.forall₂_same.2 fun entry _ => .refl entry⟩

theorem Case.KeptIn.trans {c between after : Case} (h : c.KeptIn between)
    (h' : between.KeptIn after) : c.KeptIn after :=
  ⟨h'.same.trans h.same,
    forall₂_trans (R := Entry.KeptIn) (fun _ _ _ => .trans) h.entries h'.entries⟩

theorem Case.keptIn_of_loadAll {loader : Loader} {c c' : Case} {session after : Session σ}
    {outcome : Except BoardError Unit}
    (h : c.loadAll loader source session = (outcome, c', after)) : c.KeptIn c' :=
  ⟨forget_of_loadAll h, (loads_of_loadAll h).keptIn⟩

namespace Registry

/-- The registry has the same topics with the same cases afterwards, and entries that are
loaded have the same results. -/
def KeptIn (registry after : Registry) : Prop :=
  ∀ topic, Option.Rel (List.Forall₂ Case.KeptIn) (registry.cases? topic) (after.cases? topic)

variable {registry after : Registry} {metrics : List Metric} {loader : Loader} {c c' : Case}
  {session session' : Session σ} {outcome : Except BoardError Change}
  {name : Option String} {place : Option Nat} {topic : String} {index : Nat}
  {cases : List Case} {e : BoardError}

theorem keptIn_of_compareCase {comparing : Except BoardError (List Comparison)}
    (h : compareCase loader metrics source c session = (comparing, c', session')) :
    c.KeptIn c' := by
  rcases loadAll_of_compareCase h with ⟨e, hload, -⟩ | ⟨between, hload, -⟩
  · exact Case.keptIn_of_loadAll hload
  · exact Case.keptIn_of_loadAll hload

theorem forall₂_keptIn_set (hc : cases[index]? = some c) (h : c.KeptIn c') :
    List.Forall₂ Case.KeptIn cases (cases.set index c') := by
  rw [List.set_eq_modify]
  refine forall₂_modify Case.KeptIn.refl fun other hother => ?_
  cases hc.symm.trans hother
  exact h

theorem KeptIn.refl (registry : Registry) : registry.KeptIn registry := by
  intro topic
  cases registry.cases? topic with
  | none => exact .none
  | some cases => exact .some (List.forall₂_same.2 fun c _ => .refl c)

theorem KeptIn.trans {between : Registry} (h : registry.KeptIn between)
    (h' : between.KeptIn after) : registry.KeptIn after := by
  intro topic
  have hfirst := h topic
  have hsecond := h' topic
  revert hfirst hsecond
  generalize registry.cases? topic = cases
  generalize between.cases? topic = cases'
  generalize after.cases? topic = cases''
  intro hfirst hsecond
  cases hfirst with
  | none => exact hsecond
  | some hcases =>
      cases hsecond with
      | some hcases' =>
          exact .some (forall₂_trans (R := Case.KeptIn) (fun _ _ _ => .trans) hcases hcases')

/-- Putting back a case of which more is loaded loses nothing. -/
theorem keptIn_putCase (registry : Registry) (selection : Selection)
    (hcases : registry.cases? topic = some cases) (hc : cases[index]? = some c)
    (h : c.KeptIn c') :
    registry.KeptIn ((registry.moveTo selection).putCase topic cases index c') := by
  intro other
  rw [cases?_putCase]
  by_cases heq : other = topic
  · subst heq
    rw [if_pos rfl, hcases]
    exact .some (forall₂_keptIn_set hc h)
  · rw [if_neg heq]
    exact KeptIn.refl registry other

/-! ### Errors -/

theorem error_of_compareEach {entries : List NamedSeries} {baseline : Nat}
    (h : (compareEach entries baseline metrics session).1 = .error e) :
    ∃ misalignment, e = .misaligned misalignment := by
  induction metrics generalizing session with
  | nil => cases h
  | cons metric metrics ih =>
      unfold compareEach at h
      simp only at h
      split at h
      · cases h
        exact ⟨_, rfl⟩
      · split at h
        · rename_i hrest
          cases h
          exact ih (congrArg Prod.fst hrest)
        · cases h

theorem error_of_compareLoaded (h : (compareLoaded metrics c session).1 = .error e) :
    ∃ misalignment, e = .misaligned misalignment := by
  unfold compareLoaded at h
  split at h
  · cases h
  · exact error_of_compareEach h

/-- A case cannot be compared because of one of its files or because its entries do not fit
together. -/
theorem ofCase_of_compareCase
    (h : compareCase loader metrics source c session = (.error e, c', session')) : e.OfCase c := by
  rcases loadAll_of_compareCase h with ⟨e', hload, he⟩ | ⟨between, -, hcompare⟩
  · cases he
    exact .inl ((Case.loads_of_loadAll hload).ofFile rfl)
  · exact .inr (error_of_compareLoaded (congrArg Prod.fst hcompare))

theorem isRefusal_of_compareCase
    (h : compareCase loader metrics source c session = (.error e, c', session')) :
    e.isRefusal = false :=
  (ofCase_of_compareCase h).isRefusal

/-! ### Selecting a topic -/

variable {change : Change}

theorem TopicStep.selection_eq (h : TopicStep registry name (.ok change) after) :
    after.selection = registry.selection.next (.topic name) := by
  cases h with
  | same => exact Selection.next_topic_same.symm
  | left hother => rfl
  | chosen hother hknown => exact (if_neg hother).symm

theorem TopicStep.unchanged_iff (h : TopicStep registry name (.ok change) after) :
    change = .unchanged ↔ after.selection = registry.selection := by
  cases h with
  | same => simp
  | left hother =>
      have hmoved : (registry.moveTo .idle).selection ≠ registry.selection := by
        intro heq
        exact hother (Selection.topic?_eq_none_iff.2 heq.symm)
      simp [hmoved]
  | @chosen topic hother hknown =>
      have hmoved : (registry.moveTo (.onTopic topic)).selection ≠ registry.selection := by
        intro heq
        rw [← heq] at hother
        exact hother rfl
      simp [hmoved]

theorem TopicStep.eq_of_unchanged (h : TopicStep registry name (.ok .unchanged) after) :
    after = registry := by
  cases h with
  | same => rfl

theorem TopicStep.eq_of_error (h : TopicStep registry name (.error e) after) :
    after = registry := by
  cases h with
  | unknown hother hunknown => rfl

/-- The selected topic can be asked for again. -/
theorem TopicStep.eq_unchanged
    (h : TopicStep registry registry.selection.topic? outcome after) : outcome = .ok .unchanged := by
  generalize hname : registry.selection.topic? = name at h
  cases h with
  | same => rfl
  | left hother => exact absurd hname hother
  | chosen hother hknown => exact absurd hname hother
  | unknown hother hunknown => exact absurd hname hother

/-- A topic can always be left. -/
theorem TopicStep.exists_ok (h : TopicStep registry none outcome after) :
    ∃ change, outcome = .ok change := by
  generalize hname : none = name at h
  cases h with
  | same => exact ⟨_, rfl⟩
  | left hother => exact ⟨_, rfl⟩
  | chosen hother hknown => cases hname
  | unknown hother hunknown => cases hname

theorem TopicStep.ne_noTopicSelected (h : TopicStep registry name outcome after) :
    outcome ≠ .error .noTopicSelected := by
  intro he
  subst he
  cases h

/-- A topic cannot be selected exactly when there is no such topic. -/
theorem TopicStep.error_iff (h : TopicStep registry (some topic) outcome after)
    (hcoherent : registry.Coherent) :
    outcome = .error e ↔ e = .unknownTopic topic ∧ topic ∉ registry.topics.names := by
  generalize hname : some topic = name at h
  cases h with
  | same =>
      -- What is selected is known.
      have hknown : topic ∈ registry.topics.names :=
        (registry.topics.mem_names_iff topic).2 (hcoherent.known topic hname.symm)
      simp [hknown]
  | left hother => cases hname
  | chosen hother hknown =>
      cases hname
      simp [hknown]
  | unknown hother hunknown =>
      cases hname
      simp [hunknown, eq_comm]

/-! ### Selecting a case -/

theorem CaseStep.selection_eq
    (h : CaseStep source registry session place (.ok change) after session') :
    after.selection = registry.selection.next (.case place) := by
  cases h with
  | same htopic hsame =>
      rw [← hsame]
      exact (Selection.next_case_same htopic).symm
  | left htopic hother => simp [Selection.next, htopic, moveTo]
  | chosen htopic hother hcases hc hcompare => simp [Selection.next, htopic]

theorem CaseStep.unchanged_iff
    (h : CaseStep source registry session place (.ok change) after session') :
    change = .unchanged ↔ after.selection = registry.selection := by
  cases h with
  | same htopic hsame => simp
  | @left topic htopic hother =>
      have hmoved : (registry.moveTo (.onTopic topic)).selection ≠ registry.selection := by
        intro heq
        rw [← heq] at hother
        exact hother rfl
      simp [hmoved]
  | @chosen topic index _ _ _ _ _ htopic hother hcases hc hcompare =>
      have hmoved : Selection.onCase topic index ≠ registry.selection := by
        intro heq
        rw [← heq] at hother
        exact hother rfl
      simp [hmoved]

theorem CaseStep.eq_of_unchanged
    (h : CaseStep source registry session place (.ok .unchanged) after session') :
    after = registry ∧ session' = session := by
  cases h with
  | same htopic hsame => exact ⟨rfl, rfl⟩

/-- The selected case can be asked for again. -/
theorem CaseStep.eq_unchanged
    (h : CaseStep source registry session registry.selection.index? outcome after session')
    (htopic : registry.selection.topic? ≠ none) : outcome = .ok .unchanged := by
  generalize hplace : registry.selection.index? = place at h
  cases h with
  | noTopic hnone => exact absurd hnone htopic
  | same _ hsame => rfl
  | left _ hother => exact absurd hplace hother
  | unknownTopic _ hother hcases => exact absurd hplace hother
  | unknownCase _ hother hcases hc => exact absurd hplace hother
  | failed _ hother hcases hc hcompare => exact absurd hplace hother
  | chosen _ hother hcases hc hcompare => exact absurd hplace hother

/-- A case can always be left. -/
theorem CaseStep.exists_ok (h : CaseStep source registry session none outcome after session')
    (htopic : registry.selection.topic? ≠ none) : ∃ change, outcome = .ok change := by
  generalize hplace : none = place at h
  cases h with
  | noTopic hnone => exact absurd hnone htopic
  | same _ hsame => exact ⟨_, rfl⟩
  | left _ hother => exact ⟨_, rfl⟩
  | unknownTopic _ hother hcases => cases hplace
  | unknownCase _ hother hcases hc => cases hplace
  | failed _ hother hcases hc hcompare => cases hplace
  | chosen _ hother hcases hc hcompare => cases hplace

/-- A topic is missed exactly when none is selected. -/
theorem CaseStep.noTopicSelected_iff
    (h : CaseStep source registry session place outcome after session') :
    outcome = .error .noTopicSelected ↔ registry.selection.topic? = none := by
  cases h with
  | noTopic htopic => simp [htopic]
  | same htopic hsame => simp [htopic]
  | left htopic hother => simp [htopic]
  | unknownTopic htopic hother hcases => simp [htopic]
  | unknownCase htopic hother hcases hc => simp [htopic]
  | @failed _ _ _ _ _ e _ htopic hother hcases hc hcompare =>
      have hrefusal := isRefusal_of_compareCase hcompare
      have hne : e ≠ .noTopicSelected := by
        intro he
        subst he
        cases hrefusal
      simp [htopic, hne]
  | chosen htopic hother hcases hc hcompare => simp [htopic]

/-- What goes wrong with a case and is no refusal is about a case that is there. -/
theorem CaseStep.blames (h : CaseStep source registry session place (.error e) after session')
    (he : e.isRefusal = false) :
    ∃ topic index cases c, registry.selection.topic? = some topic ∧ place = some index ∧
      registry.cases? topic = some cases ∧ cases[index]? = some c ∧ e.OfCase c := by
  cases h with
  | noTopic htopic => cases he
  | unknownTopic htopic hother hcases => cases he
  | unknownCase htopic hother hcases hc => cases he
  | failed htopic hother hcases hc hcompare =>
      exact ⟨_, _, _, _, htopic, rfl, hcases, hc, ofCase_of_compareCase hcompare⟩

theorem CaseStep.eq_of_noTopicSelected
    (h : CaseStep source registry session place (.error .noTopicSelected) after session') :
    after = registry := by
  cases h with
  | noTopic htopic => rfl
  | failed htopic hother hcases hc hcompare => cases isRefusal_of_compareCase hcompare

/-- Selecting a case loses nothing that is loaded, however it ends. -/
theorem CaseStep.keptIn (h : CaseStep source registry session place outcome after session') :
    registry.KeptIn after := by
  cases h with
  | noTopic htopic => exact .refl registry
  | same htopic hsame => exact .refl registry
  | left htopic hother => exact .refl registry
  | unknownTopic htopic hother hcases => exact .refl registry
  | unknownCase htopic hother hcases hc => exact .refl registry
  | failed htopic hother hcases hc hcompare =>
      exact keptIn_putCase registry _ hcases hc (keptIn_of_compareCase hcompare)
  | chosen htopic hother hcases hc hcompare =>
      exact keptIn_putCase registry _ hcases hc (keptIn_of_compareCase hcompare)

/-- A case that cannot be selected leaves its topic selected and loses nothing that is loaded. -/
theorem CaseStep.falls (h : CaseStep source registry session place (.error e) after session')
    (he : e ≠ .noTopicSelected) :
    ∃ topic, registry.selection.topic? = some topic ∧ after.selection = .onTopic topic ∧
      after.comparisons = [] ∧ registry.KeptIn after := by
  have hkept := h.keptIn
  cases h with
  | noTopic htopic => exact absurd rfl he
  | unknownTopic htopic hother hcases => exact ⟨_, htopic, rfl, rfl, hkept⟩
  | unknownCase htopic hother hcases hc => exact ⟨_, htopic, rfl, rfl, hkept⟩
  | failed htopic hother hcases hc hcompare => exact ⟨_, htopic, rfl, rfl, hkept⟩

theorem Coherent.index_lt (h : registry.Coherent) (htopic : registry.selection.topic? = some topic)
    (hindex : registry.selection.index? = some index)
    (hcases : registry.cases? topic = some cases) : index < cases.length := by
  obtain ⟨others, c, hothers, hc, -⟩ := h.shown topic index (Selection.eq_onCase htopic hindex)
  obtain rfl := Option.some.inj (hothers.symm.trans hcases)
  exact (List.getElem?_eq_some_iff.1 hc).1

/-- Of a selected topic, a case is unknown exactly when there are not so many. -/
theorem CaseStep.unknownCase_iff
    (h : CaseStep source registry session (some index) outcome after session')
    (hcoherent : registry.Coherent) (htopic : registry.selection.topic? = some topic)
    (hcases : registry.cases? topic = some cases) (other : String) (place count : Nat) :
    outcome = .error (.unknownCase other place count) ↔
      cases.length ≤ index ∧ other = topic ∧ place = index ∧ count = cases.length := by
  generalize hplace : some index = request at h
  cases h with
  | noTopic hnone => cases hnone.symm.trans htopic
  | same _ hsame =>
      -- The selected case is there, so its index is not too large.
      have hlt := hcoherent.index_lt htopic (hsame.trans hplace.symm) hcases
      simp [Nat.not_le.2 hlt]
  | left _ hother => cases hplace
  | unknownTopic htopic' hother hnone =>
      obtain rfl := Option.some.inj (htopic'.symm.trans htopic)
      cases hnone.symm.trans hcases
  | unknownCase htopic' hother hcases' hc =>
      cases hplace
      obtain rfl := Option.some.inj (htopic'.symm.trans htopic)
      obtain rfl := Option.some.inj (hcases'.symm.trans hcases)
      simp [List.getElem?_eq_none_iff.1 hc, eq_comm]
  | failed htopic' hother hcases' hc hcompare =>
      cases hplace
      obtain rfl := Option.some.inj (htopic'.symm.trans htopic)
      obtain rfl := Option.some.inj (hcases'.symm.trans hcases)
      have hlt := (List.getElem?_eq_some_iff.1 hc).1
      -- There is such a case, and nothing that goes wrong with its files looks otherwise.
      have hrefusal := isRefusal_of_compareCase hcompare
      constructor
      · intro he
        cases he
        cases hrefusal
      · intro he
        omega
  | chosen htopic' hother hcases' hc hcompare =>
      cases hplace
      obtain rfl := Option.some.inj (htopic'.symm.trans htopic)
      obtain rfl := Option.some.inj (hcases'.symm.trans hcases)
      have hlt := (List.getElem?_eq_some_iff.1 hc).1
      simp [Nat.not_le.2 hlt]

theorem CaseStep.ne_unknownTopic
    (h : CaseStep source registry session place outcome after session')
    (hcoherent : registry.Coherent) (topic : String) :
    outcome ≠ .error (.unknownTopic topic) := by
  intro he
  subst he
  cases h with
  | unknownTopic htopic hother hcases =>
      obtain ⟨cases, hknown⟩ := hcoherent.known _ htopic
      cases hcases.symm.trans hknown
  | failed htopic hother hcases hc hcompare => cases isRefusal_of_compareCase hcompare

/-! ### Every request -/

/-- A request loses nothing that is loaded, and leaves topics, cases and baselines as they are. -/
theorem keptIn_answer (registry : Registry) (source : Source σ) (request : Request)
    (session : Session σ) : registry.KeptIn (registry.answer source request session).2.1 := by
  cases request with
  | topic name =>
      have hstep := topicStep_selectTopic registry name
      revert hstep
      unfold answer
      simp only
      generalize (registry.selectTopic name).1 = outcome
      generalize (registry.selectTopic name).2 = after
      intro hstep
      cases hstep with
      | same => exact .refl registry
      | left hother => exact .refl registry
      | chosen hother hknown => exact .refl registry
      | unknown hother hunknown => exact .refl registry
  | case place => exact (caseStep_selectCase source registry place session).keptIn

/-- So do all requests of a run. -/
theorem keptIn_runFrom (registry : Registry) (source : Source σ) (requests : List Request)
    (session : Session σ) : registry.KeptIn (registry.runFrom source requests session) := by
  unfold runFrom
  induction requests generalizing registry session with
  | nil => exact .refl registry
  | cons request requests ih => exact (keptIn_answer registry source request session).trans (ih _ _)

/-- What the answer to a request says about what the request did. -/
structure Answers (registry : Registry) (session : Session σ) (request : Request)
    (outcome : Except BoardError Change) (after : Registry) (session' : Session σ) : Prop where
  /-- A request that succeeds goes where the automaton goes. -/
  moves : ∀ change, outcome = .ok change →
    after.selection = registry.selection.next request
  unchanged_iff : ∀ change, outcome = .ok change →
    (change = .unchanged ↔ after.selection = registry.selection)
  /-- Where nothing is selected anew, nothing else changes and no source is asked. -/
  unchanged : outcome = .ok .unchanged → after = registry ∧ session' = session
  /-- A topic that cannot be selected, and a case without a topic, change nothing. -/
  refused : ∀ e, outcome = .error e → (∃ name, request = .topic name) ∨ e = .noTopicSelected →
    after = registry
  /-- Any other request for a case that fails leaves the topic, without comparisons, and what
  is loaded. -/
  falls : ∀ place e, request = .case place → outcome = .error e → e ≠ .noTopicSelected →
    ∃ topic, registry.selection.topic? = some topic ∧ after.selection = .onTopic topic ∧
      after.comparisons = [] ∧ registry.KeptIn after
  /-- What is selected can be asked for again. -/
  same_topic : request = .topic registry.selection.topic? → outcome = .ok .unchanged
  same_case : request = .case registry.selection.index? → registry.selection.topic? ≠ none →
    outcome = .ok .unchanged
  /-- What is selected can always be left. -/
  leaves_topic : request = .topic none → ∃ change, outcome = .ok change
  leaves_case : request = .case none → registry.selection.topic? ≠ none →
    ∃ change, outcome = .ok change
  /-- Selecting a topic asks no source. -/
  silent : ∀ name, request = .topic name → session' = session
  /-- A topic is refused exactly when it is unknown. -/
  topic_error_iff : ∀ topic e, request = .topic (some topic) →
    (outcome = .error e ↔ e = .unknownTopic topic ∧ topic ∉ registry.topics.names)
  /-- A topic is missed exactly when a case is asked for and none is selected. -/
  noTopicSelected_iff : outcome = .error .noTopicSelected ↔
    (∃ place, request = .case place) ∧ registry.selection.topic? = none
  /-- A case of the selected topic is unknown exactly when its index is too large. -/
  unknownCase_iff : ∀ topic index, request = .case (some index) →
    registry.selection.topic? = some topic →
    ∃ cases, registry.cases? topic = some cases ∧ ∀ other place count,
      (outcome = .error (.unknownCase other place count) ↔
        cases.length ≤ index ∧ other = topic ∧ place = index ∧ count = cases.length)
  /-- When a case is asked for, the topic is never what is unknown. -/
  ne_unknownTopic : ∀ place topic, request = .case place →
    outcome ≠ .error (.unknownTopic topic)
  /-- What is no refusal of the request is about a case that is there. -/
  blames : ∀ place e, request = .case place → outcome = .error e → e.isRefusal = false →
    ∃ topic index cases c, registry.selection.topic? = some topic ∧ place = some index ∧
      registry.cases? topic = some cases ∧ cases[index]? = some c ∧ e.OfCase c

theorem TopicStep.answers (h : TopicStep registry name outcome after)
    (hcoherent : registry.Coherent) (session : Session σ) :
    Answers registry session (.topic name) outcome after session where
  moves := by
    intro change hok
    subst hok
    exact h.selection_eq
  unchanged_iff := by
    intro change hok
    subst hok
    exact h.unchanged_iff
  unchanged := by
    intro hok
    subst hok
    exact ⟨h.eq_of_unchanged, rfl⟩
  refused := by
    intro e he hkind
    subst he
    exact h.eq_of_error
  falls := by
    intro place e hrequest
    cases hrequest
  same_topic := by
    intro hrequest
    cases hrequest
    exact h.eq_unchanged
  same_case := by
    intro hrequest
    cases hrequest
  leaves_topic := by
    intro hrequest
    cases hrequest
    exact h.exists_ok
  leaves_case := by
    intro hrequest
    cases hrequest
  silent := fun _ _ => rfl
  topic_error_iff := by
    intro topic e hrequest
    cases hrequest
    exact h.error_iff hcoherent
  noTopicSelected_iff := by simp [h.ne_noTopicSelected]
  unknownCase_iff := by
    intro topic index hrequest
    cases hrequest
  ne_unknownTopic := by
    intro place topic hrequest
    cases hrequest
  blames := by
    intro place e hrequest
    cases hrequest

theorem CaseStep.answers (h : CaseStep source registry session place outcome after session')
    (hcoherent : registry.Coherent) :
    Answers registry session (.case place) outcome after session' where
  moves := by
    intro change hok
    subst hok
    exact h.selection_eq
  unchanged_iff := by
    intro change hok
    subst hok
    exact h.unchanged_iff
  unchanged := by
    intro hok
    subst hok
    exact h.eq_of_unchanged
  refused := by
    intro e he hkind
    subst he
    rcases hkind with ⟨name, hrequest⟩ | rfl
    · cases hrequest
    · exact h.eq_of_noTopicSelected
  falls := by
    intro _ e hrequest he hkind
    subst he
    exact h.falls hkind
  same_topic := by
    intro hrequest
    cases hrequest
  same_case := by
    intro hrequest
    cases hrequest
    exact h.eq_unchanged
  leaves_topic := by
    intro hrequest
    cases hrequest
  leaves_case := by
    intro hrequest
    cases hrequest
    exact h.exists_ok
  silent := by
    intro name hrequest
    cases hrequest
  topic_error_iff := by
    intro topic e hrequest
    cases hrequest
  noTopicSelected_iff := by simp [h.noTopicSelected_iff]
  unknownCase_iff := by
    intro topic index hrequest htopic
    cases hrequest
    obtain ⟨cases, hcases⟩ := hcoherent.known topic htopic
    exact ⟨cases, hcases, h.unknownCase_iff hcoherent htopic hcases⟩
  ne_unknownTopic := fun _ topic _ => h.ne_unknownTopic hcoherent topic
  blames := by
    intro _ e hrequest he hrefusal
    cases hrequest
    subst he
    exact h.blames hrefusal

/-- Whatever can be reached, whatever is asked for and whatever the source says, the answer is
one of the automaton and tells what became of the registry. -/
theorem Reachable.answers_request (h : Reachable registry) (source : Source σ)
    (request : Request) (session : Session σ) :
    Answers registry session request (registry.answer source request session).1
      (registry.answer source request session).2.1
      (registry.answer source request session).2.2 := by
  cases request with
  | topic name => exact (topicStep_selectTopic registry name).answers h.coherent session
  | case place => exact (caseStep_selectCase source registry place session).answers h.coherent

open Samples in
/-- A file is lost, and the file that was loaded before it is kept. -/
theorem answers_request_pairFiles :
    let before := pairsRegistry.runFrom pairFiles [.topic (some "list"), .case (some 0)]
      ⟨(), #[]⟩
    let step := before.answer pairFiles (.case (some 1)) ⟨(), #[]⟩
    Reachable before ∧ before.selection = .onCase "list" 0 ∧
      step.1 = .error (.unreadable "lost.csv" "entity not found") ∧
      step.2.1.selection = .onTopic "list" ∧ step.2.1.comparisons = [] ∧
      before.KeptIn step.2.1 := by
  have hbuilt : ofDescription pairs "" pairsRegistry.metrics pairsRegistry.loader =
      .ok pairsRegistry := rfl
  have hreach := (Reachable.built hbuilt).runFrom pairFiles
    [.topic (some "list"), .case (some 0)] ⟨(), #[]⟩
  have hselection : (pairsRegistry.runFrom pairFiles [.topic (some "list"), .case (some 0)]
      ⟨(), #[]⟩).selection = .onCase "list" 0 := by
    decide +kernel
  have herror : ((pairsRegistry.runFrom pairFiles [.topic (some "list"), .case (some 0)]
      ⟨(), #[]⟩).answer pairFiles (.case (some 1)) ⟨(), #[]⟩).1 =
        .error (.unreadable "lost.csv" "entity not found") := by
    decide +kernel
  have hanswers := Reachable.answers_request hreach pairFiles (.case (some 1)) ⟨(), #[]⟩
  obtain ⟨topic, htopic, hfallen, hbare, hkept⟩ :=
    hanswers.falls (some 1) _ rfl herror (by decide)
  rw [hselection] at htopic
  cases htopic
  exact ⟨hreach, hselection, herror, hfallen, hbare, hkept⟩

end Registry

end BenchBoard
