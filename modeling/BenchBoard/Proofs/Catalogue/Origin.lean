import BenchBoard.Proofs.Catalogue.Coherence
import BenchBoard.Proofs.Loader.Retrying
import BenchBoard.Proofs.Series.Provenance
/-!
# BenchBoard.Proofs.Catalogue.Origin

**Where kept results come from.** An entry keeps nothing but what was read of a text that a source
gave for its file, whatever the source answered and however often it was asked. So when it is known
which texts the files may hold (`Source.Gives`), it is known of every loaded entry of a registry
that can be reached (`Registry.ReachableOn.readFrom`).

Where nothing is known of the files, there is still some text that an entry was read from
(`Entry.IsRead`). Everything that is known of the results of a text is known of it, above all that
the columns of its series are as long as its sizes.
-/

namespace BenchBoard

variable {σ : Type} {loader : Loader} {source : Source σ} {limits : Limits}
  {holds : String → String → Prop}

/-! ### One file -/

/-- Of a file the source gives no text but one that the file may hold. -/
def Source.Gives (source : Source σ) (holds : String → String → Prop) : Prop :=
  ∀ path state text, (source.read path state).1 = .ok text → holds path text

theorem Source.gives_any (source : Source σ) : source.Gives fun _ _ => True :=
  fun _ _ _ _ => trivial

/-- A file that is loaded was read from a text that it may hold. -/
theorem Loader.exists_text_of_load (hsource : source.Gives holds) {path : String}
    {session after : Session σ} {results : Results}
    (h : loader.load source path session = (.ok results, after)) :
    ∃ text, holds path text ∧ Results.ofText loader.limits text = .ok results := by
  obtain ⟨outcome, finish, sizeCalls, readCalls, events, hrun, hload⟩ :=
    loader.exists_loadRun source path session
  rw [h] at hload
  obtain rfl : .ok results = outcome := congrArg Prod.fst hload
  cases hrun with
  | @parsed _ text _ between _ _ again' _ _ _ _ htext hresults =>
      obtain ⟨reached, hreached⟩ := exists_state_of_answers (source.read path) between again'
      have hgiven : (source.read path reached).1 = .ok text :=
        hreached.symm.trans htext.answer_eq.symm
      exact ⟨text, hsource path reached text hgiven, hresults⟩

/-! ### Entries -/

/-- What the entry keeps was read from a text that its file may hold. -/
def Entry.ReadFrom (holds : String → String → Prop) (limits : Limits) (entry : Entry) : Prop :=
  ∀ results, entry.results = some results →
    ∃ text, holds entry.file text ∧ Results.ofText limits text = .ok results

/-- What the entry keeps was read from some text. -/
def Entry.IsRead (limits : Limits) (entry : Entry) : Prop :=
  ∀ results, entry.results = some results → ∃ text, Results.ofText limits text = .ok results

theorem Entry.ReadFrom.isRead {entry : Entry} (h : entry.ReadFrom holds limits) :
    entry.IsRead limits := by
  intro results hresults
  obtain ⟨text, -, htext⟩ := h results hresults
  exact ⟨text, htext⟩

theorem Entry.readFrom_of_not_loaded {entry : Entry} (h : entry.results = none) :
    entry.ReadFrom holds limits := by
  intro results hresults
  rw [h] at hresults
  cases hresults

/-- The columns of the series are as long as its sizes. -/
def Series.Aligned (series : Series) : Prop :=
  ∀ column ∈ series.columns, column.values.size = series.sizes.size

/-- The series of an entry that is read is aligned. -/
theorem Entry.IsRead.aligned {entry : Entry} (h : entry.IsRead limits) {name : String}
    {series : Series} (hnamed : entry.named? = some (name, series)) : series.Aligned := by
  unfold named? series? at hnamed
  cases hresults : entry.results with
  | none =>
      rw [hresults] at hnamed
      cases hnamed
  | some results =>
      rw [hresults] at hnamed
      cases hnamed
      obtain ⟨text, htext⟩ := h results hresults
      have hseries := (Results.ofText_eq_ok_iff.1 htext).2
      exact (Series.summarizes_of_aggregate hseries).aligned

/-- Loading keeps to what the files may hold. -/
theorem Case.Loads.readFrom {entries entries' : List Entry} {session after : Session σ}
    {outcome : Except BoardError Unit}
    (h : Loads loader source entries session outcome entries' after) (hsource : source.Gives holds)
    (hread : ∀ entry ∈ entries, entry.ReadFrom holds loader.limits) :
    ∀ entry ∈ entries', entry.ReadFrom holds loader.limits := by
  induction h with
  | nil session => exact hread
  | kept hr hrest ih =>
      rw [List.forall_mem_cons] at hread ⊢
      exact ⟨hread.1, ih hread.2⟩
  | loaded hr hload hrest ih =>
      rw [List.forall_mem_cons] at hread ⊢
      refine ⟨?_, ih hread.2⟩
      intro results hresults
      cases hresults
      exact Loader.exists_text_of_load hsource hload
  | failed hr hload => exact hread

/-- A case without results has none but what was read when it is loaded. -/
theorem Case.isRead_loadAll {c : Case} (hempty : ∀ entry ∈ c.entries, entry.results = none)
    (loader : Loader) (source : Source σ) (session : Session σ) :
    ∀ entry ∈ (c.loadAll loader source session).2.1.entries, entry.IsRead loader.limits := by
  intro entry hentry
  refine Entry.ReadFrom.isRead ((loads_loadEntries loader source c.entries session).readFrom
    source.gives_any (fun other hother => ?_) entry hentry)
  exact Entry.readFrom_of_not_loaded (hempty other hother)

namespace Registry

variable {registry : Registry} {metrics : List Metric}

/-! ### Requests -/

/-- Every entry of the registry keeps only what its file may hold. -/
def ReadFrom (holds : String → String → Prop) (registry : Registry) : Prop :=
  ∀ topic cases, registry.cases? topic = some cases →
    ∀ c ∈ cases, ∀ entry ∈ c.entries, entry.ReadFrom holds registry.loader.limits

/-- Every entry of the registry keeps only what was read. -/
def IsRead (registry : Registry) : Prop :=
  ∀ topic cases, registry.cases? topic = some cases →
    ∀ c ∈ cases, ∀ entry ∈ c.entries, entry.IsRead registry.loader.limits

theorem readFrom_of_compareCase {c c' : Case} {session after : Session σ}
    {outcome : Except BoardError (List Comparison)}
    (h : compareCase loader metrics source c session = (outcome, c', after))
    (hsource : source.Gives holds)
    (hread : ∀ entry ∈ c.entries, entry.ReadFrom holds loader.limits) :
    ∀ entry ∈ c'.entries, entry.ReadFrom holds loader.limits := by
  rcases loadAll_of_compareCase h with ⟨e, hload, -⟩ | ⟨between, hload, -⟩
  · exact (Case.loads_of_loadAll hload).readFrom hsource hread
  · exact (Case.loads_of_loadAll hload).readFrom hsource hread

/-- Putting back a case that is read leaves everything read. -/
theorem ReadFrom.putCase (h : registry.ReadFrom holds) {topic : String} {cases : List Case}
    {index : Nat} {c' : Case} (hcases : registry.cases? topic = some cases)
    (hread : ∀ entry ∈ c'.entries, entry.ReadFrom holds registry.loader.limits) :
    (registry.putCase topic cases index c').ReadFrom holds := by
  intro other others hothers d hd
  rw [cases?_putCase] at hothers
  split at hothers
  · cases hothers
    rcases List.mem_or_eq_of_mem_set hd with hd | rfl
    · exact h topic cases hcases d hd
    · exact hread
  · exact h other others hothers d hd

theorem ReadFrom.selectTopic (h : registry.ReadFrom holds) (request : Option String) :
    (registry.selectTopic request).2.ReadFrom holds := by
  have hstep := topicStep_selectTopic registry request
  revert hstep
  generalize (registry.selectTopic request).1 = outcome
  generalize (registry.selectTopic request).2 = after
  intro hstep
  cases hstep with
  | same => exact h
  | left hother => exact h
  | chosen hother hknown => exact h
  | unknown hother hunknown => exact h

theorem ReadFrom.selectCase (h : registry.ReadFrom holds) (hsource : source.Gives holds)
    (request : Option Nat) (session : Session σ) :
    (registry.selectCase source request session).2.1.ReadFrom holds := by
  have hstep := caseStep_selectCase source registry request session
  revert hstep
  generalize (registry.selectCase source request session).1 = outcome
  generalize (registry.selectCase source request session).2.1 = after
  generalize (registry.selectCase source request session).2.2 = session'
  intro hstep
  cases hstep with
  | noTopic htopic => exact h
  | same htopic hsame => exact h
  | left htopic hother => exact h
  | unknownTopic htopic hother hcases => exact h
  | unknownCase htopic hother hcases hc => exact h
  | @failed topic _ cases c _ _ _ htopic hother hcases hc hcompare =>
      have hmoved : (registry.moveTo (.onTopic topic)).ReadFrom holds := h
      have hread := h topic cases hcases c (List.mem_of_getElem? hc)
      exact hmoved.putCase hcases (readFrom_of_compareCase hcompare hsource hread)
  | @chosen topic _ cases c _ _ _ htopic hother hcases hc hcompare =>
      have hmoved : (registry.moveTo (.onTopic topic)).ReadFrom holds := h
      have hread := h topic cases hcases c (List.mem_of_getElem? hc)
      exact hmoved.putCase hcases (readFrom_of_compareCase hcompare hsource hread)

/-! ### All requests -/

/-- The registries that can be reached with sources that give only what the files may hold. -/
inductive ReachableOn (holds : String → String → Prop) : Registry → Prop
  | built {description : Description} {root : String} {metrics : List Metric} {loader : Loader}
      {registry : Registry} :
      ofDescription description root metrics loader = .ok registry → ReachableOn holds registry
  | asked {σ : Type} {source : Source σ} {registry : Registry} (request : Request)
      (session : Session σ) :
      source.Gives holds → ReachableOn holds registry →
      ReachableOn holds (registry.answer source request session).2.1

theorem ReachableOn.reachable (h : ReachableOn holds registry) : Reachable registry := by
  induction h with
  | built hbuilt => exact .built hbuilt
  | asked request session _ _ ih => exact .asked _ request session ih

/-- Where the files may hold anything, everything can be reached. -/
theorem Reachable.reachableOn (h : Reachable registry) :
    ReachableOn (fun _ _ => True) registry := by
  induction h with
  | built hbuilt => exact .built hbuilt
  | asked source request session _ ih => exact .asked request session source.gives_any ih

theorem ReachableOn.runFrom (h : ReachableOn holds registry) (hsource : source.Gives holds)
    (requests : List Request) (session : Session σ) :
    ReachableOn holds (registry.runFrom source requests session) := by
  unfold Registry.runFrom
  induction requests generalizing registry session with
  | nil => exact h
  | cons request requests ih => exact ih (.asked request session hsource h) _

/-- Every registry that can be reached keeps only what the files may hold. -/
theorem ReachableOn.readFrom (h : ReachableOn holds registry) : registry.ReadFrom holds := by
  induction h with
  | built hbuilt =>
      obtain ⟨topics, htopics, rfl⟩ := ofDescription_eq_ok_iff.1 hbuilt
      intro topic cases hcases c hc entry hentry
      exact Entry.readFrom_of_not_loaded (not_loaded_of_traverse htopics hcases c hc entry hentry)
  | asked request session hsource _ ih =>
      cases request with
      | topic name => exact ih.selectTopic name
      | case index => exact ih.selectCase hsource index session

/-- Every registry that can be reached keeps only what was read. -/
theorem Reachable.isRead (h : Reachable registry) : registry.IsRead := by
  intro topic cases hcases c hc entry hentry
  exact (h.reachableOn.readFrom topic cases hcases c hc entry hentry).isRead

end Registry

end BenchBoard
