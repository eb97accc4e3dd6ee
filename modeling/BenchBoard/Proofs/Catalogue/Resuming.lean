import BenchBoard.Proofs.Catalogue.Automaton
import BenchBoard.Samples.Pairs
/-!
# BenchBoard.Proofs.Catalogue.Resuming

**Loading goes on where it stopped.** A case is asked for one of its entries or for all of them,
again and again, and each time the sources may say something else. Whatever is asked for, what
happens is a row of fetches: the file of an entry that is missing is loaded, and the results are
kept if there are any. `Fetches` relates the log of such a row to the entries and sessions before
and after. What one fetch preserves is carried through the log by induction, so it holds of any
calls in any order (`loading_resumes`).

Design points:

* A log has a member for each time that a source is asked on behalf of an entry, also when the
  files of two entries are the same. The sessions before and after leave nothing out.
* Loading all entries fetches those that are missing, in order, up to the first that cannot be
  loaded (`InOrder`). The places of a list with one more entry in front are those of the list,
  shifted.
-/

namespace BenchBoard

variable {σ : Type}

/-! ### Results by their places -/

/-- The results of the entry in a place, if it is loaded. -/
def resultsAt (entries : List Entry) (place : Nat) : Option Results :=
  entries[place]?.bind (·.results)

/-- There is an entry in the place, and it is not loaded. -/
def IsMissing (entries : List Entry) (place : Nat) : Prop :=
  ∃ entry, entries[place]? = some entry ∧ entry.results = none

/-- The places of the entries that are not loaded, in order. -/
def missing (entries : List Entry) : List Nat :=
  entries.findIdxs (!·.isLoaded)

variable {entries between entries' : List Entry} {entry : Entry} {place : Nat} {results : Results}

theorem missing_cons (entry : Entry) (entries : List Entry) :
    missing (entry :: entries) =
      (if entry.isLoaded then [] else [0]) ++ (missing entries).map (· + 1) := by
  have hbehind : entries.findIdxs (!·.isLoaded) 1 = (missing entries).map (· + 1) :=
    List.findIdxs_start
  rw [missing, List.findIdxs_cons, Nat.zero_add, hbehind]
  cases entry.isLoaded <;> rfl

theorem missing_cons_of_loaded (h : entry.results = some results) :
    missing (entry :: entries) = (missing entries).map (· + 1) := by
  rw [missing_cons, Entry.isLoaded, h]
  rfl

theorem missing_cons_of_not_loaded (h : entry.results = none) :
    missing (entry :: entries) = 0 :: (missing entries).map (· + 1) := by
  rw [missing_cons, Entry.isLoaded, h]
  rfl

theorem IsMissing.resultsAt_eq_none (h : IsMissing entries place) :
    resultsAt entries place = none := by
  obtain ⟨entry, hentry, hnone⟩ := h
  rw [resultsAt, hentry, Option.bind_some, hnone]

/-- What is loaded stays as it is, in its place. -/
theorem resultsAt_of_keptIn (h : List.Forall₂ Entry.KeptIn entries entries')
    (hresults : resultsAt entries place = some results) :
    resultsAt entries' place = some results := by
  induction h generalizing place with
  | nil => exact hresults
  | cons hkept _ ih =>
      cases place with
      | zero => exact hkept results hresults
      | succ place => exact ih hresults

/-- What is missing afterwards was missing before. -/
theorem IsMissing.of_keptIn (h : IsMissing entries' place)
    (hkept : List.Forall₂ Entry.KeptIn entries entries') : IsMissing entries place := by
  obtain ⟨entry', hentry', hnone⟩ := h
  have hlt : place < entries.length := by
    rw [hkept.length_eq]
    exact (List.getElem?_eq_some_iff.1 hentry').1
  refine ⟨entries[place], List.getElem?_eq_getElem hlt, ?_⟩
  cases hresults : entries[place].results with
  | none => rfl
  | some results =>
      have hbefore : resultsAt entries place = some results := by
        rw [resultsAt, List.getElem?_eq_getElem hlt, Option.bind_some, hresults]
      have hafter := resultsAt_of_keptIn hkept hbefore
      rw [resultsAt, hentry', Option.bind_some, hnone] at hafter
      cases hafter

/-! ### One fetch -/

/-- A loading of the file of an entry: who is asked, for the entry in which place, and what the
answer is. -/
structure Fetch (σ : Type) where
  loader : Loader
  source : Source σ
  place : Nat
  answer : Except BoardError Results

namespace Fetch

variable {fetch : Fetch σ}

/-- The entries with what the fetch brought. -/
def keep (fetch : Fetch σ) (entries : List Entry) : List Entry :=
  match fetch.answer with
  | .ok results => entries.modify fetch.place fun entry => { entry with results := some results }
  | .error _ => entries

/-- The same fetch where one more entry stands in front. -/
def shift (fetch : Fetch σ) : Fetch σ :=
  { fetch with place := fetch.place + 1 }

theorem keep_shift (fetch : Fetch σ) (entry : Entry) (entries : List Entry) :
    fetch.shift.keep (entry :: entries) = entry :: fetch.keep entries := by
  unfold keep shift
  cases fetch.answer with
  | ok results => exact List.modify_succ_cons _ _ _ _
  | error e => rfl

theorem map_forget_keep (fetch : Fetch σ) (entries : List Entry) :
    (fetch.keep entries).map Entry.forget = entries.map Entry.forget := by
  unfold keep
  cases fetch.answer with
  | error e => rfl
  | ok results =>
      refine List.ext_getElem? fun i => ?_
      simp only [List.getElem?_map, List.getElem?_modify]
      split <;> simp [Function.comp_def]

/-- A fetch for an entry that is missing leaves all others as they are. -/
theorem keptIn_keep (h : IsMissing entries fetch.place) :
    List.Forall₂ Entry.KeptIn entries (fetch.keep entries) := by
  unfold keep
  cases fetch.answer with
  | error e => exact List.forall₂_same.2 fun entry _ => .refl entry
  | ok results =>
      refine forall₂_modify Entry.KeptIn.refl fun entry hentry => ?_
      obtain ⟨entry', hentry', hnone⟩ := h
      cases hentry.symm.trans hentry'
      exact Entry.keptIn_of_not_loaded hnone _

/-- What is loaded after a fetch was loaded before it, or is what the fetch brought. -/
theorem resultsAt_keep (h : IsMissing entries fetch.place) (place : Nat) (results : Results) :
    resultsAt (fetch.keep entries) place = some results ↔
      resultsAt entries place = some results ∨
        fetch.place = place ∧ fetch.answer = .ok results := by
  unfold keep
  cases fetch.answer with
  | error e => simp
  | ok brought =>
      unfold resultsAt
      rw [List.getElem?_modify]
      by_cases hplace : fetch.place = place
      · subst hplace
        obtain ⟨entry, hentry, hnone⟩ := h
        simp [hentry, hnone]
      · simp [hplace]

end Fetch

/-! ### A row of fetches -/

/-- From some entries and a session, the fetches of the log lead to others, and nothing else
happens. Only what is missing is fetched. -/
inductive Fetches :
    List Entry → Session σ → List (Fetch σ) → List Entry → Session σ → Prop
  | nil (entries : List Entry) (session : Session σ) : Fetches entries session [] entries session
  | cons (fetch : Fetch σ) {entries entries' : List Entry} {session between after : Session σ}
      {log : List (Fetch σ)} {entry : Entry} :
      entries[fetch.place]? = some entry → entry.results = none →
      fetch.loader.load fetch.source entry.file session = (fetch.answer, between) →
      Fetches (fetch.keep entries) between log entries' after →
      Fetches entries session (fetch :: log) entries' after

namespace Fetches

variable {session after after' : Session σ} {log log' : List (Fetch σ)}

theorem append (h : Fetches entries session log between after)
    (h' : Fetches between after log' entries' after') :
    Fetches entries session (log ++ log') entries' after' := by
  induction h with
  | nil => exact h'
  | cons fetch hentry hnone hload _ ih => exact .cons fetch hentry hnone hload (ih h')

theorem shift (h : Fetches entries session log entries' after) (entry : Entry) :
    Fetches (entry :: entries) session (log.map Fetch.shift) (entry :: entries') after := by
  induction h with
  | nil => exact .nil _ _
  | cons fetch hentry hnone hload _ ih =>
      refine .cons fetch.shift hentry hnone hload ?_
      rw [fetch.keep_shift]
      exact ih

theorem map_forget (h : Fetches entries session log entries' after) :
    entries'.map Entry.forget = entries.map Entry.forget := by
  induction h with
  | nil => rfl
  | cons fetch _ _ _ _ ih => rw [ih, fetch.map_forget_keep]

theorem keptIn (h : Fetches entries session log entries' after) :
    List.Forall₂ Entry.KeptIn entries entries' := by
  induction h with
  | nil => exact List.forall₂_same.2 fun entry _ => .refl entry
  | cons _ hentry hnone _ _ ih =>
      exact forall₂_trans (R := Entry.KeptIn) (fun _ _ _ => .trans)
        (Fetch.keptIn_keep ⟨_, hentry, hnone⟩) ih

/-- Nothing that is loaded is fetched. -/
theorem isMissing (h : Fetches entries session log entries' after) :
    ∀ fetch ∈ log, IsMissing entries fetch.place := by
  induction h with
  | nil => simp
  | cons _ hentry hnone _ _ ih =>
      refine List.forall_mem_cons.2 ⟨⟨_, hentry, hnone⟩, fun fetch hfetch => ?_⟩
      exact (ih fetch hfetch).of_keptIn (Fetch.keptIn_keep ⟨_, hentry, hnone⟩)

/-- What was fetched once is not fetched again. -/
theorem pairwise (h : Fetches entries session log entries' after) :
    log.Pairwise fun fetch later => later.place = fetch.place → ∃ e, fetch.answer = .error e := by
  induction h with
  | nil => exact .nil
  | cons fetch hentry hnone _ hrest ih =>
      refine List.pairwise_cons.2 ⟨fun later hlater hplace => ?_, ih⟩
      cases hanswer : fetch.answer with
      | error e => exact ⟨e, rfl⟩
      | ok results =>
          have hthere := (Fetch.resultsAt_keep ⟨_, hentry, hnone⟩ fetch.place results).2
            (.inr ⟨rfl, hanswer⟩)
          rw [← hplace, (hrest.isMissing later hlater).resultsAt_eq_none] at hthere
          cases hthere

/-- What is loaded in the end was loaded before, or is what a fetch brought. -/
theorem resultsAt_iff (h : Fetches entries session log entries' after) (place : Nat)
    (results : Results) :
    resultsAt entries' place = some results ↔ resultsAt entries place = some results ∨
      ∃ fetch ∈ log, fetch.place = place ∧ fetch.answer = .ok results := by
  induction h with
  | nil => simp
  | cons _ hentry hnone _ _ ih =>
      rw [ih, Fetch.resultsAt_keep ⟨_, hentry, hnone⟩, List.exists_mem_cons_iff, or_assoc]

end Fetches

/-! ### Loading all entries -/

/-- How the loading of all entries goes, by its log. -/
inductive InOrder (loader : Loader) (source : Source σ) (entries : List Entry) :
    List (Fetch σ) → Except BoardError Unit → List Entry → Prop
  /-- What is missing is fetched in order. -/
  | through {log : List (Fetch σ)} {entries' : List Entry} :
      (∀ fetch ∈ log, fetch.loader = loader ∧ fetch.source = source ∧
        ∃ results, fetch.answer = .ok results) →
      log.map (·.place) = missing entries → (∀ entry ∈ entries', entry.isLoaded = true) →
      InOrder loader source entries log (.ok ()) entries'
  /-- An entry cannot be loaded. All before it are loaded, and nothing is done to it and to those
  behind it. -/
  | stopped {done : List (Fetch σ)} {place : Nat} {behind : List Nat} {e : BoardError}
      {entries' : List Entry} :
      (∀ fetch ∈ done, fetch.loader = loader ∧ fetch.source = source ∧
        ∃ results, fetch.answer = .ok results) →
      missing entries = done.map (·.place) ++ place :: behind →
      (∀ entry ∈ entries'.take place, entry.isLoaded = true) →
      entries'.drop place = entries.drop place →
      InOrder loader source entries (done ++ [⟨loader, source, place, .error e⟩]) (.error e)
        entries'

namespace InOrder

variable {loader : Loader} {source : Source σ} {log : List (Fetch σ)}
  {outcome : Except BoardError Unit}

theorem map_place_shift (log : List (Fetch σ)) :
    (log.map Fetch.shift).map (·.place) = (log.map (·.place)).map (· + 1) := by
  rw [List.map_map, List.map_map]
  rfl

/-- An entry that is there stands in front, and it is not fetched. -/
theorem kept (h : InOrder loader source entries log outcome entries')
    (hresults : entry.results = some results) :
    InOrder loader source (entry :: entries) (log.map Fetch.shift) outcome (entry :: entries') := by
  have hloaded : entry.isLoaded = true := by rw [Entry.isLoaded, hresults, Option.isSome_some]
  cases h with
  | through hlog hplaces hall =>
      refine .through (List.forall_mem_map.2 hlog) ?_ (List.forall_mem_cons.2 ⟨hloaded, hall⟩)
      rw [map_place_shift, hplaces, missing_cons_of_loaded hresults]
  | @stopped done place behind _ _ hdone hplaces hbefore hbehind =>
      have hmissing : missing (entry :: entries) =
          (done.map Fetch.shift).map (·.place) ++ (place + 1) :: behind.map (· + 1) := by
        rw [map_place_shift, missing_cons_of_loaded hresults, hplaces, List.map_append,
          List.map_cons]
      rw [List.map_append]
      exact .stopped (List.forall_mem_map.2 hdone) hmissing
        (List.forall_mem_cons.2 ⟨hloaded, hbefore⟩) hbehind

/-- An entry that is missing stands in front, and it is fetched first. -/
theorem loaded (h : InOrder loader source entries log outcome entries')
    (hnone : entry.results = none) (results : Results) :
    InOrder loader source (entry :: entries)
      (⟨loader, source, 0, .ok results⟩ :: log.map Fetch.shift) outcome
      ({ entry with results := some results } :: entries') := by
  cases h with
  | through hlog hplaces hall =>
      refine .through
        (List.forall_mem_cons.2 ⟨⟨rfl, rfl, results, rfl⟩, List.forall_mem_map.2 hlog⟩) ?_
        (List.forall_mem_cons.2 ⟨rfl, hall⟩)
      rw [List.map_cons, map_place_shift, hplaces, missing_cons_of_not_loaded hnone]
  | @stopped done place behind _ _ hdone hplaces hbefore hbehind =>
      have hmissing : missing (entry :: entries) =
          0 :: (done.map Fetch.shift).map (·.place) ++ (place + 1) :: behind.map (· + 1) := by
        rw [map_place_shift, missing_cons_of_not_loaded hnone, hplaces, List.map_append,
          List.map_cons, List.cons_append]
      rw [List.map_append, ← List.cons_append]
      exact .stopped
        (List.forall_mem_cons.2 ⟨⟨rfl, rfl, results, rfl⟩, List.forall_mem_map.2 hdone⟩) hmissing
        (List.forall_mem_cons.2 ⟨rfl, hbefore⟩) hbehind

/-- The first entry cannot be loaded. -/
theorem failed (hnone : entry.results = none) (e : BoardError) :
    InOrder loader source (entry :: entries) [⟨loader, source, 0, .error e⟩] (.error e)
      (entry :: entries) := by
  have hdone : ∀ fetch ∈ ([] : List (Fetch σ)), fetch.loader = loader ∧ fetch.source = source ∧
      ∃ results, fetch.answer = .ok results := by
    simp
  exact .stopped hdone (missing_cons_of_not_loaded hnone) (by simp) rfl

/-- All entries are loaded in the end unless one cannot be. -/
theorem ok_iff (h : InOrder loader source entries log outcome entries') :
    outcome = .ok () ↔ ∀ entry ∈ entries', entry.isLoaded = true := by
  cases h with
  | through hlog hplaces hall => simpa using hall
  | @stopped done place _ _ _ hdone hplaces hbefore hbehind =>
      -- The entry that could not be loaded is still missing.
      have hplace : place ∈ missing entries := by simp [hplaces]
      obtain ⟨hlt, hmissing⟩ := List.mem_findIdxs_iff_exists_getElem_pos.1 hplace
      have hthere : entries[place] ∈ entries' := by
        refine List.mem_of_mem_drop (i := place) ?_
        rw [hbehind, List.drop_eq_getElem_cons hlt]
        exact List.mem_cons_self
      constructor
      · intro herror
        cases herror
      · intro hall
        simp [hall _ hthere] at hmissing

end InOrder

namespace Case

variable {loader : Loader} {source : Source σ} {session after : Session σ}
  {outcome : Except BoardError Unit}

/-- Loading all entries is a row of fetches, in order. -/
theorem Loads.exists_fetches (h : Loads loader source entries session outcome entries' after) :
    ∃ log, Fetches entries session log entries' after ∧
      InOrder loader source entries log outcome entries' := by
  induction h with
  | nil session => exact ⟨[], .nil [] session, .through (by simp) rfl (by simp)⟩
  | @kept entry _ _ _ _ _ _ hresults _ ih =>
      obtain ⟨log, hfetches, horder⟩ := ih
      exact ⟨_, hfetches.shift entry, horder.kept hresults⟩
  | @loaded entry _ _ _ _ _ _ results hnone hload _ ih =>
      obtain ⟨log, hfetches, horder⟩ := ih
      exact ⟨_, .cons ⟨loader, source, 0, .ok results⟩ rfl hnone hload (hfetches.shift _),
        horder.loaded hnone results⟩
  | @failed _ _ _ _ e hnone hload =>
      exact ⟨_, .cons ⟨loader, source, 0, .error e⟩ rfl hnone hload (.nil _ _), .failed hnone e⟩

/-! ### Calls -/

end Case

/-- What a case can be asked for: the results of the entry in a place, or those of all. -/
inductive Wanted
  | entry (place : Nat)
  | all
  deriving DecidableEq, Repr

/-- A request for results, and who answers it. -/
structure LoadCall (σ : Type) where
  loader : Loader
  source : Source σ
  wanted : Wanted

namespace Case

/-- The case with another entry in a place. -/
def putEntry (c : Case) (place : Nat) (entry : Entry) : Case :=
  { c with
    entries := c.entries.set place entry
    baseline_lt := by rw [List.length_set]; exact c.baseline_lt }

/-- The answer to a call. Where there is no entry, there is nothing to load. -/
def answerLoad (c : Case) (call : LoadCall σ) (session : Session σ) :
    Except BoardError Unit × Case × Session σ :=
  match call.wanted with
  | .all => c.loadAll call.loader call.source session
  | .entry place =>
    match c.entries[place]? with
    | none => (.ok (), c, session)
    | some entry =>
        let (outcome, entry, session) := entry.ensureLoaded call.loader call.source session
        (outcome.map fun _ => (), c.putEntry place entry, session)

/-- The case and the session after all calls. -/
def afterLoads : List (LoadCall σ) → Case → Session σ → Case × Session σ
  | [], c, session => (c, session)
  | call :: calls, c, session =>
      let (_, c, session) := c.answerLoad call session
      afterLoads calls c session

/-- A row of fetches leads from a case to another, and nothing else happens to it. -/
structure Fetched (c : Case) (session : Session σ) (log : List (Fetch σ)) (c' : Case)
    (after : Session σ) : Prop where
  name : c'.name = c.name
  description : c'.description = c.description
  baseline : c'.baseline = c.baseline
  entries : Fetches c.entries session log c'.entries after

variable {c c' c'' : Case} {log log' : List (Fetch σ)} {after' : Session σ}

theorem Fetched.refl (c : Case) (session : Session σ) : Fetched c session [] c session :=
  ⟨rfl, rfl, rfl, .nil _ _⟩

theorem Fetched.append (h : Fetched c session log c' after)
    (h' : Fetched c' after log' c'' after') : Fetched c session (log ++ log') c'' after' :=
  ⟨h'.name.trans h.name, h'.description.trans h.description, h'.baseline.trans h.baseline,
    h.entries.append h'.entries⟩

theorem Fetched.keptIn (h : Fetched c session log c' after) : c.KeptIn c' :=
  ⟨forget_eq_of_entries h.name h.description h.baseline h.entries.map_forget, h.entries.keptIn⟩

theorem exists_fetched_loadAll (c : Case) (loader : Loader) (source : Source σ)
    (session : Session σ) :
    ∃ log, Fetched c session log (c.loadAll loader source session).2.1
        (c.loadAll loader source session).2.2 ∧
      InOrder loader source c.entries log (c.loadAll loader source session).1
        (c.loadAll loader source session).2.1.entries := by
  obtain ⟨log, hfetches, horder⟩ :=
    (loads_loadEntries loader source c.entries session).exists_fetches
  exact ⟨log, ⟨rfl, rfl, rfl, hfetches⟩, horder⟩

/-- The answer to a call for one entry is a fetch or none. -/
theorem exists_fetched_ensureLoaded (hentry : c.entries[place]? = some entry) (loader : Loader)
    (source : Source σ) (session : Session σ) :
    ∃ log, Fetched c session log
      (c.putEntry place (entry.ensureLoaded loader source session).2.1)
      (entry.ensureLoaded loader source session).2.2 := by
  have hsame : c.entries.set place entry = c.entries := by
    obtain ⟨hlt, rfl⟩ := List.getElem?_eq_some_iff.1 hentry
    exact List.set_getElem_self hlt
  rcases entry.ensureLoaded_cases loader source session with
    ⟨results, -, h⟩ | ⟨results, after, hnone, hload, h⟩ | ⟨e, after, hnone, hload, h⟩
  · rw [h]
    refine ⟨[], rfl, rfl, rfl, ?_⟩
    show Fetches c.entries session [] (c.entries.set place entry) session
    rw [hsame]
    exact .nil _ _
  · rw [h]
    refine ⟨[⟨loader, source, place, .ok results⟩], rfl, rfl, rfl, ?_⟩
    have hkeep : Fetch.keep ⟨loader, source, place, .ok results⟩ c.entries =
        c.entries.set place { entry with results := some results } := by
      have : Inhabited Entry := ⟨entry⟩
      unfold Fetch.keep
      simp only
      rw [List.modify_eq_set, hentry, Option.getD_some]
    refine .cons _ hentry hnone hload ?_
    rw [hkeep]
    exact .nil _ _
  · rw [h]
    refine ⟨[⟨loader, source, place, .error e⟩], rfl, rfl, rfl, ?_⟩
    show Fetches c.entries session _ (c.entries.set place entry) after
    rw [hsame]
    exact .cons _ hentry hnone hload (.nil _ _)

theorem exists_fetched_answerLoad (c : Case) (call : LoadCall σ) (session : Session σ) :
    ∃ log, Fetched c session log (c.answerLoad call session).2.1
      (c.answerLoad call session).2.2 := by
  unfold answerLoad
  split
  · obtain ⟨log, hfetched, -⟩ := c.exists_fetched_loadAll call.loader call.source session
    exact ⟨log, hfetched⟩
  · split
    · exact ⟨[], .refl c session⟩
    · rename_i hentry
      exact exists_fetched_ensureLoaded hentry call.loader call.source session

theorem exists_fetched_afterLoads (calls : List (LoadCall σ)) (c : Case) (session : Session σ) :
    ∃ log, Fetched c session log (c.afterLoads calls session).1 (c.afterLoads calls session).2 := by
  induction calls generalizing c session with
  | nil => exact ⟨[], .refl c session⟩
  | cons call calls ih =>
      obtain ⟨log, hfirst⟩ := c.exists_fetched_answerLoad call session
      obtain ⟨log', hrest⟩ := ih (c.answerLoad call session).2.1 (c.answerLoad call session).2.2
      exact ⟨log ++ log', hfirst.append hrest⟩

/-! ### Resuming -/

theorem named?_eq_some_iff (entry : Entry) (named : NamedSeries) :
    entry.named? = some named ↔ named.1 = entry.name ∧ entry.series? = some named.2 := by
  unfold Entry.named?
  cases entry.series? with
  | none => simp
  | some series => simp [Prod.ext_iff, eq_comm]

/-- The series of a case are there when each of its entries has one. -/
theorem loadedSeries?_eq_some_iff (c : Case) (all : List NamedSeries) :
    c.loadedSeries? = some all ↔ List.Forall₂ (fun entry named =>
      named.1 = entry.name ∧ entry.series? = some named.2) c.entries all := by
  simp only [← named?_eq_some_iff]
  exact mapM_eq_some_iff

/-- They are there when all entries are loaded. -/
theorem isLoaded_iff_exists_loadedSeries (c : Case) :
    c.IsLoaded ↔ ∃ all, c.loadedSeries? = some all := by
  constructor
  · intro h
    obtain ⟨all, hall, -⟩ := h.exists_loadedSeries
    exact ⟨all, hall⟩
  · rintro ⟨all, hall⟩ entry hentry
    obtain ⟨named, -, -, hseries⟩ :=
      exists_of_forall₂ (c.loadedSeries?_eq_some_iff all |>.1 hall).flip entry hentry
    obtain ⟨results, hresults, -⟩ := Option.map_eq_some_iff.1 hseries
    rw [Entry.isLoaded, hresults, Option.isSome_some]

/-- **Loading is monotone and goes on where it stopped.** Whatever a case is asked for and whatever
the sources say, what happens to it is a row of fetches. Only what is missing is fetched, and not
again once it is there; what is there stays as it is, and so do names, files, marks and the
baseline. Loading all entries fetches what is missing in order, up to the first that cannot be
loaded. It succeeds exactly when all entries are loaded afterwards, which is when the series of the
case are there, one for each entry in order and under its name. -/
theorem loading_resumes (c : Case) :
    (∀ (calls : List (LoadCall σ)) (session : Session σ), ∃ log : List (Fetch σ),
      Fetched c session log (c.afterLoads calls session).1 (c.afterLoads calls session).2 ∧
      c.KeptIn (c.afterLoads calls session).1 ∧
      (∀ fetch ∈ log, IsMissing c.entries fetch.place) ∧
      (log.Pairwise fun fetch later =>
        later.place = fetch.place → ∃ e, fetch.answer = .error e) ∧
      ∀ place results, resultsAt (c.afterLoads calls session).1.entries place = some results ↔
        resultsAt c.entries place = some results ∨
          ∃ fetch ∈ log, fetch.place = place ∧ fetch.answer = .ok results) ∧
    (∀ (loader : Loader) (source : Source σ) (session : Session σ),
      (∃ log, Fetched c session log (c.loadAll loader source session).2.1
          (c.loadAll loader source session).2.2 ∧
        InOrder loader source c.entries log (c.loadAll loader source session).1
          (c.loadAll loader source session).2.1.entries) ∧
      ((c.loadAll loader source session).1 = .ok () ↔
        (c.loadAll loader source session).2.1.IsLoaded)) ∧
    (c.IsLoaded ↔ ∃ all, c.loadedSeries? = some all) ∧
    ∀ all, c.loadedSeries? = some all ↔ List.Forall₂ (fun entry named =>
      named.1 = entry.name ∧ entry.series? = some named.2) c.entries all := by
  refine ⟨?_, ?_, c.isLoaded_iff_exists_loadedSeries, c.loadedSeries?_eq_some_iff⟩
  · intro calls session
    obtain ⟨log, h⟩ := c.exists_fetched_afterLoads calls session
    exact ⟨log, h, h.keptIn, h.entries.isMissing, h.entries.pairwise, h.entries.resultsAt_iff⟩
  · intro loader source session
    obtain ⟨log, h, horder⟩ := c.exists_fetched_loadAll loader source session
    exact ⟨⟨log, h, horder⟩, horder.ok_iff⟩

open Samples in
/-- The first question is not answered. The next call asks for both files, and then nothing is left
to ask for. -/
example :
    let call : LoadCall Bool := ⟨⟨.noRetry, .standard, 20⟩, latePairFiles, .all⟩
    (pushBack.afterLoads [call, call, call] ⟨false, #[]⟩).2.journal =
      #[.sizeAsked "nodes.csv", .sizeAsked "nodes.csv", .textAsked "nodes.csv",
        .sizeAsked "flat.csv", .textAsked "flat.csv"] := by
  decide +kernel

end Case

end BenchBoard
