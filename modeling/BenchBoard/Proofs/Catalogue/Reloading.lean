import BenchBoard.Proofs.Catalogue.Selecting
/-!
# BenchBoard.Proofs.Catalogue.Reloading

**Loading without keeping anything.** `Case.reload` asks for the file of every entry, whatever
the entries hold. It is what loading is compared with: as long as a steady source is asked,
loading only what is not there yet (`Case.loadAll`) comes to the same case, or fails with
the same error, as loading everything.

Of a loading that stops midway only the error is compared. What it leaves behind in the
case is faithful, and that is all that the next loading needs.
-/

namespace BenchBoard

variable {σ : Type} {loader : Loader} {source : Source σ}

/-! ### Reloading one entry -/

namespace Entry

/-- The entry with the results that its file has now. -/
def reload (entry : Entry) (loader : Loader) (source : Source σ) (session : Session σ) :
    Except BoardError Entry × Session σ :=
  match loader.load source entry.file session with
  | (.error e, session) => (.error e, session)
  | (.ok results, session) => (.ok { entry with results := some results }, session)

variable {entry plain : Entry} {session : Session σ}

theorem reload_of_load_ok {results : Results}
    (h : (loader.load source entry.file session).1 = .ok results) :
    (entry.reload loader source session).1 = .ok { entry with results := some results } := by
  unfold reload
  rcases hload : loader.load source entry.file session with ⟨answer, after⟩
  rw [hload] at h
  obtain rfl : answer = .ok results := h
  rfl

theorem reload_of_load_error {e : BoardError}
    (h : (loader.load source entry.file session).1 = .error e) :
    (entry.reload loader source session).1 = .error e := by
  unfold reload
  rcases hload : loader.load source entry.file session with ⟨answer, after⟩
  rw [hload] at h
  obtain rfl : answer = .error e := h
  rfl

/-- Entries with the same name, file and mark differ in their results only. -/
theorem with_results_of_forget_eq (h : plain.forget = entry.forget)
    (results : Option Results) :
    ({ plain with results := results } : Entry) = { entry with results := results } := by
  obtain ⟨name, file, marked, kept⟩ := entry
  obtain ⟨name', file', marked', kept'⟩ := plain
  simp only [forget, mk.injEq, and_true] at h
  obtain ⟨rfl, rfl, rfl⟩ := h
  rfl

theorem file_of_forget_eq (h : plain.forget = entry.forget) : plain.file = entry.file := by
  rw [← file_forget plain, h, file_forget]

end Entry

/-! ### Reloading all entries -/

namespace Case

/-- The entries with the results that their files have now, up to the first that fails. -/
def reloadEntries (loader : Loader) (source : Source σ) :
    List Entry → Session σ → Except BoardError (List Entry) × Session σ
  | [], session => (.ok [], session)
  | entry :: rest, session =>
      match entry.reload loader source session with
      | (.error e, session) => (.error e, session)
      | (.ok entry, session) =>
        match reloadEntries loader source rest session with
        | (.error e, session) => (.error e, session)
        | (.ok rest, session) => (.ok (entry :: rest), session)

variable {entry plain : Entry} {entries rest : List Entry} {session after : Session σ}

theorem reloadEntries_cons_of_error {e : BoardError}
    (h : (plain.reload loader source session).1 = .error e) :
    (reloadEntries loader source (plain :: rest) session).1 = .error e := by
  unfold reloadEntries
  rcases hreload : plain.reload loader source session with ⟨answer, after⟩
  rw [hreload] at h
  obtain rfl : answer = .error e := h
  rfl

/-- When the others do not depend on the session, only their outcome counts. -/
theorem reloadEntries_cons_of_ok {outcome : Except BoardError (List Entry)}
    (h : (plain.reload loader source session).1 = .ok entry)
    (hrest : ∀ session, (reloadEntries loader source rest session).1 = outcome) :
    (reloadEntries loader source (plain :: rest) session).1 = outcome.map (entry :: ·) := by
  unfold reloadEntries
  rcases hreload : plain.reload loader source session with ⟨answer, after⟩
  rw [hreload] at h
  obtain rfl : answer = .ok entry := h
  have hafter := hrest after
  rcases hothers : reloadEntries loader source rest after with ⟨others, last⟩
  rw [hothers] at hafter
  obtain rfl : others = outcome := hafter
  simp only [hothers]
  cases others <;> rfl

theorem length_of_reloadEntries {loaded : List Entry}
    (h : reloadEntries loader source entries session = (.ok loaded, after)) :
    loaded.length = entries.length := by
  induction entries generalizing session after loaded with
  | nil =>
      cases h
      rfl
  | cons entry rest ih =>
      unfold reloadEntries at h
      split at h
      · cases h
      · split at h
        · cases h
        · rename_i hothers
          cases h
          rw [List.length_cons, List.length_cons, ih hothers]

/-- Reloading comes to what loading comes to, whatever is there already. -/
theorem Loads.reloadEntries_fst {entries' : List Entry} {outcome : Except BoardError Unit}
    (h : Loads loader source entries session outcome entries' after) (steady : source.Steady)
    (hf : ∀ entry ∈ entries, entry.Faithful loader source) {plains : List Entry}
    (hplain : plains.map Entry.forget = entries.map Entry.forget) (session' : Session σ) :
    (reloadEntries loader source plains session').1 = outcome.map fun _ => entries' := by
  induction h generalizing plains session' with
  | nil session =>
      obtain rfl : plains = [] := List.map_eq_nil_iff.1 hplain
      rfl
  | @kept entry rest session outcome rest' after results hr hrest ih =>
      rw [List.forall_mem_cons] at hf
      obtain ⟨plain, others, rfl, hforget, hothers⟩ := List.map_eq_cons_iff.1 hplain
      -- What the entry holds is what the source says once more.
      have hload := hf.1 results hr session'
      rw [← Entry.file_of_forget_eq hforget] at hload
      have hentry : ({ plain with results := some results } : Entry) = entry := by
        rw [Entry.with_results_of_forget_eq hforget, ← hr]
      have hreload := Entry.reload_of_load_ok hload
      rw [hentry] at hreload
      rw [reloadEntries_cons_of_ok hreload (ih hf.2 hothers)]
      cases outcome <;> rfl
  | @loaded entry rest session between outcome rest' after results hr hload hrest ih =>
      rw [List.forall_mem_cons] at hf
      -- Both ask for the file, each in its own session.
      obtain ⟨plain, others, rfl, hforget, hothers⟩ := List.map_eq_cons_iff.1 hplain
      have hload' : (loader.load source plain.file session').1 = .ok results := by
        rw [Entry.file_of_forget_eq hforget,
          loader.load_fst steady entry.file session' session, hload]
      have hreload := Entry.reload_of_load_ok hload'
      rw [Entry.with_results_of_forget_eq hforget] at hreload
      rw [reloadEntries_cons_of_ok hreload (ih hf.2 hothers)]
      cases outcome <;> rfl
  | @failed entry rest session after e hr hload =>
      -- The entries before this one are there or were loaded, so the reload comes this far too.
      obtain ⟨plain, others, rfl, hforget, hothers⟩ := List.map_eq_cons_iff.1 hplain
      have hload' : (loader.load source plain.file session').1 = .error e := by
        rw [Entry.file_of_forget_eq hforget,
          loader.load_fst steady entry.file session' session, hload]
      exact reloadEntries_cons_of_error (Entry.reload_of_load_error hload')

/-! ### Reloading a case -/

/-- The case with the results that its files have now. -/
def reload (c : Case) (loader : Loader) (source : Source σ) (session : Session σ) :
    Except BoardError Case × Session σ :=
  match h : reloadEntries loader source c.entries session with
  | (.error e, session) => (.error e, session)
  | (.ok entries, session) =>
      (.ok { c with
        entries := entries
        baseline_lt := by
          rw [length_of_reloadEntries h]; exact c.baseline_lt }, session)

variable {c c' d : Case}

theorem reload_of_entries_error {e : BoardError}
    (h : (reloadEntries loader source d.entries session).1 = .error e) :
    (d.reload loader source session).1 = .error e := by
  unfold reload
  split
  · rename_i hentries
    rw [hentries] at h
    cases h
    rfl
  · rename_i hentries
    rw [hentries] at h
    cases h

/-- A case is reloaded when its entries are. -/
theorem reload_of_entries_ok (hn : d.name = c.name) (hd : d.description = c.description)
    (hb : d.baseline = c.baseline)
    (h : (reloadEntries loader source d.entries session).1 = .ok c.entries) :
    (d.reload loader source session).1 = .ok c := by
  obtain ⟨name, description, entries, baseline, hlt⟩ := c
  simp only at hn hd hb h
  subst hn hd hb
  unfold reload
  split
  · rename_i hentries
    rw [hentries] at h
    cases h
  · rename_i hentries
    rw [hentries] at h
    cases h
    rfl

/-- Reloading a case comes to what loading comes to, whatever is loaded already. -/
theorem reload_fst_of_loadAll {outcome : Except BoardError Unit}
    (h : c.loadAll loader source session = (outcome, c', after)) (steady : source.Steady)
    (hf : c.Faithful loader source) (hforget : d.forget = c.forget) (session' : Session σ) :
    (d.reload loader source session').1 = outcome.map fun _ => c' := by
  have hentries := (loads_of_loadAll h).reloadEntries_fst steady hf
    (entries_forget_of_forget_eq hforget) session'
  cases outcome with
  | error e => exact reload_of_entries_error hentries
  | ok done =>
      have hc' := hforget.trans (forget_of_loadAll h).symm
      simp only [forget, mk.injEq] at hc'
      exact reload_of_entries_ok hc'.1 hc'.2.1 hc'.2.2.2 hentries

/-- Loading from a steady source keeps a case faithful. -/
theorem faithful_of_loadAll {outcome : Except BoardError Unit}
    (h : c.loadAll loader source session = (outcome, c', after)) (steady : source.Steady)
    (hf : c.Faithful loader source) : c'.Faithful loader source :=
  (loads_of_loadAll h).faithful steady hf

end Case

/-! ### Reloading and comparing -/

namespace Registry

/-- Reloads a case and compares its entries by every metric that the baseline has. -/
def compareAfresh (loader : Loader) (metrics : List Metric) (source : Source σ) (c : Case)
    (session : Session σ) : Except BoardError (Case × List Comparison) × Session σ :=
  match c.reload loader source session with
  | (.error e, session) => (.error e, session)
  | (.ok c, session) =>
    match compareLoaded metrics c session with
    | (.error e, session) => (.error e, session)
    | (.ok comparisons, session) => (.ok (c, comparisons), session)

variable {metrics : List Metric} {c c' d : Case} {session after : Session σ}

theorem compareAfresh_of_reload_error {e : BoardError}
    (h : (d.reload loader source session).1 = .error e) :
    (compareAfresh loader metrics source d session).1 = .error e := by
  unfold compareAfresh
  rcases hreload : d.reload loader source session with ⟨answer, after⟩
  rw [hreload] at h
  obtain rfl : answer = .error e := h
  rfl

theorem compareAfresh_of_reload_ok (h : (d.reload loader source session).1 = .ok c)
    (between : Session σ) :
    (compareAfresh loader metrics source d session).1 =
      (compareLoaded metrics c between).1.map fun comparisons => (c, comparisons) := by
  unfold compareAfresh
  rcases hreload : d.reload loader source session with ⟨answer, after⟩
  rw [hreload] at h
  obtain rfl : answer = .ok c := h
  rw [compareLoaded_fst metrics c between after]
  simp only
  rcases compareLoaded metrics c after with ⟨_ | comparisons, last⟩ <;> rfl

/-- A case that is compared with a memory of what was loaded gives what it gives without. -/
theorem compareAfresh_fst_of_compareCase {outcome : Except BoardError (List Comparison)}
    (h : compareCase loader metrics source c session = (outcome, c', after))
    (steady : source.Steady) (hf : c.Faithful loader source) (hforget : d.forget = c.forget)
    (session' : Session σ) :
    (compareAfresh loader metrics source d session').1 =
      outcome.map fun comparisons => (c', comparisons) := by
  rcases loadAll_of_compareCase h with ⟨e, hload, rfl⟩ | ⟨between, hload, hcompare⟩
  · have hreload := Case.reload_fst_of_loadAll hload steady hf hforget session'
    exact compareAfresh_of_reload_error hreload
  · have hreload := Case.reload_fst_of_loadAll hload steady hf hforget session'
    rw [compareAfresh_of_reload_ok hreload between, hcompare]

/-- Steady files are compared with the same outcome at any time. -/
theorem compareAfresh_fst (loader : Loader) (metrics : List Metric) (d : Case)
    (steady : source.Steady) (session session' : Session σ) :
    (compareAfresh loader metrics source d session).1 =
      (compareAfresh loader metrics source d session').1 := by
  -- Both are what loading gives when nothing of the case is loaded.
  rcases h : compareCase loader metrics source d.forget session with ⟨outcome, c', after⟩
  have hf := d.faithful_forget loader source
  rw [compareAfresh_fst_of_compareCase h steady hf d.forget_forget.symm session,
    compareAfresh_fst_of_compareCase h steady hf d.forget_forget.symm session']

/-- What is compared is a case of the same name with the same files. -/
theorem forget_of_compareCase {outcome : Except BoardError (List Comparison)}
    (h : compareCase loader metrics source c session = (outcome, c', after)) :
    c'.forget = c.forget := by
  rcases loadAll_of_compareCase h with ⟨e, hload, -⟩ | ⟨between, hload, -⟩
  · exact Case.forget_of_loadAll hload
  · exact Case.forget_of_loadAll hload

/-- Comparing a case keeps it faithful, also when it fails. -/
theorem faithful_of_compareCase {outcome : Except BoardError (List Comparison)}
    (h : compareCase loader metrics source c session = (outcome, c', after))
    (steady : source.Steady) (hf : c.Faithful loader source) : c'.Faithful loader source := by
  rcases loadAll_of_compareCase h with ⟨e, hload, -⟩ | ⟨between, hload, -⟩
  · exact Case.faithful_of_loadAll hload steady hf
  · exact Case.faithful_of_loadAll hload steady hf

end Registry

end BenchBoard
