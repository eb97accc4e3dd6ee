import BenchBoard.Catalogue.Case
import BenchBoard.Proofs.Loader.Errors
import BenchBoard.Proofs.Loader.Steady
import Mathlib.Data.List.Forall2
/-!
# BenchBoard.Proofs.Catalogue.Loading

**What loading does to the entries of a case.** The relation `Loads` has one constructor for
each way in which the loading of a list of entries can go on, guards included, and
`loads_loadEntries` says that these are all. What holds of every loading is then read off
the relation by induction, and nothing below unfolds the loop again.

An entry is faithful (`Entry.Faithful`) when it keeps what loading its file gives whenever it
is tried. Loading from a steady source keeps all entries faithful, also when it fails. Whatever
the source does, what is loaded stays as it is (`Loads.keptIn`).
-/

namespace BenchBoard

variable {σ : Type} {loader : Loader} {source : Source σ}

/-! ### One entry -/

namespace Entry

/-- The entry as it is before it is loaded. -/
def forget (entry : Entry) : Entry :=
  { entry with results := none }

@[simp] theorem forget_with_results (entry : Entry) (results : Option Results) :
    ({ entry with results := results } : Entry).forget = entry.forget := rfl

@[simp] theorem file_forget (entry : Entry) : entry.forget.file = entry.file := rfl

/-- The entry keeps what loading its file gives whenever it is tried. -/
def Faithful (loader : Loader) (source : Source σ) (entry : Entry) : Prop :=
  ∀ results, entry.results = some results →
    ∀ session, (loader.load source entry.file session).1 = .ok results

theorem faithful_of_not_loaded {entry : Entry} (h : entry.results = none) :
    entry.Faithful loader source := by
  intro results hresults
  rw [h] at hresults
  cases hresults

/-- If the entry is loaded, it has the same results afterwards. -/
def KeptIn (entry after : Entry) : Prop :=
  ∀ results, entry.results = some results → after.results = some results

theorem KeptIn.refl (entry : Entry) : entry.KeptIn entry := fun _ h => h

theorem KeptIn.trans {entry between after : Entry} (h : entry.KeptIn between)
    (h' : between.KeptIn after) : entry.KeptIn after :=
  fun results hresults => h' results (h results hresults)

theorem keptIn_of_not_loaded {entry : Entry} (h : entry.results = none) (after : Entry) :
    entry.KeptIn after := by
  intro results hresults
  rw [h] at hresults
  cases hresults

/-- The entry is asked for: it is there, or it is loaded, or it cannot be loaded. -/
theorem ensureLoaded_cases (loader : Loader) (source : Source σ) (entry : Entry)
    (session : Session σ) :
    (∃ results, entry.results = some results ∧
      entry.ensureLoaded loader source session = (.ok results, entry, session)) ∨
    (∃ results after, entry.results = none ∧
      loader.load source entry.file session = (.ok results, after) ∧
      entry.ensureLoaded loader source session =
        (.ok results, { entry with results := some results }, after)) ∨
    (∃ e after, entry.results = none ∧
      loader.load source entry.file session = (.error e, after) ∧
      entry.ensureLoaded loader source session = (.error e, entry, after)) := by
  unfold ensureLoaded
  cases hr : entry.results with
  | some results => exact .inl ⟨results, rfl, rfl⟩
  | none =>
      rcases hload : loader.load source entry.file session with ⟨outcome, after⟩
      cases outcome with
      | ok results => exact .inr (.inl ⟨results, after, rfl, rfl, rfl⟩)
      | error e => exact .inr (.inr ⟨e, after, rfl, rfl, rfl⟩)

end Entry

/-! ### All entries of a case -/

namespace Case

/-- How the loading of entries can go on: what it starts from, what it gives, what becomes
of the entries, and the sessions before and after. -/
inductive Loads (loader : Loader) (source : Source σ) :
    List Entry → Session σ → Except BoardError Unit → List Entry → Session σ → Prop
  /-- There is nothing to load. -/
  | nil (session : Session σ) : Loads loader source [] session (.ok ()) [] session
  /-- The first entry is there, and the source is not asked for it. -/
  | kept {entry rest session outcome rest' after results} :
      entry.results = some results →
      Loads loader source rest session outcome rest' after →
      Loads loader source (entry :: rest) session outcome (entry :: rest') after
  /-- The first entry is loaded. -/
  | loaded {entry rest session between outcome rest' after results} :
      entry.results = none →
      loader.load source entry.file session = (.ok results, between) →
      Loads loader source rest between outcome rest' after →
      Loads loader source (entry :: rest) session outcome
        ({ entry with results := some results } :: rest') after
  /-- The first entry cannot be loaded, and the others are left as they are. -/
  | failed {entry rest session after e} :
      entry.results = none →
      loader.load source entry.file session = (.error e, after) →
      Loads loader source (entry :: rest) session (.error e) (entry :: rest) after

theorem loads_loadEntries (loader : Loader) (source : Source σ) (entries : List Entry)
    (session : Session σ) :
    Loads loader source entries session (loadEntries loader source entries session).1
      (loadEntries loader source entries session).2.1
      (loadEntries loader source entries session).2.2 := by
  induction entries generalizing session with
  | nil => exact .nil session
  | cons entry rest ih =>
      rw [loadEntries]
      rcases entry.ensureLoaded_cases loader source session with
        ⟨results, hr, h⟩ | ⟨results, after, hr, hload, h⟩ | ⟨e, after, hr, hload, h⟩
      · rw [h]
        exact .kept hr (ih session)
      · rw [h]
        exact .loaded hr hload (ih after)
      · rw [h]
        exact .failed hr hload

variable {entries entries' : List Entry} {session after : Session σ}
  {outcome : Except BoardError Unit}

/-- Loading changes nothing but results. -/
theorem Loads.map_forget (h : Loads loader source entries session outcome entries' after) :
    entries'.map Entry.forget = entries.map Entry.forget := by
  induction h with
  | nil session => rfl
  | kept hr hrest ih => rw [List.map_cons, List.map_cons, ih]
  | loaded hr hload hrest ih => rw [List.map_cons, List.map_cons, ih, Entry.forget_with_results]
  | failed hr hload => rfl

/-- Loading leaves what is loaded as it is. -/
theorem Loads.keptIn (h : Loads loader source entries session outcome entries' after) :
    List.Forall₂ Entry.KeptIn entries entries' := by
  induction h with
  | nil session => exact .nil
  | kept hr hrest ih => exact .cons (.refl _) ih
  | loaded hr hload hrest ih => exact .cons (Entry.keptIn_of_not_loaded hr _) ih
  | failed hr hload => exact List.forall₂_same.2 fun entry _ => .refl entry

/-- A loading fails for the file of an entry. -/
theorem Loads.ofFile (h : Loads loader source entries session outcome entries' after)
    {e : BoardError} (he : outcome = .error e) : ∃ entry ∈ entries, e.OfFile entry.file := by
  induction h with
  | nil session => cases he
  | kept hr hrest ih =>
      obtain ⟨entry, hmem, hfile⟩ := ih he
      exact ⟨entry, List.mem_cons_of_mem _ hmem, hfile⟩
  | loaded hr hload hrest ih =>
      obtain ⟨entry, hmem, hfile⟩ := ih he
      exact ⟨entry, List.mem_cons_of_mem _ hmem, hfile⟩
  | failed hr hload =>
      cases he
      exact ⟨_, List.mem_cons_self, Loader.ofFile_of_load (congrArg Prod.fst hload)⟩

/-- After a loading that succeeds every entry is loaded. -/
theorem Loads.isLoaded (h : Loads loader source entries session outcome entries' after)
    (hok : outcome = .ok ()) : ∀ entry ∈ entries', entry.isLoaded = true := by
  induction h with
  | nil session => simp
  | kept hr hrest ih =>
      intro entry hmem
      rcases List.mem_cons.1 hmem with rfl | hmem
      · rw [Entry.isLoaded, hr, Option.isSome_some]
      · exact ih hok entry hmem
  | loaded hr hload hrest ih =>
      intro entry hmem
      rcases List.mem_cons.1 hmem with rfl | hmem
      · rfl
      · exact ih hok entry hmem
  | failed hr hload => cases hok

/-- Loading from a steady source keeps entries faithful. -/
theorem Loads.faithful (h : Loads loader source entries session outcome entries' after)
    (steady : source.Steady) (hf : ∀ entry ∈ entries, entry.Faithful loader source) :
    ∀ entry ∈ entries', entry.Faithful loader source := by
  induction h with
  | nil session => exact hf
  | @kept entry rest session outcome rest' after results hr hrest ih =>
      rw [List.forall_mem_cons] at hf ⊢
      exact ⟨hf.1, ih hf.2⟩
  | @loaded entry rest session between outcome rest' after results hr hload hrest ih =>
      rw [List.forall_mem_cons] at hf ⊢
      refine ⟨?_, ih hf.2⟩
      intro results' hresults session'
      cases hresults
      rw [loader.load_fst steady entry.file session' session, hload]
  | failed hr hload => exact hf

end Case

end BenchBoard
