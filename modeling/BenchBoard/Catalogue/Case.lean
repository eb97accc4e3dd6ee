import BenchBoard.Catalogue.Description
import BenchBoard.File.Path
import BenchBoard.Loader
/-!
# BenchBoard.Catalogue.Case

**Cases and the loading of their entries.** A case compares several entries, each of which
is a result file under a name. One entry is the baseline: the one that is marked, or the
first if none is.

Design points:

* That the baseline is an entry is part of the type (`baseline_lt`), so looking it up
  cannot fail, and a case has at least one entry.
* An entry keeps its results once they are loaded. Loading a case asks only for entries
  that are not loaded yet, in order, and stops at the first that fails; what was loaded
  before it stays loaded.
* Loading changes results only: names, files, marks, the number of entries and the place of
  the baseline stay as they are.
-/

namespace BenchBoard

/-- A result file that takes part in a case. -/
structure Entry where
  name : String
  file : String
  /-- Is the entry marked as the baseline? -/
  marked : Bool
  /-- The results, once they are loaded. -/
  results : Option Results := none
  deriving DecidableEq, Repr

namespace Entry

variable {σ : Type}

/-- The series, once it is loaded. -/
def series? (entry : Entry) : Option Series :=
  entry.results.map (·.series)

/-- Are the results there? -/
def isLoaded (entry : Entry) : Bool :=
  entry.results.isSome

/-- The name and the series, once it is loaded. -/
def named? (entry : Entry) : Option NamedSeries :=
  entry.series?.map fun series => (entry.name, series)

/-- The results, loaded if they are not there yet, and the entry that keeps them. -/
def ensureLoaded (entry : Entry) (loader : Loader) (source : Source σ)
    (session : Session σ) : Except BoardError Results × Entry × Session σ :=
  match entry.results with
  | some results => (.ok results, entry, session)
  | none =>
    match loader.load source entry.file session with
    | (.ok results, session) => (.ok results, { entry with results := some results }, session)
    | (.error e, session) => (.error e, entry, session)

/-- The entry of a description, with its file below a root. -/
def ofSpec (root : String) (spec : EntrySpec) : Entry where
  name := spec.name
  file := Path.join root spec.file
  marked := spec.baseline

end Entry

/-- Several entries with one baseline. -/
structure Case where
  name : String
  description : String
  entries : List Entry
  /-- The place of the baseline. -/
  baseline : Nat
  baseline_lt : baseline < entries.length
  deriving DecidableEq

namespace Case

variable {σ : Type}

/-- The case of these entries, if there are any and at most one of them is marked. -/
def ofEntries (name description : String) (entries : List Entry) : Except BoardError Case :=
  match h : entries.findIdx? (·.marked) with
  | none =>
      if nonempty : 0 < entries.length then .ok ⟨name, description, entries, 0, nonempty⟩
      else .error (.noEntries name)
  | some place =>
      if 1 < entries.countP (·.marked) then
        .error (.severalBaselines name (entries.countP (·.marked)))
      else
        .ok ⟨name, description, entries, place,
          (List.findIdx?_eq_some_iff_findIdx_eq.1 h).1⟩

/-- The case of a description, with its files below a root. -/
def ofSpec (root : String) (spec : CaseSpec) : Except BoardError Case :=
  ofEntries spec.name spec.desc (spec.entries.map (Entry.ofSpec root))

def baselineEntry (c : Case) : Entry :=
  c.entries.get ⟨c.baseline, c.baseline_lt⟩

/-! ### Loading -/

/-- Loads the entries in order, up to the first that fails. -/
def loadEntries (loader : Loader) (source : Source σ) :
    List Entry → Session σ → Except BoardError Unit × List Entry × Session σ
  | [], session => (.ok (), [], session)
  | entry :: rest, session =>
      match entry.ensureLoaded loader source session with
      | (.error e, entry, session) => (.error e, entry :: rest, session)
      | (.ok _, entry, session) =>
          let (outcome, rest, session) := loadEntries loader source rest session
          (outcome, entry :: rest, session)

/-- Loading keeps the number of entries. -/
@[simp] theorem length_loadEntries (loader : Loader) (source : Source σ)
    (entries : List Entry) (session : Session σ) :
    (loadEntries loader source entries session).2.1.length = entries.length := by
  induction entries generalizing session with
  | nil => rfl
  | cons entry rest ih =>
      unfold loadEntries
      split
      · rfl
      · simp [ih]

/-- Loads every entry that is not loaded yet. -/
def loadAll (c : Case) (loader : Loader) (source : Source σ) (session : Session σ) :
    Except BoardError Unit × Case × Session σ :=
  let loaded := loadEntries loader source c.entries session
  (loaded.1,
    { c with
      entries := loaded.2.1
      baseline_lt := by
        rw [length_loadEntries]; exact c.baseline_lt },
    loaded.2.2)

/-- The names and series of all entries; none while an entry is not loaded. -/
def loadedSeries? (c : Case) : Option (List NamedSeries) :=
  c.entries.mapM Entry.named?

end Case

end BenchBoard
