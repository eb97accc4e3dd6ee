import BenchBoard.Catalogue.Case
/-!
# BenchBoard.Catalogue.Registry

**The cases of all topics and what is selected.** At most one topic is selected, and within
it at most one case. Selecting a case loads its entries and compares them, metric by
metric; the comparisons are kept as long as the case is selected.

Design points:

* The selection moves between three states: nothing, a topic, a case of a topic. Asking for
  what is selected already changes nothing and asks the source nothing.
* Every move drops the comparisons. So they are there exactly while a case is selected, and
  they belong to that case.
* A case that cannot be selected leaves its topic selected. What was loaded before the
  failure stays loaded and is not asked for again.
* Metrics that the baseline's file lacks are not compared.
-/

namespace BenchBoard

/-- What is selected. -/
inductive Selection
  | idle
  /-- A topic without a case. -/
  | onTopic (topic : String)
  /-- A case by its place in its topic. -/
  | onCase (topic : String) (index : Nat)
  deriving DecidableEq, Repr

namespace Selection

def topic? : Selection → Option String
  | idle => none
  | onTopic topic | onCase topic _ => some topic

/-- The place of the selected case. -/
def index? : Selection → Option Nat
  | onCase _ index => some index
  | _ => none

end Selection

/-- Whether a request moved the selection. -/
inductive Change
  | unchanged
  | changed
  deriving DecidableEq, Repr

/-- The cases of all topics, the selection, and the comparisons of the selected case. -/
structure Registry where
  topics : Topics (List Case)
  selection : Selection
  comparisons : List Comparison
  /-- The metrics that are compared. -/
  metrics : List Metric
  loader : Loader

/-- The selected case and its comparisons. -/
structure View where
  topic : String
  index : Nat
  /-- The case, with every entry loaded. -/
  chosen : Case
  comparisons : List Comparison

namespace Registry

variable {σ : Type}

/-! ### Building -/

/-- The registry of a description whose files lie below a root. The first case that is not
well-formed is the error, in the order of the topics. -/
def ofDescription (description : Description) (root : String) (metrics : List Metric)
    (loader : Loader) : Except BoardError Registry :=
  (description.traverse fun specs => specs.mapM (Case.ofSpec root)).map fun topics =>
    ⟨topics, .idle, [], metrics, loader⟩

/-- The registry of a description that is read from a file. Its files lie below the root of
the configuration, or else where the description lies. -/
def ofFile (config : Config) (source : Source σ) (path : String) (session : Session σ) :
    Except BoardError Registry × Session σ :=
  let loader := Loader.ofConfig config
  match loader.readText source path session with
  | (.error e, session) => (.error e, session)
  | (.ok text, session) =>
    match Description.parse text with
    | none => (.error .notADescription, session)
    | some description =>
        let root := config.root.getD (Path.parent path)
        (ofDescription description root config.metrics loader, session)

/-! ### Looking -/

def cases? (registry : Registry) (topic : String) : Option (List Case) :=
  registry.topics.get? topic

def selectedCase? (registry : Registry) : Option Case :=
  match registry.selection with
  | .onCase topic index => (registry.cases? topic).bind (·[index]?)
  | _ => none

/-- The selected case with its comparisons. -/
def view? (registry : Registry) : Option View :=
  match registry.selection with
  | .onCase topic index =>
      registry.selectedCase?.map fun chosen =>
        ⟨topic, index, chosen, registry.comparisons⟩
  | _ => none

/-! ### Selecting -/

/-- The registry with another selection and no comparisons. -/
def moveTo (registry : Registry) (selection : Selection) : Registry :=
  { registry with selection := selection, comparisons := [] }

/-- Selects a topic, or nothing. -/
def selectTopic (registry : Registry) :
    Option String → Except BoardError Change × Registry
  | none =>
      if registry.selection = .idle then (.ok .unchanged, registry)
      else (.ok .changed, registry.moveTo .idle)
  | some topic =>
      if registry.selection.topic? = some topic then (.ok .unchanged, registry)
      else if registry.topics.contains topic then
        (.ok .changed, registry.moveTo (.onTopic topic))
      else (.error (.unknownTopic topic), registry)

/-- Compares the metrics one after the other, up to the first that cannot be compared. The
entries with other labels are noted for each metric. -/
def compareEach (entries : List NamedSeries) (baseline : Nat) :
    List Metric → Session σ → Except BoardError (List Comparison) × Session σ
  | [], session => (.ok [], session)
  | metric :: metrics, session =>
      let session := session.noteAll
        ((Comparison.relabelled entries baseline).map .relabelled)
      match Comparison.compare entries baseline metric with
      | .error e => (.error (.misaligned e), session)
      | .ok comparison =>
        match compareEach entries baseline metrics session with
        | (.error e, session) => (.error e, session)
        | (.ok comparisons, session) => (.ok (comparison :: comparisons), session)

/-- Loads a case and compares its entries by every metric that the baseline has. -/
def compareCase (loader : Loader) (metrics : List Metric) (source : Source σ) (c : Case)
    (session : Session σ) : Except BoardError (List Comparison) × Case × Session σ :=
  match c.loadAll loader source session with
  | (.error e, c, session) => (.error e, c, session)
  | (.ok (), c, session) =>
    match c.baselineEntry.results with
    | none => (.ok [], c, session)
    | some results =>
        let entries := c.loadedSeries?.getD []
        let tracked := metrics.filter fun m => results.table.header.contains m.field
        let (outcome, session) := compareEach entries c.baseline tracked session
        (outcome, c, session)

/-- The registry with a case put in its place. -/
def putCase (registry : Registry) (topic : String) (cases : List Case) (index : Nat)
    (c : Case) : Registry :=
  { registry with topics := registry.topics.insert topic (cases.set index c) }

/-- Selects a case of the selected topic by its place, or no case. -/
def selectCase (registry : Registry) (source : Source σ) (request : Option Nat)
    (session : Session σ) : Except BoardError Change × Registry × Session σ :=
  match registry.selection.topic? with
  | none => (.error .noTopicSelected, registry, session)
  | some topic =>
    match request with
    | none =>
        if registry.selection.index? = none then (.ok .unchanged, registry, session)
        else (.ok .changed, registry.moveTo (.onTopic topic), session)
    | some index =>
        if registry.selection.index? = some index then (.ok .unchanged, registry, session)
        else
          let fallen := registry.moveTo (.onTopic topic)
          match registry.cases? topic with
          | none => (.error (.unknownTopic topic), fallen, session)
          | some cases =>
            match cases[index]? with
            | none => (.error (.unknownCase topic index cases.length), fallen, session)
            | some c =>
              match compareCase registry.loader registry.metrics source c session with
              | (.error e, c, session) =>
                  (.error e, fallen.putCase topic cases index c, session)
              | (.ok comparisons, c, session) =>
                  (.ok .changed,
                    { fallen.putCase topic cases index c with
                      selection := .onCase topic index
                      comparisons := comparisons },
                    session)

end Registry

end BenchBoard
