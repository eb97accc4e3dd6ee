import BenchBoard.Proofs.Catalogue.Reloading
import BenchBoard.Proofs.Catalogue.Runs
/-!
# BenchBoard.Proofs.Catalogue.Uncached

**A registry without a cache.** `Uncached` answers the same requests as a registry but keeps no
results: its catalogue is never written to, and selecting a case asks for the files of all
its entries again. What it shows is stored when a case is selected.

Asked of a steady source, it shows at any time what its selection would show if it were
made now (`Uncached.Shows`). So what is shown depends on the selection and on nothing else
that was asked before.
-/

namespace BenchBoard

variable {σ : Type} {source : Source σ}

/-! ### The machine without a cache -/

/-- The cases as they are described, the selection, and what is shown of it. -/
structure Uncached where
  /-- The cases; no entry is ever loaded here. -/
  catalogue : Topics (List Case)
  selection : Selection
  shown : Option View
  metrics : List Metric
  loader : Loader

namespace Uncached

/-- The machine of a description whose files lie below a root. -/
def ofDescription (description : Description) (root : String) (metrics : List Metric)
    (loader : Loader) : Except BoardError Uncached :=
  (description.traverse fun specs => specs.mapM (Case.ofSpec root)).map fun catalogue =>
    ⟨catalogue, .idle, none, metrics, loader⟩

/-- The comparisons that are shown. -/
def comparisons (uncached : Uncached) : List Comparison :=
  (uncached.shown.map (·.comparisons)).getD []

/-- Another selection, of which nothing is shown. -/
def moveTo (uncached : Uncached) (selection : Selection) : Uncached :=
  { uncached with selection := selection, shown := none }

/-- Selects a topic, or nothing. -/
def selectTopic (uncached : Uncached) : Option String → Except BoardError Change × Uncached
  | none =>
      if uncached.selection = .idle then (.ok .unchanged, uncached)
      else (.ok .changed, uncached.moveTo .idle)
  | some topic =>
      if uncached.selection.topic? = some topic then (.ok .unchanged, uncached)
      else if uncached.catalogue.contains topic then
        (.ok .changed, uncached.moveTo (.onTopic topic))
      else (.error (.unknownTopic topic), uncached)

/-- Selects a case of the selected topic, all of whose entries are loaded afresh, or no case. -/
def selectCase (uncached : Uncached) (source : Source σ) (request : Option Nat)
    (session : Session σ) : Except BoardError Change × Uncached × Session σ :=
  match uncached.selection.topic? with
  | none => (.error .noTopicSelected, uncached, session)
  | some topic =>
    match request with
    | none =>
        if uncached.selection.index? = none then (.ok .unchanged, uncached, session)
        else (.ok .changed, uncached.moveTo (.onTopic topic), session)
    | some index =>
        if uncached.selection.index? = some index then (.ok .unchanged, uncached, session)
        else
          let fallen := uncached.moveTo (.onTopic topic)
          match uncached.catalogue.get? topic with
          | none => (.error (.unknownTopic topic), fallen, session)
          | some cases =>
            match cases[index]? with
            | none => (.error (.unknownCase topic index cases.length), fallen, session)
            | some c =>
              match Registry.compareAfresh uncached.loader uncached.metrics source c session with
              | (.error e, session) => (.error e, fallen, session)
              | (.ok (chosen, comparisons), session) =>
                  (.ok .changed,
                    { uncached with
                      selection := .onCase topic index
                      shown := some ⟨topic, index, chosen, comparisons⟩ },
                    session)

/-- The answer to a request. -/
def answer (uncached : Uncached) (source : Source σ) (request : Request) (session : Session σ) :
    Except BoardError Change × Uncached × Session σ :=
  match request with
  | .topic name => ((uncached.selectTopic name).1, (uncached.selectTopic name).2, session)
  | .case index => uncached.selectCase source index session

/-! ### What is shown of a selection -/

/-- What a selection shows when all its files are asked for in this session. -/
def look (uncached : Uncached) (source : Source σ) (session : Session σ) :
    Selection → Option View
  | .onCase topic index => do
      let cases ← uncached.catalogue.get? topic
      let c ← cases[index]?
      let (chosen, comparisons) ←
        (Registry.compareAfresh uncached.loader uncached.metrics source c session).1.toOption
      return ⟨topic, index, chosen, comparisons⟩
  | _ => none

/-- The machine went on from another one, and shows what that one would show of its
selection at any time. -/
structure Shows (source : Source σ) (start uncached : Uncached) : Prop where
  catalogue : uncached.catalogue = start.catalogue
  metrics : uncached.metrics = start.metrics
  loader : uncached.loader = start.loader
  shown : ∀ session, uncached.shown = start.look source session uncached.selection

variable {start uncached : Uncached}

theorem Shows.moveTo (h : Shows source start uncached) {selection : Selection}
    (hselection : selection.index? = none) : Shows source start (uncached.moveTo selection) where
  catalogue := h.catalogue
  metrics := h.metrics
  loader := h.loader
  shown := by
    intro session
    cases selection with
    | idle => rfl
    | onTopic topic => rfl
    | onCase topic index => cases hselection

theorem Shows.selectTopic (h : Shows source start uncached) (request : Option String) :
    Shows source start (uncached.selectTopic request).2 := by
  cases request with
  | none =>
      simp only [Uncached.selectTopic]
      split
      · exact h
      · exact h.moveTo rfl
  | some topic =>
      simp only [Uncached.selectTopic]
      split
      · exact h
      · split
        · exact h.moveTo rfl
        · exact h

theorem Shows.selectCase (h : Shows source start uncached) (steady : source.Steady)
    (request : Option Nat) (session : Session σ) :
    Shows source start (uncached.selectCase source request session).2.1 := by
  unfold Uncached.selectCase
  split
  · exact h
  · rename_i topic htopic
    cases request with
    | none =>
        simp only
        split
        · exact h
        · exact h.moveTo rfl
    | some index =>
        simp only
        split
        · exact h
        · split
          · exact h.moveTo rfl
          · rename_i cases hcases
            split
            · exact h.moveTo rfl
            · rename_i c hc
              split
              · exact h.moveTo rfl
              · rename_i chosen comparisons after hcompare
                refine ⟨h.catalogue, h.metrics, h.loader, ?_⟩
                intro session'
                -- The files say at any time what they say now.
                have hlater := Registry.compareAfresh_fst uncached.loader uncached.metrics c steady
                  session' session
                rw [hcompare, h.loader, h.metrics] at hlater
                rw [h.catalogue] at hcases
                simp only [look, hcases, Option.bind_eq_bind, Option.bind_some, hc, hlater]
                rfl

theorem Shows.run (h : Shows source start uncached) (steady : source.Steady)
    (requests : List Request) (session : Session σ) :
    Shows source start (run (fun uncached => Uncached.answer uncached source) requests uncached
      session) := by
  induction requests generalizing uncached session with
  | nil => exact h
  | cons request requests ih =>
      refine ih ?_ _
      cases request with
      | topic name => exact h.selectTopic name
      | case index => exact h.selectCase steady index session

end Uncached

end BenchBoard
