import BenchBoard.Proofs.Catalogue.Automaton
import BenchBoard.Proofs.Text.ByteOrder
import BenchBoard.Samples.Descriptions
/-!
# BenchBoard.Proofs.Catalogue.Validation

**A registry is built of all that is described, or not at all.** `ofDescription_exact` says when,
what the error is otherwise, and what becomes of topics, cases, entries and baselines. A baseline is
found once, when its case is built. No request changes the entries of a case or the place of its
baseline (`keptIn_runFrom`), so the place that was found stays one of an entry.
-/

namespace BenchBoard.Registry

variable {description : Description} {root : String} {metrics : List Metric} {loader : Loader}
  {registry : Registry}

/-- The topics are those of the description. -/
theorem BuiltFrom.names (h : registry.BuiltFrom description root metrics loader) :
    registry.topics.names = description.names := by
  have htopics := h.topics
  unfold Topics.names
  generalize registry.topics.toList = built at htopics
  generalize Topics.toList description = described at htopics
  induction htopics with
  | nil => rfl
  | cons hfirst _ ih => rw [List.map_cons, List.map_cons, hfirst.1, ih]

/-- The names of topics stand in the order of their bytes. -/
theorem pairwise_bytes_names {α : Type} (topics : Topics α) :
    (topics.names.map Text.bytes).Pairwise (· < ·) :=
  List.pairwise_map.2 (topics.sorted.imp Text.bytes_lt_bytes)

/-- **A registry is built exactly of a description whose cases are all valid.** Otherwise the error
is about the first case that is not, in the order of the topics. What is built has the topics of the
description in the order of their bytes, each with its cases and each case with its entries in
order, under their names and with their paths below the root; nothing is loaded or selected. The
baseline of a case is the entry that is marked, or else the first, and whatever is asked for later,
it stays where it is among the same entries. Building asks for no file: a registry that is read from
a file asks for the text of its description and nothing else. -/
theorem ofDescription_exact (description : Description) (root : String) (metrics : List Metric)
    (loader : Loader) :
    ((∃ registry, ofDescription description root metrics loader = .ok registry) ↔
      ∀ spec ∈ description.specs, spec.IsValid) ∧
    (∀ e, ofDescription description root metrics loader = .error e ↔
      ∃ before spec after, description.specs = before ++ spec :: after ∧
        (∀ other ∈ before, other.IsValid) ∧ spec.Refused e) ∧
    (∀ registry, ofDescription description root metrics loader = .ok registry →
      registry.BuiltFrom description root metrics loader ∧
      registry.topics.names = description.names ∧
      (registry.topics.names.map Text.bytes).Pairwise (· < ·) ∧
      ∀ {σ : Type} (source : Source σ) (requests : List Request) (session : Session σ),
        registry.KeptIn (registry.runFrom source requests session)) ∧
    ∀ {σ : Type} (config : Config) (source : Source σ) (path : String) (session : Session σ),
      (ofFile config source path session).2 =
        ((Loader.ofConfig config).readText source path session).2 := by
  refine ⟨exists_ofDescription_iff, fun e => ofDescription_eq_error_iff, ?_, ?_⟩
  · intro registry h
    have hbuilt := builtFrom_of_ofDescription h
    exact ⟨hbuilt, hbuilt.names, pairwise_bytes_names registry.topics,
      fun source requests session => keptIn_runFrom registry source requests session⟩
  · intro σ config source path session
    unfold ofFile
    simp only
    split
    · rename_i hread
      rw [hread]
    · rename_i hread
      rw [hread]
      split <;> rfl

/-- Of two marked entries the case is refused, whatever else is described. -/
example : ofDescription Samples.twoBaselines "" Metric.standard ⟨.noRetry, .standard, 0⟩ =
    .error (.severalBaselines "push_back" 2) := by rfl

end BenchBoard.Registry
