import BenchBoard.Catalogue.Registry
import BenchBoard.Proofs.Catalogue.Topics
import BenchBoard.Proofs.Refusals
/-!
# BenchBoard.Proofs.Catalogue.Building

**What is built of a description.** A case can be built when it compares something and has one
baseline at most (`CaseSpec.IsValid`). It is then the case that is described (`Case.BuiltFrom`):
nothing is loaded, and the baseline is the entry that is marked or else the first. Otherwise the
case is refused for one of two reasons (`CaseSpec.Refused`).

The cases of all topics are built in order, so a registry is refused for the first case that is
(`Registry.ofDescription_eq_error_iff`). Nothing is selected when it is built.
-/

namespace BenchBoard

/-! ### Baselines -/

/-- Two places of members with a property are the same if there is one such member at most. -/
theorem eq_of_countP_le_one {α : Type} {p : α → Bool} {xs : List α} (h : xs.countP p ≤ 1)
    {i j : Nat} {x y : α} (hi : xs[i]? = some x) (hj : xs[j]? = some y) (hx : p x = true)
    (hy : p y = true) : i = j := by
  -- Otherwise one of them is among the members up to the other, and that one behind these.
  have hsplit : ∀ {i j : Nat} {x y : α}, xs[i]? = some x → xs[j]? = some y → p x = true →
      p y = true → ¬ i < j := by
    intro i j x y hi hj hx hy hlt
    have hfront : 0 < (xs.take j).countP p :=
      List.countP_pos_iff.2 ⟨x, List.mem_of_getElem? (List.getElem?_take_of_lt hlt ▸ hi), hx⟩
    have hback : 0 < (xs.drop j).countP p :=
      List.countP_pos_iff.2 ⟨y, List.mem_of_getElem? (i := 0) (by simpa using hj), hy⟩
    rw [← List.take_append_drop j xs, List.countP_append] at h
    omega
  have hlt := hsplit hi hj hx hy
  have hgt := hsplit hj hi hy hx
  omega

/-- The place is that of the entry that is marked, or the first if none is. -/
structure Entry.IsBaseline (entries : List Entry) (place : Nat) : Prop where
  lt : place < entries.length
  marked : ∀ (i : Nat) (entry : Entry), entries[i]? = some entry → entry.marked = true → place = i
  unmarked : (∀ entry ∈ entries, entry.marked = false) → place = 0

namespace Case

variable {name description root : String} {c : Case}

/-- A case is built of entries unless there are none or more than one of them is marked. -/
theorem ofEntries_cases (name description : String) (entries : List Entry) :
    (entries = [] ∧ ofEntries name description entries = .error (.noEntries name)) ∨
    (1 < entries.countP (·.marked) ∧ ofEntries name description entries =
      .error (.severalBaselines name (entries.countP (·.marked)))) ∨
    (entries ≠ [] ∧ entries.countP (·.marked) ≤ 1 ∧
      ∃ c, ofEntries name description entries = .ok c ∧ c.name = name ∧
        c.description = description ∧ c.entries = entries ∧
        Entry.IsBaseline entries c.baseline) := by
  unfold ofEntries
  split
  · rename_i hnone
    have hunmarked : ∀ entry ∈ entries, entry.marked = false := List.findIdx?_eq_none_iff.1 hnone
    have hcount : entries.countP (·.marked) = 0 :=
      List.countP_eq_zero.2 fun entry hentry => by simp [hunmarked entry hentry]
    split
    · rename_i hlt
      refine .inr (.inr ⟨List.ne_nil_of_length_pos hlt, by omega, _, rfl, rfl, rfl, rfl, hlt, ?_,
        fun _ => rfl⟩)
      intro i entry hentry hmarked
      rw [hunmarked entry (List.mem_of_getElem? hentry)] at hmarked
      cases hmarked
    · rename_i hempty
      exact .inl ⟨List.length_eq_zero_iff.1 (Nat.eq_zero_of_not_pos hempty), rfl⟩
  · rename_i place hsome
    obtain ⟨hlt, hplace, -⟩ := List.findIdx?_eq_some_iff_getElem.1 hsome
    split
    · rename_i hcount
      exact .inr (.inl ⟨hcount, rfl⟩)
    · rename_i hcount
      refine .inr (.inr ⟨List.ne_nil_of_length_pos (Nat.zero_lt_of_lt hlt), by omega, _, rfl, rfl,
        rfl, rfl, hlt, ?_, ?_⟩)
      · intro i entry hentry hmarked
        exact eq_of_countP_le_one (Nat.le_of_not_lt hcount) (List.getElem?_eq_getElem hlt) hentry
          hplace hmarked
      · intro hunmarked
        rw [hunmarked _ (List.getElem_mem hlt)] at hplace
        cases hplace

end Case

/-! ### Cases -/

/-- What is described can be compared: there is an entry, and one baseline at most. -/
structure CaseSpec.IsValid (spec : CaseSpec) : Prop where
  nonempty : spec.entries ≠ []
  one_baseline : spec.entries.countP (·.baseline) ≤ 1

/-- Why no case is built of what is described. -/
inductive CaseSpec.Refused (spec : CaseSpec) : BoardError → Prop
  | noEntries : spec.entries = [] → Refused spec (.noEntries spec.name)
  | severalBaselines : 1 < spec.entries.countP (·.baseline) →
      Refused spec (.severalBaselines spec.name (spec.entries.countP (·.baseline)))

theorem CaseSpec.Refused.not_isValid {spec : CaseSpec} {e : BoardError} (h : spec.Refused e) :
    ¬ spec.IsValid := by
  intro hvalid
  cases h with
  | noEntries hnil => exact hvalid.nonempty hnil
  | severalBaselines hcount => exact Nat.not_lt.2 hvalid.one_baseline hcount

/-- There is one reason only. -/
theorem CaseSpec.Refused.eq {spec : CaseSpec} {e e' : BoardError} (h : spec.Refused e)
    (h' : spec.Refused e') : e = e' := by
  cases h with
  | noEntries hnil =>
      cases h' with
      | noEntries _ => rfl
      | severalBaselines hcount => simp [hnil] at hcount
  | severalBaselines hcount =>
      cases h' with
      | noEntries hnil => simp [hnil] at hcount
      | severalBaselines _ => rfl

namespace Case

variable {root : String} {spec : CaseSpec} {c : Case} {e : BoardError}

/-- The case is the one that is described, and nothing of it is loaded. -/
structure BuiltFrom (root : String) (spec : CaseSpec) (c : Case) : Prop where
  name : c.name = spec.name
  description : c.description = spec.desc
  /-- The entries stand in order, under their names and with the paths that their files have below
  the root. -/
  entries : c.entries = spec.entries.map fun entry =>
    ⟨entry.name, Path.join root entry.file, entry.baseline, none⟩
  baseline_lt : c.baseline < spec.entries.length
  /-- The entry that is marked is the baseline. -/
  marked : ∀ (i : Nat) (entry : EntrySpec), spec.entries[i]? = some entry →
    entry.baseline = true → c.baseline = i
  /-- If none is, the first is. -/
  unmarked : (∀ entry ∈ spec.entries, entry.baseline = false) → c.baseline = 0

/-- Building a case succeeds or fails as the description has it. -/
theorem ofSpec_cases (root : String) (spec : CaseSpec) :
    (∃ e, ofSpec root spec = .error e ∧ spec.Refused e) ∨
      (spec.IsValid ∧ ∃ c, ofSpec root spec = .ok c ∧ c.BuiltFrom root spec) := by
  have hcount : (spec.entries.map (Entry.ofSpec root)).countP (·.marked) =
      spec.entries.countP (·.baseline) := List.countP_map
  rcases ofEntries_cases spec.name spec.desc (spec.entries.map (Entry.ofSpec root)) with
    ⟨hnil, herror⟩ | ⟨hmany, herror⟩ | ⟨hne, hone, c, hok, hname, hdesc, hentries, hbaseline⟩
  · exact .inl ⟨_, herror, .noEntries (List.map_eq_nil_iff.1 hnil)⟩
  · rw [hcount] at hmany herror
    exact .inl ⟨_, herror, .severalBaselines hmany⟩
  · refine .inr ⟨⟨fun hnil => hne (by rw [hnil]; rfl), hcount ▸ hone⟩, c, hok, hname, hdesc,
      hentries, by simpa using hbaseline.lt, ?_, ?_⟩
    · intro i entry hentry hmarked
      refine hbaseline.marked i (Entry.ofSpec root entry) ?_ hmarked
      rw [List.getElem?_map, hentry, Option.map_some]
    · intro hunmarked
      exact hbaseline.unmarked (List.forall_mem_map.2 hunmarked)

theorem ofSpec_eq_error_iff : ofSpec root spec = .error e ↔ spec.Refused e := by
  rcases ofSpec_cases root spec with ⟨e', herror, hrefused⟩ | ⟨hvalid, c, hok, -⟩
  · rw [herror]
    constructor
    · intro h
      cases h
      exact hrefused
    · intro h
      rw [hrefused.eq h]
  · rw [hok]
    constructor
    · intro h
      cases h
    · intro h
      exact absurd hvalid h.not_isValid

theorem exists_ofSpec_iff : (∃ c, ofSpec root spec = .ok c) ↔ spec.IsValid := by
  rcases ofSpec_cases root spec with ⟨e, herror, hrefused⟩ | ⟨hvalid, c, hok, -⟩
  · rw [herror]
    constructor
    · rintro ⟨c, h⟩
      cases h
    · intro hvalid
      exact absurd hvalid hrefused.not_isValid
  · exact ⟨fun _ => hvalid, fun _ => ⟨c, hok⟩⟩

theorem builtFrom_of_ofSpec (h : ofSpec root spec = .ok c) : c.BuiltFrom root spec := by
  rcases ofSpec_cases root spec with ⟨e, herror, -⟩ | ⟨-, c', hok, hbuilt⟩
  · cases h.symm.trans herror
  · cases h.symm.trans hok
    exact hbuilt

/-- No entry of a case that is just built is loaded. -/
theorem BuiltFrom.not_loaded (h : c.BuiltFrom root spec) :
    ∀ entry ∈ c.entries, entry.results = none := by
  rw [h.entries]
  exact List.forall_mem_map.2 fun entry _ => rfl

end Case

/-! ### Topics -/

namespace Topics

variable {α β ε : Type} {f : α → Except ε β} {topics : Topics α} {converted : Topics β} {e : ε}

/-- The values are converted one after the other, in the order of the names. -/
theorem map_toList_traverse (f : α → Except ε β) (topics : Topics α) :
    (topics.traverse f).map (·.toList) = topics.toList.mapM fun p => do return (p.1, ← f p.2) := by
  have hlist : ∀ list, traverseList f list = list.mapM fun p => do return (p.1, ← f p.2) := by
    intro list
    induction list with
    | nil => rfl
    | cons p list ih =>
        rw [traverseList, ih, List.mapM_cons]
        cases f p.2 with
        | error e => rfl
        | ok value => cases list.mapM fun p => do return (p.1, ← f p.2) <;> rfl
  rw [← hlist]
  unfold traverse
  split
  · rename_i herror
    exact herror.symm
  · rename_i hok
    exact hok.symm

theorem forall₂_of_traverse (h : topics.traverse f = .ok converted) :
    List.Forall₂ (fun p q => q.1 = p.1 ∧ f p.2 = .ok q.2) topics.toList converted.toList := by
  have hlist := map_toList_traverse f topics
  rw [h] at hlist
  refine (mapM_eq_ok_iff.1 hlist.symm).imp fun p q hpq => ?_
  obtain ⟨value, hvalue, hq⟩ := bind_eq_ok_iff.1 hpq
  cases hq
  exact ⟨rfl, hvalue⟩

theorem traverse_eq_error_iff : topics.traverse f = .error e ↔
    (topics.toList.mapM fun p => do return (p.1, ← f p.2)) = .error e := by
  rw [← map_toList_traverse]
  cases topics.traverse f <;> simp [Except.map]

end Topics

/-! ### The registry -/

/-- The cases of all topics, in the order of the topics. -/
def Description.specs (description : Description) : List CaseSpec :=
  description.toList.flatMap (·.2)

namespace Registry

variable {description : Description} {root : String} {metrics : List Metric} {loader : Loader}
  {registry : Registry} {e : BoardError}

/-- What is built is the cases of all topics, of which nothing is selected. -/
theorem ofDescription_eq_ok_iff :
    ofDescription description root metrics loader = .ok registry ↔
      ∃ topics, (description.traverse fun specs => specs.mapM (Case.ofSpec root)) = .ok topics ∧
        registry = ⟨topics, .idle, [], metrics, loader⟩ := by
  unfold ofDescription
  cases description.traverse fun specs => specs.mapM (Case.ofSpec root) with
  | error e =>
      constructor
      · intro h
        cases h
      · rintro ⟨topics, h, -⟩
        cases h
  | ok topics =>
      constructor
      · intro h
        cases h
        exact ⟨topics, rfl, rfl⟩
      · rintro ⟨others, h, rfl⟩
        cases h
        rfl

/-- A registry is refused as the cases of all topics are when they are built one by one. -/
theorem ofDescription_eq_error_iff_specs :
    ofDescription description root metrics loader = .error e ↔
      description.specs.mapM (Case.ofSpec root) = .error e := by
  have hmap : ofDescription description root metrics loader = .error e ↔
      (description.traverse fun specs => specs.mapM (Case.ofSpec root)) = .error e := by
    unfold ofDescription
    cases description.traverse fun specs => specs.mapM (Case.ofSpec root) <;> simp [Except.map]
  rw [hmap, Topics.traverse_eq_error_iff, mapM_groups_eq_error_iff, Description.specs]

/-- The first case that is refused is the reason why a registry is. -/
theorem ofDescription_eq_error_iff :
    ofDescription description root metrics loader = .error e ↔
      ∃ before spec after, description.specs = before ++ spec :: after ∧
        (∀ other ∈ before, other.IsValid) ∧ spec.Refused e := by
  rw [ofDescription_eq_error_iff_specs, mapM_eq_error_iff]
  simp only [Case.exists_ofSpec_iff, Case.ofSpec_eq_error_iff]

/-- A registry is built when all cases are. -/
theorem exists_ofDescription_iff :
    (∃ registry, ofDescription description root metrics loader = .ok registry) ↔
      ∀ spec ∈ description.specs, spec.IsValid := by
  rw [exists_ok_iff_of_error_iff fun e => ofDescription_eq_error_iff_specs, exists_mapM_iff]
  simp only [Case.exists_ofSpec_iff]

/-- The registry has the topics and cases that are described, and nothing is selected. -/
structure BuiltFrom (description : Description) (root : String) (metrics : List Metric)
    (loader : Loader) (registry : Registry) : Prop where
  /-- Topics and cases stand in the order of the description. -/
  topics : List.Forall₂ (fun described built => built.1 = described.1 ∧
    List.Forall₂ (Case.BuiltFrom root) described.2 built.2)
    description.toList registry.topics.toList
  selection : registry.selection = .idle
  comparisons : registry.comparisons = []
  metrics : registry.metrics = metrics
  loader : registry.loader = loader

theorem builtFrom_of_ofDescription
    (h : ofDescription description root metrics loader = .ok registry) :
    registry.BuiltFrom description root metrics loader := by
  obtain ⟨topics, htopics, rfl⟩ := ofDescription_eq_ok_iff.1 h
  refine ⟨(Topics.forall₂_of_traverse htopics).imp ?_, rfl, rfl, rfl, rfl⟩
  rintro described built ⟨hname, hcases⟩
  exact ⟨hname, (mapM_eq_ok_iff.1 hcases).imp fun spec c hc => Case.builtFrom_of_ofSpec hc⟩

/-- No entry of what is just built is loaded. -/
theorem not_loaded_of_traverse {topics : Topics (List Case)}
    (h : (description.traverse fun specs => specs.mapM (Case.ofSpec root)) = .ok topics)
    {topic : String} {cases : List Case} (hcases : topics.get? topic = some cases) :
    ∀ c ∈ cases, ∀ entry ∈ c.entries, entry.results = none := by
  intro c hc
  obtain ⟨described, -, -, hbuilt⟩ :=
    exists_of_forall₂ (Topics.forall₂_of_traverse h) _ (Topics.mem_toList_of_get? hcases)
  obtain ⟨spec, -, hspec⟩ := exists_of_forall₂ (mapM_eq_ok_iff.1 hbuilt) c hc
  exact (Case.builtFrom_of_ofSpec hspec).not_loaded

end Registry

end BenchBoard
