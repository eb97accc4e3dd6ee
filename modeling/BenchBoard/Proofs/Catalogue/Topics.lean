import BenchBoard.Catalogue.Topics
/-!
# BenchBoard.Proofs.Catalogue.Topics

**Looking up what was put.** Two laws of `insert` through `get?`. What only looks topics up uses
these laws and never sees the order of the list. The order says that topics are made again of
their own list (`ofList_toList`).
-/

namespace BenchBoard.Topics

variable {α : Type} {name other : String} {value : α}

/-! ### Putting a value -/

theorem lookup_put_self (name : String) (value : α) (list : List (String × α)) :
    (put name value list).lookup name = some value := by
  induction list with
  | nil => simp [put]
  | cons p rest ih =>
      obtain ⟨n, v⟩ := p
      unfold put
      split
      · simp
      · split
        · simp
        · rename_i hne
          rw [List.lookup_cons, beq_false_of_ne hne]
          exact ih

theorem lookup_put_of_ne (h : other ≠ name) (value : α) (list : List (String × α)) :
    (put name value list).lookup other = list.lookup other := by
  induction list with
  | nil => simp [put, List.lookup_cons, beq_false_of_ne h]
  | cons p rest ih =>
      obtain ⟨n, v⟩ := p
      unfold put
      split
      · rw [List.lookup_cons, beq_false_of_ne h]
      · split
        · rename_i heq
          subst heq
          rw [List.lookup_cons, List.lookup_cons, beq_false_of_ne h]
        · rw [List.lookup_cons, List.lookup_cons, ih]

@[simp] theorem get?_insert_self (topics : Topics α) (name : String) (value : α) :
    (topics.insert name value).get? name = some value :=
  lookup_put_self name value topics.toList

theorem get?_insert_of_ne (topics : Topics α) (h : other ≠ name) (value : α) :
    (topics.insert name value).get? other = topics.get? other :=
  lookup_put_of_ne h value topics.toList

theorem get?_insert (topics : Topics α) (name other : String) (value : α) :
    (topics.insert name value).get? other =
      if other = name then some value else topics.get? other := by
  by_cases h : other = name
  · subst h
    rw [if_pos rfl, get?_insert_self]
  · rw [if_neg h, get?_insert_of_ne topics h]

/-! ### Topics from a list -/

/-- A name that comes after all others is put at the end. -/
theorem put_of_forall_lt {list : List (String × α)} (h : ∀ p ∈ list, p.1 < name) :
    put name value list = list ++ [(name, value)] := by
  induction list with
  | nil => rfl
  | cons p rest ih =>
      obtain ⟨n, v⟩ := p
      obtain ⟨hn, hrest⟩ := List.forall_mem_cons.1 h
      have hafter : ¬name < n := String.lt_asymm hn
      have hne : name ≠ n := fun heq => String.lt_irrefl n (heq ▸ hn)
      rw [put, if_neg hafter, if_neg hne, ih hrest]
      rfl

/-- Topics that come in order, and after those that are there, are put at the end. -/
theorem toList_foldl_insert (list : List (String × α)) (topics : Topics α)
    (h : ((topics.toList ++ list).map (·.1)).Pairwise (· < ·)) :
    (list.foldl (fun topics p => topics.insert p.1 p.2) topics).toList = topics.toList ++ list := by
  induction list generalizing topics with
  | nil => simp
  | cons p list ih =>
      have hbefore : ∀ q ∈ topics.toList, q.1 < p.1 := by
        intro q hq
        rw [List.map_append, List.pairwise_append] at h
        exact h.2.2 _ (List.mem_map_of_mem hq) _ (by simp)
      have hput : (topics.insert p.1 p.2).toList = topics.toList ++ [p] :=
        put_of_forall_lt hbefore
      rw [List.foldl_cons, ih, hput, List.append_assoc, List.singleton_append]
      rwa [hput, List.append_assoc, List.singleton_append]

/-- Topics are made again of their own list. -/
theorem ofList_toList (topics : Topics α) : ofList topics.toList = topics := by
  have hlist : (ofList topics.toList).toList = topics.toList :=
    toList_foldl_insert topics.toList empty topics.sorted
  generalize ofList topics.toList = others at hlist ⊢
  cases topics
  cases others
  cases hlist
  rfl

/-! ### Names -/

/-- What is found under a name stands in the list. -/
theorem mem_toList_of_get? {topics : Topics α} (h : topics.get? name = some value) :
    (name, value) ∈ topics.toList := by
  obtain ⟨before, after, hlist, -⟩ := List.lookup_eq_some_iff.1 h
  rw [hlist]
  exact List.mem_append_right _ List.mem_cons_self

/-- A name is known when there is a value under it. -/
theorem mem_names_iff (topics : Topics α) (name : String) :
    name ∈ topics.names ↔ ∃ value, topics.get? name = some value := by
  unfold names get?
  induction topics.toList with
  | nil => simp
  | cons p rest ih =>
      obtain ⟨n, v⟩ := p
      by_cases h : name = n
      · simp [h]
      · rw [List.lookup_cons, beq_false_of_ne h, List.map_cons, List.mem_cons]
        simpa [h] using ih

theorem contains_iff (topics : Topics α) (name : String) :
    topics.contains name = true ↔ name ∈ topics.names := by
  rw [contains, Option.isSome_iff_exists, mem_names_iff]

end BenchBoard.Topics
