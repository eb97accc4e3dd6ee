/-!
# BenchBoard.Catalogue.Topics

**A finite map ordered by name.** Topics are kept in the order of their names, each name
once. The order compares names character by character, by code point, which is the order
of their UTF-8 bytes.
-/

namespace BenchBoard

/-- Values under names, in strictly increasing order of the names. -/
structure Topics (α : Type) where
  toList : List (String × α)
  /-- Each name comes after all names in front of it. -/
  sorted : (toList.map (·.1)).Pairwise (· < ·)

namespace Topics

variable {α β ε : Type}

def empty : Topics α := ⟨[], .nil⟩

/-- Puts a value under a name into an ordered list, in place of the one that is there. -/
def put (name : String) (value : α) : List (String × α) → List (String × α)
  | [] => [(name, value)]
  | (n, v) :: rest =>
      if name < n then (name, value) :: (n, v) :: rest
      else if name = n then (name, value) :: rest
      else (n, v) :: put name value rest

/-- Putting a value adds no name but its own. -/
theorem mem_put {name : String} {value : α} {list : List (String × α)} {p : String × α}
    (h : p ∈ put name value list) : p = (name, value) ∨ p ∈ list := by
  induction list with
  | nil => simpa [put] using h
  | cons q rest ih =>
      obtain ⟨n, v⟩ := q
      unfold put at h
      split at h
      · simpa using h
      · split at h
        · rcases List.mem_cons.1 h with h | h
          · exact .inl h
          · exact .inr (List.mem_cons_of_mem _ h)
        · rcases List.mem_cons.1 h with h | h
          · exact .inr (h ▸ List.mem_cons_self)
          · exact (ih h).imp id (List.mem_cons_of_mem _)

/-- Putting a value keeps the order. -/
theorem sorted_put (name : String) (value : α) {list : List (String × α)}
    (h : list.Pairwise fun a b => a.1 < b.1) :
    (put name value list).Pairwise fun a b => a.1 < b.1 := by
  induction list with
  | nil => simp [put]
  | cons q rest ih =>
      obtain ⟨n, v⟩ := q
      obtain ⟨first, others⟩ := List.pairwise_cons.1 h
      unfold put
      split
      · rename_i before
        refine List.pairwise_cons.2 ⟨?_, h⟩
        intro p hp
        rcases List.mem_cons.1 hp with rfl | hp
        · exact before
        · exact String.lt_trans before (first p hp)
      · split
        · rename_i same
          subst same
          exact List.pairwise_cons.2 ⟨first, others⟩
        · rename_i notBefore notSame
          refine List.pairwise_cons.2 ⟨?_, ih others⟩
          intro p hp
          rcases mem_put hp with rfl | hp
          · exact Std.lt_of_le_of_ne (String.not_lt.1 notBefore) (Ne.symm notSame)
          · exact first p hp

/-- The topics with a value under a name, in place of the one that is there. -/
def insert (topics : Topics α) (name : String) (value : α) : Topics α where
  toList := put name value topics.toList
  sorted := List.pairwise_map.2 (sorted_put name value (List.pairwise_map.1 topics.sorted))

/-- The topics of a list; of several values under one name the last counts. -/
def ofList (list : List (String × α)) : Topics α :=
  list.foldl (fun topics p => topics.insert p.1 p.2) empty

/-- The value under a name. -/
def get? (topics : Topics α) (name : String) : Option α :=
  topics.toList.lookup name

/-- Is there a value under the name? -/
def contains (topics : Topics α) (name : String) : Bool :=
  (topics.get? name).isSome

/-- The names, in order. -/
def names (topics : Topics α) : List String :=
  topics.toList.map (·.1)

/-! ### Converting the values -/

/-- The list with every value converted; the first failure decides. -/
def traverseList (f : α → Except ε β) : List (String × α) → Except ε (List (String × β))
  | [] => .ok []
  | (name, value) :: rest =>
      match f value with
      | .error e => .error e
      | .ok converted =>
        match traverseList f rest with
        | .error e => .error e
        | .ok others => .ok ((name, converted) :: others)

/-- Converting values keeps the names and their order. -/
theorem names_of_traverseList {f : α → Except ε β} {list : List (String × α)}
    {converted : List (String × β)} (h : traverseList f list = .ok converted) :
    converted.map (·.1) = list.map (·.1) := by
  induction list generalizing converted with
  | nil => cases h; rfl
  | cons p rest ih =>
      unfold traverseList at h
      split at h
      · cases h
      · split at h
        · cases h
        · rename_i others hrest
          cases h
          simp [ih hrest]

/-- The topics with every value converted, in the order of the names; the first failure
decides. -/
def traverse (f : α → Except ε β) (topics : Topics α) : Except ε (Topics β) :=
  match h : traverseList f topics.toList with
  | .error e => .error e
  | .ok list => .ok ⟨list, names_of_traverseList h ▸ topics.sorted⟩

end Topics

end BenchBoard
