import BenchBoard.Json.Decode
import BenchBoard.Proofs.Json.Layout
/-!
# BenchBoard.Proofs.Json.Decoding

**Readers that take back what was written.** A reader takes a value back (`TakesBack`) when what
its writer makes of the value is well-formed and is read as that value again. Then the value
also comes back through text, in either written form (`TakesBack.compact`, `TakesBack.pretty`).

The readers of scalars and lists take everything back, but for natural numbers that are no
machine words. A record with different names gives each field what stands under its name
(`fields?_record`).
-/

namespace BenchBoard.Json

variable {α : Type} {read : Reader α} {write : α → Value} {x : α} {n : Nat}
  {members : List (String × Value)}

/-- A conversion that takes another one back item by item takes it back for the list. -/
theorem mapM_map_eq_some {β : Type} {f : β → Option α} {g : α → β} {xs : List α}
    (h : ∀ x ∈ xs, f (g x) = some x) : (xs.map g).mapM f = some xs := by
  induction xs with
  | nil => rfl
  | cons x xs ih =>
      have hothers := ih fun other hother => h other (List.mem_cons_of_mem _ hother)
      simp [h x List.mem_cons_self, hothers]

/-- What is written for the value is well-formed, and the reader gives the value back. -/
structure TakesBack (read : Reader α) (write : α → Value) (x : α) : Prop where
  wellFormed : (write x).WellFormed
  read_write : read (write x) = some x

namespace TakesBack

/-! ### Through text -/

theorem compact (h : TakesBack read write x) : (parse (write x).compact).bind read = some x := by
  rw [parse_compact h.wellFormed, Option.bind_some, h.read_write]

theorem pretty (h : TakesBack read write x) : (parse (write x).pretty).bind read = some x := by
  rw [parse_pretty h.wellFormed, Option.bind_some, h.read_write]

/-! ### Scalars -/

theorem text (s : String) : TakesBack readText .text s where
  wellFormed := .string s
  read_write := rfl

theorem bool (b : Bool) : TakesBack readBool .bool b where
  wellFormed := .bool b
  read_write := rfl

theorem count (h : n < UInt64.size) : TakesBack readCount .count n where
  wellFormed := .number (isNumber_toDigits n)
  read_write := countOfLiteral?_toDigits h

theorem optionalText (s : Option String) :
    TakesBack (readOptional readText) .optionalText s := by
  cases s with
  | none => exact ⟨.null, rfl⟩
  | some s => exact ⟨.string s, rfl⟩

/-! ### Lists -/

/-- A list is taken back when all its items are. -/
theorem list {xs : List α} (h : ∀ x ∈ xs, TakesBack read write x) :
    TakesBack (readList read) (fun xs => .array (xs.map write)) xs where
  wellFormed := by
    refine .array fun item hitem => ?_
    obtain ⟨x, hx, rfl⟩ := List.mem_map.1 hitem
    exact (h x hx).wellFormed
  read_write :=
    mapM_map_eq_some fun x hx => (h x hx).read_write

theorem texts (xs : List String) : TakesBack (readList readText) .texts xs :=
  list fun s _ => text s

end TakesBack

/-! ### Records -/

theorem Value.WellFormed.record (h : ∀ member ∈ members, member.2.WellFormed) :
    (Value.record members).WellFormed := by
  refine .object ?_ ?_
  · intro member hmember
    obtain ⟨⟨name, value⟩, -, rfl⟩ := List.mem_map.1 hmember
    exact ⟨name, rfl⟩
  · intro member hmember
    obtain ⟨⟨name, value⟩, hvalue, rfl⟩ := List.mem_map.1 hmember
    exact h _ hvalue

/-- Of members with different names at most one is found. -/
theorem uniqueMember?_record (h : (members.map (·.1)).Nodup) (name : String) :
    uniqueMember? name (members.map fun (name, value) => (some name, value)) =
      some (members.lookup name) := by
  induction members with
  | nil => rfl
  | cons member members ih =>
      obtain ⟨first, value⟩ := member
      rw [List.map_cons, List.nodup_cons] at h
      have hothers := ih h.2
      unfold uniqueMember? at hothers ⊢
      by_cases hname : name = first
      · subst hname
        have hnone : (members.map fun (name, value) => (some name, value)).filter
            (fun member => member.1 == some name) = [] := by
          rw [List.filter_eq_nil_iff]
          intro member hmember hfound
          obtain ⟨⟨other, value⟩, hother, rfl⟩ := List.mem_map.1 hmember
          exact h.1 (List.mem_map.2 ⟨(other, value), hother, by simpa using hfound⟩)
        simp [hnone]
      · rw [List.map_cons, List.filter_cons_of_neg (by simpa using Ne.symm hname),
          List.lookup_cons, beq_false_of_ne hname]
        exact hothers

/-- Each field is what stands under its name. -/
theorem fields?_record (h : (members.map (·.1)).Nodup) (names : List String) (least : Nat) :
    fields? names least (.record members) = some (names.map fun name => members.lookup name) := by
  have hnames : (members.map fun (name, value) => (some name, value)).any
      (fun member => member.1.isNone) = false := by
    simp
  simp only [fields?, Value.record, hnames, uniqueMember?_record h]
  exact List.mapM_pure

end BenchBoard.Json
