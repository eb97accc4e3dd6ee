/-!
# BenchBoard.Proofs.Text.Separators

**Parts with a separator between each two.** Lines of fields, rows of blocks and columns of a sheet
are written this way. The whole is as long as its parts and the separators between them
(`length_intercalate`), and each part stands where those in front of it and their separators end
(`drop_intercalate`).
-/

namespace BenchBoard

variable {α β : Type} {separator part : List α} {parts : List (List α)} {lengths : List Nat}
  {a : α} {index length : Nat}

theorem mem_intercalate_iff :
    a ∈ separator.intercalate parts ↔
      (a ∈ separator ∧ 1 < parts.length) ∨ ∃ part ∈ parts, a ∈ part := by
  induction parts with
  | nil => simp [List.intercalate_nil]
  | cons part parts ih =>
      cases parts with
      | nil => simp [List.intercalate_singleton]
      | cons next parts =>
          rw [List.intercalate_cons_cons, List.mem_append, List.mem_append, ih]
          grind

theorem map_intercalate (f : α → β) (separator : List α) (parts : List (List α)) :
    (separator.intercalate parts).map f = (separator.map f).intercalate (parts.map (·.map f)) := by
  induction parts with
  | nil => rfl
  | cons part parts ih =>
      cases parts with
      | nil => simp
      | cons next parts =>
          rw [List.map_cons] at ih
          rw [List.map_cons, List.map_cons, List.intercalate_cons_cons, List.intercalate_cons_cons,
            List.map_append, List.map_append, ih]

/-- There is one separator less than there are parts. -/
theorem length_intercalate (separator : List α) (parts : List (List α)) :
    (separator.intercalate parts).length =
      (parts.map List.length).foldr (· + ·) 0 + separator.length * (parts.length - 1) := by
  induction parts with
  | nil => rfl
  | cons part parts ih =>
      cases parts with
      | nil => simp
      | cons next parts =>
          rw [List.intercalate_cons_cons, List.length_append, List.length_append, ih]
          simp only [List.map_cons, List.foldr_cons, List.length_cons, Nat.add_sub_cancel,
            Nat.mul_add, Nat.mul_one]
          omega

/-! ### Where a part begins -/

/-- Where the part at an index begins, when the parts have these lengths and the separators have
the length `gap`. -/
def partStart (gap : Nat) : List Nat → Nat → Nat
  | length :: lengths, index + 1 => length + gap + partStart gap lengths index
  | _, _ => 0

@[simp] theorem partStart_zero (gap : Nat) (lengths : List Nat) : partStart gap lengths 0 = 0 := by
  cases lengths <;> rfl

theorem partStart_succ (gap : Nat) (h : lengths[index]? = some length) :
    partStart gap lengths (index + 1) = partStart gap lengths index + length + gap := by
  induction lengths generalizing index with
  | nil => cases h
  | cons first lengths ih =>
      cases index with
      | zero =>
          obtain rfl : first = length := Option.some.inj h
          simp [partStart]
      | succ index =>
          rw [partStart, ih h, partStart]
          omega

/-- Behind the last part and one more separator the next part would begin. -/
theorem partStart_length (gap : Nat) (lengths : List Nat) :
    partStart gap lengths lengths.length = lengths.foldr (· + ·) 0 + gap * lengths.length := by
  induction lengths with
  | nil => rfl
  | cons length lengths ih =>
      rw [List.length_cons, partStart, ih, List.foldr_cons, Nat.mul_add, Nat.mul_one]
      omega

/-- From the beginning of a part on, a text goes on with the part, and then with a separator and
the other parts if there are any. -/
theorem drop_intercalate (separator : List α) (h : parts[index]? = some part) :
    (separator.intercalate parts).drop
        (partStart separator.length (parts.map List.length) index) =
      part ++ if index + 1 < parts.length then
        separator ++ separator.intercalate (parts.drop (index + 1)) else [] := by
  induction parts generalizing index with
  | nil => cases h
  | cons first parts ih =>
      cases index with
      | zero =>
          obtain rfl : first = part := Option.some.inj h
          cases parts with
          | nil => simp
          | cons next parts => simp [List.intercalate_cons_cons]
      | succ index =>
          have hpart : parts[index]? = some part := h
          obtain ⟨next, others, rfl⟩ : ∃ next others, parts = next :: others :=
            List.exists_cons_of_ne_nil (by rintro rfl; cases hpart)
          rw [List.map_cons, partStart, List.intercalate_cons_cons, ← List.drop_drop,
            ← List.length_append, List.drop_left, ih hpart]
          simp

end BenchBoard
