import Mathlib.Data.List.Forall2
/-!
# BenchBoard.Proofs.Refusals

**Computations that can be refused.** Two steps succeed when both do, and are refused by the first
that is; a list goes member by member, and what its members become stands in the same places.
Whatever is computed in steps is taken apart by these laws and not by unfolding the steps.
-/

namespace BenchBoard

variable {α β ε : Type} {e : ε}

/-! ### Members in the same places -/

/-- Each member of the second list has a partner in the first. -/
theorem exists_of_forall₂ {R : α → β → Prop} {xs : List α} {ys : List β}
    (h : List.Forall₂ R xs ys) : ∀ y ∈ ys, ∃ x ∈ xs, R x y := by
  induction h with
  | nil => simp
  | @cons x y xs ys hxy _ ih =>
      refine List.forall_mem_cons.2 ⟨⟨x, List.mem_cons_self, hxy⟩, ?_⟩
      intro other hother
      obtain ⟨partner, hpartner, hrelated⟩ := ih other hother
      exact ⟨partner, List.mem_cons_of_mem x hpartner, hrelated⟩

theorem forall₂_trans {R : α → α → Prop} (htrans : ∀ a b c, R a b → R b c → R a c)
    {xs ys zs : List α} (h : List.Forall₂ R xs ys) (h' : List.Forall₂ R ys zs) :
    List.Forall₂ R xs zs := by
  induction h generalizing zs with
  | nil => exact h'
  | cons hxy _ ih =>
      cases h' with
      | cons hyz hrest => exact .cons (htrans _ _ _ hxy hyz) (ih hrest)

/-- Changing a member changes what stands in its place and nothing else. -/
theorem forall₂_modify {R : α → α → Prop} (hrefl : ∀ a, R a a) {f : α → α} {xs : List α} {i : Nat}
    (h : ∀ x, xs[i]? = some x → R x (f x)) : List.Forall₂ R xs (xs.modify i f) := by
  induction xs generalizing i with
  | nil => rw [List.modify_nil]; exact .nil
  | cons x xs ih =>
      cases i with
      | zero =>
          rw [List.modify_zero_cons]
          exact .cons (h x rfl) (List.forall₂_same.2 fun a _ => hrefl a)
      | succ i =>
          rw [List.modify_succ_cons]
          exact .cons (hrefl x) (ih h)

/-! ### Steps -/

section Steps

variable {x : Except ε α} {f : α → Except ε β} {b : β}

/-- A computation in two steps succeeds when both steps do. -/
theorem bind_eq_ok_iff : (x >>= f) = .ok b ↔ ∃ a, x = .ok a ∧ f a = .ok b := by
  cases x with
  | error e =>
      constructor
      · intro h
        cases h
      · rintro ⟨a, h, -⟩
        cases h
  | ok a =>
      constructor
      · intro h
        exact ⟨a, rfl, h⟩
      · rintro ⟨a', h, hf⟩
        cases h
        exact hf

/-- It is refused when the first step is, or when the second is after the first. -/
theorem bind_eq_error_iff :
    (x >>= f) = .error e ↔ x = .error e ∨ ∃ a, x = .ok a ∧ f a = .error e := by
  cases x with
  | error e' =>
      show Except.error e' = Except.error e ↔ _
      simp
  | ok a =>
      show f a = .error e ↔ _
      simp

end Steps

/-- Computations that are refused alike succeed alike. -/
theorem exists_ok_iff_of_error_iff {x : Except ε α} {y : Except ε β}
    (h : ∀ e, x = .error e ↔ y = .error e) : (∃ a, x = .ok a) ↔ ∃ b, y = .ok b := by
  cases x with
  | error e => simp [(h e).1 rfl]
  | ok a =>
      cases y with
      | error e => simpa using h e
      | ok b => simp

/-! ### Lists -/

section Lists

variable {f : α → Except ε β} {xs : List α} {ys : List β}

/-- A list is accepted when all its members are, each in its place. -/
theorem mapM_eq_ok_iff : xs.mapM f = .ok ys ↔ List.Forall₂ (fun x y => f x = .ok y) xs ys := by
  induction xs generalizing ys with
  | nil =>
      rw [List.mapM_nil, List.forall₂_nil_left_iff]
      show Except.ok [] = Except.ok ys ↔ _
      rw [Except.ok.injEq, eq_comm]
  | cons x xs ih =>
      simp only [List.mapM_cons, bind_eq_ok_iff, ih, List.forall₂_cons_left_iff]
      constructor
      · rintro ⟨y, hy, others, hothers, h⟩
        cases h
        exact ⟨y, others, hy, hothers, rfl⟩
      · rintro ⟨y, others, hy, hothers, rfl⟩
        exact ⟨y, hy, others, hothers, rfl⟩

theorem exists_mapM_iff : (∃ ys, xs.mapM f = .ok ys) ↔ ∀ x ∈ xs, ∃ y, f x = .ok y := by
  simp only [mapM_eq_ok_iff]
  induction xs with
  | nil => simp
  | cons x xs ih =>
      rw [List.forall_mem_cons, ← ih]
      simp only [List.forall₂_cons_left_iff]
      constructor
      · rintro ⟨_, y, others, hy, hothers, -⟩
        exact ⟨⟨y, hy⟩, others, hothers⟩
      · rintro ⟨⟨y, hy⟩, others, hothers⟩
        exact ⟨_, y, others, hy, hothers, rfl⟩

/-- A list is refused for the first of its members that is. -/
theorem mapM_eq_error_iff :
    xs.mapM f = .error e ↔ ∃ before x after, xs = before ++ x :: after ∧
      (∀ other ∈ before, ∃ y, f other = .ok y) ∧ f x = .error e := by
  induction xs with
  | nil =>
      constructor
      · intro h
        cases h
      · rintro ⟨before, x, after, h, -⟩
        simp at h
  | cons x xs ih =>
      have hcons : (x :: xs).mapM f = .error e ↔
          f x = .error e ∨ ∃ y, f x = .ok y ∧ xs.mapM f = .error e := by
        simp only [List.mapM_cons, bind_eq_error_iff]
        -- The last step only puts the values together.
        simp [pure, Except.pure]
      rw [hcons, ih]
      constructor
      · rintro (hx | ⟨y, hx, before, other, after, rfl, hbefore, hother⟩)
        · exact ⟨[], x, xs, rfl, by simp, hx⟩
        · exact ⟨x :: before, other, after, rfl,
            List.forall_mem_cons.2 ⟨⟨y, hx⟩, hbefore⟩, hother⟩
      · rintro ⟨before, other, after, hxs, hbefore, hother⟩
        cases before with
        | nil =>
            cases hxs
            exact .inl hother
        | cons first before =>
            cases hxs
            obtain ⟨⟨y, hy⟩, hbefore⟩ := List.forall_mem_cons.1 hbefore
            exact .inr ⟨y, hy, before, other, after, rfl, hbefore, hother⟩

/-- What is made of the members of a list is there when it is there for each of them. -/
theorem mapM_eq_some_iff {f : α → Option β} {xs : List α} {ys : List β} :
    xs.mapM f = some ys ↔ List.Forall₂ (fun x y => f x = some y) xs ys := by
  induction xs generalizing ys with
  | nil => simp [eq_comm]
  | cons x xs ih =>
      rw [List.mapM_cons, List.forall₂_cons_left_iff]
      simp only [Option.bind_eq_bind, Option.bind_eq_some_iff, ih, Option.pure_def,
        Option.some.injEq]
      constructor
      · rintro ⟨y, hy, others, hothers, rfl⟩
        exact ⟨y, others, hy, hothers, rfl⟩
      · rintro ⟨y, others, hy, hothers, rfl⟩
        exact ⟨y, hy, others, hothers, rfl⟩

/-- Lists that stand under labels are refused as if they were one. -/
theorem mapM_groups_eq_error_iff {γ : Type} {groups : List (γ × List α)} :
    (groups.mapM fun p => do return (p.1, ← p.2.mapM f)) = .error e ↔
      (groups.flatMap (·.2)).mapM f = .error e := by
  induction groups with
  | nil => simp [pure, Except.pure]
  | cons group groups ih =>
      simp only [List.mapM_cons, List.flatMap_cons, List.mapM_append, bind_eq_error_iff, ih]
      simp [pure, Except.pure, bind_eq_ok_iff]

end Lists

end BenchBoard
