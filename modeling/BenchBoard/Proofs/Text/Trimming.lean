import BenchBoard.Text.Blank
/-!
# BenchBoard.Proofs.Text.Trimming

**What trimming removes and what it keeps.** Skipping blanks splits a text into blanks and
a rest that does not begin with one (`allBlank_append_dropBlank`, `head_dropBlank`). The
other lemmas say how skipping moves through a concatenation, and when a text has nothing
to trim.
-/

namespace BenchBoard.Text

variable {cs ds : List Char} {c : Char}

/-- What begins neither of two texts does not begin both together. -/
theorem head?_append_ne (hcs : cs.head? ≠ some c) (hds : ds.head? ≠ some c) :
    (cs ++ ds).head? ≠ some c := by
  cases cs with
  | nil => exact hds
  | cons d cs => exact hcs

/-! ### Blank texts -/

theorem allBlank_iff : allBlank cs = true ↔ ∀ c ∈ cs, isBlank c = true :=
  List.all_eq_true

theorem allBlank_append (cs ds : List Char) :
    allBlank (cs ++ ds) = (allBlank cs && allBlank ds) :=
  List.all_append

/-- A text with a character that is not blank is not blank. -/
theorem not_allBlank_of_mem (hc : c ∈ cs) (h : isBlank c = false) : allBlank cs = false := by
  cases hb : allBlank cs with
  | false => rfl
  | true =>
      rw [allBlank_iff] at hb
      rw [hb c hc] at h
      cases h

/-! ### Skipping blanks at the front -/

theorem dropBlank_cons_of_blank (h : isBlank c = true) : dropBlank (c :: cs) = dropBlank cs := by
  unfold dropBlank
  rw [List.dropWhile_cons_of_pos h]

theorem dropBlank_cons_of_not_blank (h : isBlank c = false) : dropBlank (c :: cs) = c :: cs := by
  unfold dropBlank
  rw [List.dropWhile_cons_of_neg (by simp [h])]

/-- A text is the blanks in front of it and what is left without them. -/
theorem allBlank_append_dropBlank (cs : List Char) :
    ∃ blanks, allBlank blanks = true ∧ cs = blanks ++ dropBlank cs :=
  ⟨cs.takeWhile isBlank, List.all_takeWhile, List.takeWhile_append_dropWhile.symm⟩

/-- What is left after skipping blanks does not begin with one. -/
theorem head_dropBlank (h : dropBlank cs = c :: ds) : isBlank c = false := by
  induction cs with
  | nil => cases h
  | cons d cs ih =>
      cases hd : isBlank d with
      | true =>
          rw [dropBlank_cons_of_blank hd] at h
          exact ih h
      | false =>
          rw [dropBlank_cons_of_not_blank hd] at h
          obtain ⟨rfl, -⟩ := List.cons.inj h
          exact hd

/-- Nothing is left to skip after skipping blanks. -/
theorem dropBlank_dropBlank (cs : List Char) : dropBlank (dropBlank cs) = dropBlank cs := by
  cases h : dropBlank cs with
  | nil => rfl
  | cons c ds => exact dropBlank_cons_of_not_blank (head_dropBlank h)

theorem dropBlank_append_of_allBlank (h : allBlank cs = true) :
    dropBlank (cs ++ ds) = dropBlank ds := by
  induction cs with
  | nil => rfl
  | cons c cs ih =>
      rw [allBlank_cons, Bool.and_eq_true] at h
      rw [List.cons_append, dropBlank_cons_of_blank h.1]
      exact ih h.2

/-- In front of a text that does not begin with a blank only the first part is touched. -/
theorem dropBlank_append (h : dropBlank ds = ds) :
    dropBlank (cs ++ ds) = dropBlank cs ++ ds := by
  induction cs with
  | nil => exact h
  | cons c cs ih =>
      cases hc : isBlank c with
      | true => rw [List.cons_append, dropBlank_cons_of_blank hc, dropBlank_cons_of_blank hc, ih]
      | false =>
          rw [List.cons_append, dropBlank_cons_of_not_blank hc, dropBlank_cons_of_not_blank hc]
          rfl

/-- Only a blank text is skipped as a whole. -/
theorem dropBlank_eq_nil_iff : dropBlank cs = [] ↔ allBlank cs = true := by
  induction cs with
  | nil => simp
  | cons c cs ih =>
      cases hc : isBlank c with
      | true => rw [dropBlank_cons_of_blank hc, ih, allBlank_cons, hc, Bool.true_and]
      | false => simp [dropBlank_cons_of_not_blank hc, hc]

/-- Blanks at the end are skipped if everything in front of them is. -/
theorem dropBlank_append_blank (hb : allBlank ds = true) (cs : List Char) :
    dropBlank (cs ++ ds) = if allBlank cs then [] else dropBlank cs ++ ds := by
  induction cs with
  | nil => simpa using dropBlank_eq_nil_iff.2 hb
  | cons c cs ih =>
      rw [List.cons_append, allBlank_cons]
      cases hc : isBlank c with
      | true => rw [dropBlank_cons_of_blank hc, dropBlank_cons_of_blank hc, ih, Bool.true_and]
      | false =>
          rw [dropBlank_cons_of_not_blank hc, dropBlank_cons_of_not_blank hc]
          rfl

/-- A text has no blanks to skip exactly when it does not begin with one. -/
theorem dropBlank_eq_self_iff : dropBlank cs = cs ↔ cs.head?.any isBlank = false := by
  cases cs with
  | nil => simp
  | cons c cs =>
      constructor
      · intro h
        simpa using head_dropBlank h
      · intro h
        exact dropBlank_cons_of_not_blank (by simpa using h)

/-- A part of what is left after skipping blanks has none to skip either. -/
theorem dropBlank_takeWhile_dropBlank (p : Char → Bool) (cs : List Char) :
    dropBlank ((dropBlank cs).takeWhile p) = (dropBlank cs).takeWhile p := by
  cases h : dropBlank cs with
  | nil => rfl
  | cons c ds =>
      have hc := head_dropBlank h
      rw [dropBlank_eq_self_iff]
      cases hp : p c <;> simp [hp, hc]

/-! ### Trimming -/

theorem dropBlankEnd_sublist (cs : List Char) : List.Sublist (dropBlankEnd cs) cs := by
  rw [← List.reverse_sublist, dropBlankEnd, List.reverse_reverse]
  exact List.dropWhile_sublist isBlank

/-- Trimming only takes characters away. -/
theorem trimChars_sublist (cs : List Char) : List.Sublist (trimChars cs) cs :=
  (dropBlankEnd_sublist _).trans (List.dropWhile_sublist isBlank)

/-- No blank is left at the end. -/
theorem getLast?_trimChars (cs : List Char) : (trimChars cs).getLast?.any isBlank = false := by
  rw [trimChars, dropBlankEnd, List.getLast?_reverse]
  exact dropBlank_eq_self_iff.1 (dropBlank_dropBlank _)

/-- A text has nothing to trim at its end when it does not end in a blank. -/
theorem dropBlankEnd_eq_self (h : cs.getLast?.any isBlank = false) : dropBlankEnd cs = cs := by
  have hr : dropBlank cs.reverse = cs.reverse := by
    rw [dropBlank_eq_self_iff, List.head?_reverse]
    exact h
  unfold dropBlankEnd
  unfold dropBlank at hr
  rw [hr, List.reverse_reverse]

/-- Blanks at the end are trimmed together with those in front of them. -/
theorem dropBlankEnd_append_of_allBlank (hb : allBlank ds = true) (cs : List Char) :
    dropBlankEnd (cs ++ ds) = dropBlankEnd cs := by
  have hr : allBlank ds.reverse = true := by
    rw [allBlank, List.all_reverse]
    exact hb
  have hdrop : dropBlank (ds.reverse ++ cs.reverse) = dropBlank cs.reverse :=
    dropBlank_append_of_allBlank hr
  unfold dropBlank at hdrop
  rw [dropBlankEnd, List.reverse_append, hdrop, dropBlankEnd]

/-- A text is trimmed when no blank stands at either end. -/
theorem trimChars_eq_self (first : cs.head?.any isBlank = false)
    (last : cs.getLast?.any isBlank = false) : trimChars cs = cs := by
  unfold trimChars
  rw [dropBlank_eq_self_iff.2 first, dropBlankEnd_eq_self last]

/-! ### The end seen from the front -/

theorem toList_trimEnd (text : String) : (trimEnd text).toList = dropBlankEnd text.toList :=
  String.toList_ofList

theorem dropBlankEnd_cons (c : Char) (cs : List Char) :
    dropBlankEnd (c :: cs) = if allBlank (c :: cs) then [] else c :: dropBlankEnd cs := by
  have hend : ∀ ds : List Char, dropBlankEnd ds = (dropBlank ds.reverse).reverse := fun _ => rfl
  rw [hend, hend, List.reverse_cons, allBlank_cons]
  cases hc : isBlank c with
  | true =>
      have hreverse : allBlank cs.reverse = allBlank cs := List.all_reverse
      rw [dropBlank_append_blank (by simp [hc]), hreverse, Bool.true_and]
      split <;> simp
  | false =>
      rw [dropBlank_append (dropBlank_cons_of_not_blank hc)]
      simp

/-- Up to a character that is not blank nothing is trimmed. -/
theorem prefix_dropBlankEnd_append (h : isBlank c = false) (cs ds : List Char) :
    cs <+: dropBlankEnd (cs ++ c :: ds) := by
  induction cs with
  | nil => exact List.nil_prefix
  | cons d cs ih =>
      have hblank : allBlank (d :: (cs ++ c :: ds)) = false :=
        not_allBlank_of_mem (by simp) h
      rw [List.cons_append, dropBlankEnd_cons, hblank]
      exact List.cons_prefix_cons.2 ⟨rfl, ih⟩

theorem dropBlankEnd_of_allBlank (h : allBlank cs = true) : dropBlankEnd cs = [] := by
  cases cs with
  | nil => rfl
  | cons c cs => rw [dropBlankEnd_cons, h, if_pos rfl]

/-- Trimming the end of a part at the end is trimming the end of the whole. -/
theorem dropBlankEnd_drop (count : Nat) (cs : List Char) :
    dropBlankEnd (cs.drop count) = (dropBlankEnd cs).drop count := by
  induction cs generalizing count with
  | nil => simp
  | cons c cs ih =>
      cases count with
      | zero => rfl
      | succ count =>
          rw [List.drop_succ_cons, ih, dropBlankEnd_cons]
          cases hblank : allBlank (c :: cs) with
          | false => rfl
          | true =>
              rw [allBlank_cons, Bool.and_eq_true] at hblank
              simp [dropBlankEnd_of_allBlank hblank.2]

end BenchBoard.Text
