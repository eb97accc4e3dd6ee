import BenchBoard.Text.Lines
/-!
# BenchBoard.Proofs.Text.Lines

**What the lines of a text are, apart from the reader.** `Lined` says how a text is put together
from lines and line ends: a line has no line feed, a carriage return belongs to the line end
when a line feed follows it, and the last line may lack its end if there is anything on it.
`lined_iff` says that the reader finds these lines and no others.

A text can be cut off after any of its line ends. The part in front of the cut (`firstLines`) has
the first of the lines and no others (`lines_firstLines`).
-/

namespace BenchBoard.Text

/-- The text consists of these lines with an end after each. -/
inductive Lined : List Char → List (List Char) → Prop
  | nil : Lined [] []
  /-- The last line, without an end. -/
  | last {line} : line ≠ [] → '\n' ∉ line → Lined line [line]
  /-- A line that ends in a line feed alone. -/
  | feed {line rest ls} : '\n' ∉ line → line.getLast? ≠ some '\r' → Lined rest ls →
      Lined (line ++ '\n' :: rest) (line :: ls)
  /-- A line that ends in a carriage return and a line feed. -/
  | returnFeed {line rest ls} : '\n' ∉ line → Lined rest ls →
      Lined (line ++ '\r' :: '\n' :: rest) (line :: ls)

variable {cs held line : List Char} {ls : List (List Char)}

/-! ### Reading a line -/

theorem linesFrom_cons {c : Char} (h : c ≠ '\n') (held cs : List Char) :
    linesFrom held (c :: cs) = linesFrom (c :: held) cs := by
  rw [linesFrom]
  intro hc
  exact h hc

theorem linesFrom_append (h : '\n' ∉ line) (held rest : List Char) :
    linesFrom held (line ++ rest) = linesFrom (line.reverse ++ held) rest := by
  induction line generalizing held with
  | nil => rfl
  | cons c line ih =>
      rw [List.mem_cons, not_or] at h
      rw [List.cons_append, linesFrom_cons (Ne.symm h.1), ih h.2]
      simp

/-- A line is read up to its line feed. -/
theorem lines_append_feed (h : '\n' ∉ line) (rest : List Char) :
    lines (line ++ '\n' :: rest) = (dropReturn line.reverse).reverse :: lines rest := by
  unfold lines
  rw [linesFrom_append h, List.append_nil, linesFrom]

/-- A text without a line feed is one line, unless it is empty. -/
theorem lines_of_not_mem (hne : line ≠ []) (h : '\n' ∉ line) : lines line = [line] := by
  have hread := linesFrom_append h [] []
  rw [List.append_nil, List.append_nil] at hread
  rw [lines, hread, linesFrom]
  simp [hne]

theorem dropReturn_of_head?_ne (h : held.head? ≠ some '\r') : dropReturn held = held := by
  unfold dropReturn
  split
  · simp at h
  · rfl

theorem lines_append_returnFeed (h : '\n' ∉ line) (rest : List Char) :
    lines (line ++ '\r' :: '\n' :: rest) = line :: lines rest := by
  have hline : '\n' ∉ line ++ ['\r'] := by simp [h]
  have hread := lines_append_feed hline rest
  rw [List.append_assoc] at hread
  simpa [dropReturn] using hread

/-! ### The reader and the relation -/

/-- The reader finds the lines of which a text is put together. -/
theorem Lined.lines_eq (h : Lined cs ls) : lines cs = ls := by
  induction h with
  | nil => rfl
  | last hne hline => exact lines_of_not_mem hne hline
  | feed hline hlast hrest ih =>
      rw [lines_append_feed hline, dropReturn_of_head?_ne (by simpa using hlast), ih]
      simp
  | returnFeed hline hrest ih => rw [lines_append_returnFeed hline, ih]

/-- What has been read of a line belongs to the first of the lines that are found. -/
theorem lined_linesFrom (h : '\n' ∉ held) (cs : List Char) :
    Lined (held.reverse ++ cs) (linesFrom held cs) := by
  fun_induction linesFrom held cs with
  | case1 held hempty =>
      rw [List.isEmpty_iff.1 hempty]
      exact .nil
  | case2 held hne =>
      rw [List.append_nil]
      exact .last (by simpa using hne) (by simpa using h)
  | case3 held cs ih =>
      have hrest : Lined cs (linesFrom [] cs) := ih List.not_mem_nil
      by_cases hreturn : held.head? = some '\r'
      · obtain ⟨line, rfl⟩ := List.head?_eq_some_iff.1 hreturn
        have hline : '\n' ∉ line.reverse := by simpa using h
        simpa [dropReturn] using Lined.returnFeed hline hrest
      · rw [dropReturn_of_head?_ne hreturn]
        exact .feed (by simpa using h) (by simpa using hreturn) hrest
  | case4 held c cs hc ih =>
      have hheld : '\n' ∉ c :: held := by
        rw [List.mem_cons, not_or]
        exact ⟨fun heq => hc heq.symm, h⟩
      simpa using ih hheld

/-- No line has a line feed. -/
theorem Lined.not_mem_feed (h : Lined cs ls) : ∀ line ∈ ls, '\n' ∉ line := by
  induction h with
  | nil => simp
  | last hne hline => simpa using hline
  | feed hline hlast hrest ih => exact List.forall_mem_cons.2 ⟨hline, ih⟩
  | returnFeed hline hrest ih => exact List.forall_mem_cons.2 ⟨hline, ih⟩

theorem length_withoutMark_le (cs : List Char) : (withoutMark cs).length ≤ cs.length := by
  cases cs with
  | nil => exact Nat.le_refl 0
  | cons c cs =>
      rw [withoutMark]
      split
      · exact Nat.le_succ _
      · exact Nat.le_refl _

/-- No text has more lines than characters. -/
theorem Lined.length_le (h : Lined cs ls) : ls.length ≤ cs.length := by
  induction h with
  | nil => exact Nat.le_refl 0
  | last hne hline => exact List.length_pos_iff.2 hne
  | feed hline hlast hrest ih =>
      simp only [List.length_cons, List.length_append]
      omega
  | returnFeed hline hrest ih =>
      simp only [List.length_cons, List.length_append]
      omega

theorem lined_iff : Lined cs ls ↔ lines cs = ls := by
  constructor
  · exact Lined.lines_eq
  · rintro rfl
    exact lined_linesFrom List.not_mem_nil cs

/-! ### The first lines of a text -/

/-- The first lines of a text with their ends, all of them if it has fewer. -/
def firstLines : Nat → List Char → List Char
  | 0, _ => []
  | _ + 1, [] => []
  | count + 1, c :: cs => c :: firstLines (if c = '\n' then count else count + 1) cs

theorem firstLines_isPrefix (count : Nat) (cs : List Char) : firstLines count cs <+: cs := by
  fun_induction firstLines count cs with
  | case1 => exact List.nil_prefix
  | case2 => exact List.nil_prefix
  | case3 count c cs ih => exact List.cons_prefix_cons.2 ⟨rfl, ih⟩

/-- The part of a text that has its first lines is read as these lines. -/
theorem linesFrom_firstLines (count : Nat) (held cs : List Char) :
    linesFrom held (firstLines (count + 1) cs) = (linesFrom held cs).take (count + 1) := by
  induction cs generalizing count held with
  | nil =>
      rw [firstLines, List.take_of_length_le]
      unfold linesFrom
      split <;> simp
  | cons c cs ih =>
      rw [firstLines]
      by_cases hc : c = '\n'
      · subst hc
        rw [if_pos rfl, linesFrom, linesFrom, List.take_succ_cons]
        congr 1
        cases count with
        | zero => rw [firstLines, linesFrom, List.take_zero]; rfl
        | succ count => exact ih count []
      · rw [if_neg hc, linesFrom_cons hc, linesFrom_cons hc, ih]

theorem lines_firstLines (count : Nat) (cs : List Char) :
    lines (firstLines count cs) = (lines cs).take count := by
  cases count with
  | zero => rw [firstLines, lines_nil, List.take_zero]
  | succ count => exact linesFrom_firstLines count [] cs

/-- A byte order mark stands on the first line. -/
theorem withoutMark_firstLines (count : Nat) (cs : List Char) :
    withoutMark (firstLines count cs) = firstLines count (withoutMark cs) := by
  cases count with
  | zero => rw [firstLines, firstLines, withoutMark]
  | succ count =>
      cases cs with
      | nil => rfl
      | cons c cs =>
          rw [firstLines, withoutMark, withoutMark]
          split
          · rename_i hc
            rw [if_neg (by rw [hc]; decide)]
          · rw [firstLines]

end BenchBoard.Text
