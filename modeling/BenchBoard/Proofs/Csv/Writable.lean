import BenchBoard.Proofs.Csv.RoundTrip
import BenchBoard.Proofs.Text.Separators
/-!
# BenchBoard.Proofs.Csv.Writable

**Which texts a line can hold.** What is written reads back exactly when every field is
representable (`parse_format_iff`), and a field is representable when in front of the one or the
other quote, and at its end, it has runs of backslashes of even length only
(`representable_iff_writable`). The automaton of the writer is this condition, read from left to
right.

The second part follows single characters: a line is written of those of its fields, and a field
is read from those of its line.
-/

namespace BenchBoard.Csv

open BenchBoard.Text

variable {q : Quote} {quote c : Char} {text : List Char} {texts : List String} {line : String}

/-! ### Runs of backslashes -/

/-- How many backslashes stand at the end. -/
def finalRun (text : List Char) : Nat :=
  (text.reverse.takeWhile (· == '\\')).length

@[simp] theorem finalRun_nil : finalRun [] = 0 := rfl

theorem finalRun_append_singleton (text : List Char) (c : Char) :
    finalRun (text ++ [c]) = if c = '\\' then finalRun text + 1 else 0 := by
  by_cases hc : c = '\\'
  · simp [finalRun, hc]
  · simp [finalRun, hc]

/-- Directly before each `quote`, and at the end, there is an even number of backslashes. -/
def EvenRuns (quote : Char) (text : List Char) : Prop :=
  ∀ before after, text = before ++ after → after = [] ∨ after.head? = some quote →
    finalRun before % 2 = 0

theorem forall_split_cons {P : List Char → List Char → Prop} :
    (∀ before after, c :: text = before ++ after → P before after) ↔
      P [] (c :: text) ∧ ∀ before after, text = before ++ after → P (c :: before) after := by
  constructor
  · intro h
    refine ⟨h [] (c :: text) rfl, ?_⟩
    intro before after htext
    exact h (c :: before) after (by rw [htext, List.cons_append])
  · intro h before after htext
    rcases List.cons_eq_append_iff.1 htext with ⟨rfl, rfl⟩ | ⟨others, rfl, hothers⟩
    · exact h.1
    · exact h.2 others after hothers

/-- The automaton remembers of what it has seen whether it ends in an odd number of
backslashes. -/
theorem escapableFrom_iff (hquote : quote ≠ '\\') (seen text : List Char) :
    escapableFrom quote (finalRun seen % 2 == 1) text = true ↔
      ∀ before after, text = before ++ after → after = [] ∨ after.head? = some quote →
        finalRun (seen ++ before) % 2 = 0 := by
  induction text generalizing seen with
  | nil => simp [escapableFrom]
  | cons c text ih =>
      have hrest := ih (seen ++ [c])
      rw [finalRun_append_singleton] at hrest
      simp only [List.append_assoc, List.singleton_append] at hrest
      rw [forall_split_cons, ← hrest, List.append_nil, escapableFrom]
      by_cases hb : c = '\\'
      · -- The run goes on, and its parity changes.
        have hodd : ((finalRun seen + 1) % 2 == 1) = !(finalRun seen % 2 == 1) := by
          rw [Bool.eq_iff_iff]
          simp
          omega
        simp [hb, hodd, Ne.symm hquote]
      · -- The run ends here, and only before the quote its length matters.
        by_cases hc : c = quote
        · simp [hquote, hc]
        · simp [hb, hc]

/-- The automaton of the writer finds runs of odd length and nothing else. -/
theorem escapable_iff (hquote : quote ≠ '\\') :
    escapable quote text = true ↔ EvenRuns quote text :=
  escapableFrom_iff hquote [] text

/-- The text has even runs only, for one of the two quotes. -/
def Writable (text : String) : Prop :=
  ∃ q : Quote, EvenRuns q.char text.toList

theorem representable_iff_writable {text : String} :
    Representable text.toList ↔ Writable text := by
  unfold Representable Writable
  simp only [escapable_iff (Quote.char_ne_backslash _)]

/-- What is written reads back exactly when every field is representable. -/
theorem parse_format_iff :
    parse (format texts) = .ok texts ↔ ∀ text ∈ texts, Representable text.toList :=
  ⟨representable_of_parse, parse_format⟩

/-- Without backslashes there are no runs of odd length. -/
theorem representable_of_not_mem (h : '\\' ∉ text) : Representable text :=
  ⟨.double, escapable_of_not_mem _ h⟩

/-- The lists of texts that survive: those without runs of odd length, which all texts without
backslashes are. -/
theorem parse_format_iff_writable (texts : List String) :
    (parse (format texts) = .ok texts ↔ ∀ text ∈ texts, Writable text) ∧
      ((∀ text ∈ texts, '\\' ∉ text.toList) → parse (format texts) = .ok texts) := by
  refine ⟨?_, ?_⟩
  · rw [parse_format_iff]
    exact forall₂_congr fun _ _ => representable_iff_writable
  · intro h
    exact parse_format fun text htext => representable_of_not_mem (h text htext)

/-- No field, one empty field and blank fields survive. -/
theorem parse_format_of_blanks :
    parse (format []) = .ok [] ∧ parse (format [""]) = .ok [""] ∧
      parse (format [" ", "\t ", ""]) = .ok [" ", "\t ", ""] :=
  ⟨(parse_format_iff_writable []).2 (by simp),
    (parse_format_iff_writable [""]).2 (by simp),
    (parse_format_iff_writable [" ", "\t ", ""]).2 (by simp)⟩

/-! ### Characters of fields and lines -/

theorem mem_escape (h : c ∈ escape quote text) : c = '\\' ∨ c ∈ text := by
  induction text with
  | nil => cases h
  | cons d text ih =>
      rw [escape] at h
      split at h
      · rcases List.mem_cons.1 h with rfl | h
        · exact .inl rfl
        · rcases List.mem_cons.1 h with rfl | h
          · exact .inr List.mem_cons_self
          · exact (ih h).imp_right (List.mem_cons_of_mem _)
      · rcases List.mem_cons.1 h with rfl | h
        · exact .inr List.mem_cons_self
        · exact (ih h).imp_right (List.mem_cons_of_mem _)

theorem quoteFor_mem_reserved (text : List Char) : quoteFor text ∈ reserved := by
  unfold quoteFor
  split <;> decide

theorem mem_formatField {lone : Bool} (h : c ∈ formatField lone text) :
    c ∈ reserved ∨ c ∈ text := by
  unfold formatField at h
  split at h
  · rcases List.mem_cons.1 h with rfl | h
    · exact .inl (quoteFor_mem_reserved text)
    · rcases List.mem_append.1 h with h | h
      · rcases mem_escape h with rfl | h
        · exact .inl (by decide)
        · exact .inr h
      · rw [List.mem_singleton.1 h]
        exact .inl (quoteFor_mem_reserved text)
  · exact .inr h

/-- A line has reserved characters and those of its fields only. -/
theorem mem_format (h : c ∈ (format texts).toList) :
    c ∈ reserved ∨ ∃ text ∈ texts, c ∈ text.toList := by
  rw [format, String.toList_ofList, formatChars, mem_intercalate_iff] at h
  rcases h with ⟨hcomma, -⟩ | ⟨written, hwritten, hc⟩
  · rw [List.mem_singleton.1 hcomma]
    exact .inl (by decide)
  · simp only [List.map_map, List.mem_map, Function.comp_apply] at hwritten
    obtain ⟨text, htext, rfl⟩ := hwritten
    exact (mem_formatField hc).imp_right fun hc => ⟨text, htext, hc⟩

theorem Piece.value_subset_written (p : Piece q) : p.value ⊆ p.written := by
  cases p with
  | plain c ordinary => exact List.Subset.refl _
  | pair c =>
      rw [value]
      split
      · exact List.subset_cons_self _ _
      · exact List.Subset.refl _

theorem Segment.value_subset_written (s : Segment) : s.value ⊆ s.written := by
  cases s with
  | bare text hu => exact (trimChars_sublist text).subset
  | quoted before q body after hb ha =>
      intro c hc
      obtain ⟨p, hp, hc⟩ := List.mem_flatMap.1 hc
      have hbody : c ∈ body.written := List.mem_flatMap.2 ⟨p, hp, p.value_subset_written hc⟩
      simp [Segment.written, hbody]

/-- A field has characters of its line only. -/
theorem mem_of_parse (h : parse line = .ok texts) {text : String} (htext : text ∈ texts)
    (hc : c ∈ text.toList) : c ∈ line.toList := by
  rw [parse_eq_ok_iff] at h
  obtain ⟨values, hparse, rfl⟩ := h
  rw [parseChars_eq_ok_iff] at hparse
  rcases hparse with ⟨-, rfl⟩ | ⟨-, hfields⟩
  · cases htext
  · obtain ⟨segments, -, hline, rfl⟩ := exists_segments_of_fields hfields
    rw [List.map_map, List.mem_map] at htext
    obtain ⟨s, hs, rfl⟩ := htext
    rw [hline, render, mem_intercalate_iff]
    rw [Function.comp_apply, String.toList_ofList] at hc
    exact .inr ⟨s.written, List.mem_map_of_mem hs, s.value_subset_written hc⟩

end BenchBoard.Csv
