import BenchBoard.Csv.Format
import BenchBoard.Proofs.Csv.Reading
/-!
# BenchBoard.Proofs.Csv.RoundTrip

**What was read can be written and read again.** The invariant is that a field which was
read from a quoted segment is `escapable` in the quote of that segment: in front of the
quote and at the end a body has pairs only, so its runs of backslashes have even length
there. A bare field has no backslashes at all.

Conversely, escaping an `escapable` text writes the body of that text
(`exists_body_of_escapable`). So every written field is a segment, and the line is read by
the theorem about the grammar, whatever the neighbours of the field are.
-/

namespace BenchBoard.Csv

open BenchBoard.Text

variable {q : Quote} {c : Char} {text : List Char} {odd : Bool}

/-! ### Runs of backslashes -/

@[simp] theorem escapableFrom_backslash (quote : Char) (odd : Bool) (cs : List Char) :
    escapableFrom quote odd ('\\' :: cs) = escapableFrom quote (!odd) cs := by
  rw [escapableFrom, if_pos rfl]

@[simp] theorem escapableFrom_quote (q : Quote) (odd : Bool) (cs : List Char) :
    escapableFrom q.char odd (q.char :: cs) = (!odd && escapableFrom q.char false cs) := by
  rw [escapableFrom, if_neg q.char_ne_backslash]
  cases odd <;> simp

theorem escapableFrom_other {quote : Char} (odd : Bool) {cs : List Char} (hq : c ≠ quote)
    (hb : c ≠ '\\') : escapableFrom quote odd (c :: cs) = escapableFrom quote false cs := by
  rw [escapableFrom, if_neg hb, if_neg (fun h => hq h.1)]

/-- **The invariant of what is read.** The content of a body can be written in the quote that
it was written in. -/
theorem escapable_value (body : Body q) : escapable q.char body.value = true := by
  unfold escapable
  induction body with
  | nil => rfl
  | cons p body ih =>
      cases p with
      | plain c ordinary =>
          show escapableFrom q.char false (c :: Body.value body) = true
          rw [escapableFrom_other false ordinary.1 ordinary.2, ih]
      | pair c =>
          -- The backslash of a pair vanishes before the quote, is completed to a run of two, or
          -- is cut off by a character that is neither.
          by_cases hq : c = q.char
          · subst hq
            simpa [Piece.value] using ih
          · by_cases hb : c = '\\'
            · subst hb
              simpa [Piece.value, hq] using ih
            · simpa [Piece.value, hq, escapableFrom_other true hq hb] using ih

/-- A text without backslashes can be written in either quote. -/
theorem escapable_of_not_mem (quote : Char) (h : '\\' ∉ text) : escapable quote text = true := by
  unfold escapable
  induction text with
  | nil => rfl
  | cons c text ih =>
      rw [List.mem_cons, not_or] at h
      obtain ⟨hc, htext⟩ := h
      rw [escapableFrom, if_neg (Ne.symm hc), if_neg (by simp)]
      exact ih htext

/-! ### Escaping writes a body -/

theorem escape_cons_quote (quote : Char) (cs : List Char) :
    escape quote (quote :: cs) = '\\' :: quote :: escape quote cs := by
  rw [escape, if_pos rfl]

theorem escape_cons_other {quote : Char} (h : c ≠ quote) (cs : List Char) :
    escape quote (c :: cs) = c :: escape quote cs := by
  rw [escape, if_neg h]

/-- The body that `escape` writes, for a text after a run of backslashes of even length and
for one after a run of odd length, whose last backslash is still to be paired. -/
theorem exists_body_of_escapableFrom (text : List Char) :
    (escapableFrom q.char false text = true →
      ∃ body : Body q, body.written = escape q.char text ∧ body.value = text) ∧
    (escapableFrom q.char true text = true →
      ∃ body : Body q, body.written = '\\' :: escape q.char text ∧
        body.value = '\\' :: text) := by
  induction text with
  | nil => exact ⟨fun _ => ⟨[], rfl, rfl⟩, fun h => by cases h⟩
  | cons c text ih =>
      by_cases hb : c = '\\'
      · -- The backslash begins a pair or ends the one that is pending.
        subst hb
        have hescape := escape_cons_other (Ne.symm q.char_ne_backslash) text
        constructor
        · intro h
          rw [escapableFrom_backslash] at h
          obtain ⟨body, hw, hv⟩ := ih.2 h
          exact ⟨body, by rw [hw, hescape], hv⟩
        · intro h
          rw [escapableFrom_backslash] at h
          obtain ⟨body, hw, hv⟩ := ih.1 h
          refine ⟨.pair '\\' :: body, ?_, ?_⟩
          · rw [Body.written_cons, hw, hescape]
            rfl
          · rw [Body.value_cons, hv, Piece.value, if_neg (Ne.symm q.char_ne_backslash)]
            rfl
      · by_cases hq : c = q.char
        · subst hq
          have hescape := escape_cons_quote q.char text
          constructor
          · intro h
            rw [escapableFrom_quote] at h
            obtain ⟨body, hw, hv⟩ := ih.1 (by simpa using h)
            refine ⟨.pair q.char :: body, ?_, ?_⟩
            · rw [Body.written_cons, hw, hescape]
              rfl
            · rw [Body.value_cons, hv, Piece.value, if_pos rfl]
              rfl
          · -- A pending backslash would swallow the quote, which is what the automaton refuses.
            intro h
            rw [escapableFrom_quote] at h
            cases h
        · have hescape := escape_cons_other hq text
          constructor
          · intro h
            rw [escapableFrom_other false hq hb] at h
            obtain ⟨body, hw, hv⟩ := ih.1 h
            refine ⟨.plain c ⟨hq, hb⟩ :: body, ?_, ?_⟩
            · rw [Body.written_cons, hw, hescape]
              rfl
            · rw [Body.value_cons, hv]
              rfl
          · intro h
            rw [escapableFrom_other true hq hb] at h
            obtain ⟨body, hw, hv⟩ := ih.1 h
            -- The character completes the pair of the pending backslash.
            refine ⟨.pair c :: body, ?_, ?_⟩
            · rw [Body.written_cons, hw, hescape]
              rfl
            · rw [Body.value_cons, hv, Piece.value, if_neg hq]
              rfl

/-- Escaping a text that can be escaped writes a body with that content. -/
theorem exists_body_of_escapable (h : escapable q.char text = true) :
    ∃ body : Body q, body.written = escape q.char text ∧ body.value = text :=
  (exists_body_of_escapableFrom text).1 h

/-! ### Fields that can be written -/

/-- Can the text be written between quotes of one of the two kinds? -/
def Representable (text : List Char) : Prop :=
  ∃ q : Quote, escapable q.char text = true

/-- A field that was read can be written. -/
theorem representable_value (s : Segment) : Representable s.value := by
  cases s with
  | bare text hu =>
      refine ⟨.double, escapable_of_not_mem _ ?_⟩
      intro hmem
      exact hu _ ((trimChars_sublist text).subset hmem) (by decide)
  | quoted before q body after hb ha => exact ⟨q, escapable_value body⟩

/-- The quote that is chosen is one in which the text can be written. -/
theorem exists_quoteFor (h : Representable text) :
    ∃ q : Quote, quoteFor text = q.char ∧ escapable q.char text = true := by
  unfold quoteFor
  split
  · rename_i hcond
    refine ⟨.double, rfl, ?_⟩
    rw [Bool.or_eq_true, Bool.not_eq_true'] at hcond
    rcases hcond with hd | hs
    · exact hd
    · -- The single quote cannot be used, so the quote of the hypothesis is the double one.
      obtain ⟨q, hq⟩ := h
      cases q with
      | double => exact hq
      | single => exact absurd hq (by simp [Quote.char, hs])
  · rename_i hcond
    rw [Bool.or_eq_true, not_or, Bool.not_eq_true', Bool.not_eq_false] at hcond
    exact ⟨.single, rfl, hcond.2⟩

/-! ### Written fields are segments -/

/-- A field that needs no quotes is a bare text with nothing to trim. -/
theorem exists_segment_of_not_needsQuotes {lone : Bool} (h : needsQuotes lone text = false) :
    ∃ s : Segment, s.written = text ∧ s.value = text := by
  simp only [needsQuotes, Bool.or_eq_false_iff, Bool.not_eq_false'] at h
  obtain ⟨⟨⟨-, hbare⟩, hfirst⟩, hlast⟩ := h
  have hu : ∀ c ∈ text, c ∉ reserved :=
    fun c hc => (isBare_iff c).1 (List.all_eq_true.1 hbare c hc)
  exact ⟨.bare text hu, rfl, trimChars_eq_self hfirst hlast⟩

/-- A field between quotes is a quoted segment. -/
theorem exists_segment_of_quoted (h : Representable text) :
    ∃ s : Segment, s.written = quoted text ∧ s.value = text := by
  obtain ⟨q, hquote, hescapable⟩ := exists_quoteFor h
  obtain ⟨body, hw, hv⟩ := exists_body_of_escapable hescapable
  refine ⟨.quoted [] q body [] rfl rfl, ?_, hv⟩
  rw [quoted, hquote, ← hw]
  rfl

/-- A field is written as a segment that stands for it. -/
theorem exists_segment_of_formatField (lone : Bool) (h : Representable text) :
    ∃ s : Segment, s.written = formatField lone text ∧ s.value = text := by
  unfold formatField
  split
  · exact exists_segment_of_quoted h
  · rename_i hquotes
    exact exists_segment_of_not_needsQuotes (by simpa using hquotes)

/-- Fields are written as segments that stand for them. -/
theorem exists_segments_of_formatField (lone : Bool) {texts : List (List Char)}
    (h : ∀ text ∈ texts, Representable text) :
    ∃ segments : List Segment, segments.map Segment.written = texts.map (formatField lone) ∧
      segments.map Segment.value = texts := by
  induction texts with
  | nil => exact ⟨[], rfl, rfl⟩
  | cons text texts ih =>
      obtain ⟨s, hw, hv⟩ := exists_segment_of_formatField lone (h text List.mem_cons_self)
      obtain ⟨segments, hws, hvs⟩ := ih fun t ht => h t (List.mem_cons_of_mem _ ht)
      exact ⟨s :: segments, by simp [hw, hws], by simp [hv, hvs]⟩

/-! ### A written line is not blank -/

theorem not_allBlank_quoted (text : List Char) : allBlank (quoted text) = false := by
  refine not_allBlank_of_mem (List.mem_cons_self : quoteFor text ∈ quoted text) ?_
  unfold quoteFor
  split <;> rfl

/-- The only field of a line is not written as blanks: it would be no field then. -/
theorem not_allBlank_formatField_lone (text : List Char) :
    allBlank (formatField true text) = false := by
  unfold formatField
  split
  · exact not_allBlank_quoted text
  · rename_i hquotes
    simp only [needsQuotes, Bool.true_and, Bool.or_eq_true, not_or] at hquotes
    obtain ⟨⟨⟨hne, -⟩, hfirst⟩, -⟩ := hquotes
    cases text with
    | nil => simp at hne
    | cons c text => exact not_allBlank_of_mem List.mem_cons_self (by simpa using hfirst)

theorem not_allBlank_formatChars {texts : List (List Char)} (hne : texts ≠ []) :
    allBlank (formatChars texts) = false := by
  unfold formatChars
  match texts with
  | [text] => simpa using not_allBlank_formatField_lone text
  | text :: next :: texts =>
      rw [List.map_cons, List.map_cons, List.intercalate_cons_cons]
      exact not_allBlank_of_mem (by simp : ',' ∈ _) rfl

/-! ### Round trips -/

/-- Fields that can be written are read again. -/
theorem parseChars_formatChars {texts : List (List Char)}
    (h : ∀ text ∈ texts, Representable text) : parseChars (formatChars texts) = .ok texts := by
  rw [parseChars_eq_ok_iff]
  by_cases hne : texts = []
  · subst hne
    exact .inl ⟨rfl, rfl⟩
  · obtain ⟨segments, hw, hv⟩ := exists_segments_of_formatField (texts.length == 1) h
    refine .inr ⟨not_allBlank_formatChars hne, fields_eq_ok_iff.2 ⟨segments, ?_, ?_, hv.symm⟩⟩
    · intro hnil
      subst hnil
      exact hne hv.symm
    · rw [formatChars, render, hw]

/-- The fields of a line can be written. -/
theorem representable_of_parse {line : String} {texts : List String}
    (h : parse line = .ok texts) : ∀ text ∈ texts, Representable text.toList := by
  intro text htext
  rw [parse_eq_ok_iff] at h
  obtain ⟨values, hparse, rfl⟩ := h
  rw [parseChars_eq_ok_iff] at hparse
  rcases hparse with ⟨-, rfl⟩ | ⟨-, hfields⟩
  · cases htext
  · obtain ⟨segments, -, -, rfl⟩ := exists_segments_of_fields hfields
    rw [List.map_map, List.mem_map] at htext
    obtain ⟨s, -, rfl⟩ := htext
    simpa using representable_value s

/-- Strings that can be written are read again. -/
theorem parse_format {texts : List String} (h : ∀ text ∈ texts, Representable text.toList) :
    parse (format texts) = .ok texts := by
  rw [parse_eq_ok_iff]
  refine ⟨texts.map String.toList, ?_, by simp [Function.comp_def]⟩
  rw [format, String.toList_ofList]
  apply parseChars_formatChars
  intro text htext
  obtain ⟨t, ht, rfl⟩ := List.mem_map.1 htext
  exact h t ht

/-- **Round trip of lines.** The fields of any line that is accepted are read again from the
line that `format` makes of them. -/
theorem parse_format_of_parse {line : String} {texts : List String}
    (h : parse line = .ok texts) : parse (format texts) = .ok texts :=
  parse_format (representable_of_parse h)

/-- A line with both quotes, escaped quotes, runs of backslashes and an empty last field. -/
theorem parse_format_of_mixed_quotes :
    parse "'a\\\"b' ,\t\"x\\\\\\\"\", two words ,\"it\\'s\"," =
      .ok ["a\\\"b", "x\\\\\"", "two words", "it\\'s", ""] ∧
    parse (format ["a\\\"b", "x\\\\\"", "two words", "it\\'s", ""]) =
      .ok ["a\\\"b", "x\\\\\"", "two words", "it\\'s", ""] := by
  have hparse : parse "'a\\\"b' ,\t\"x\\\\\\\"\", two words ,\"it\\'s\"," =
      .ok ["a\\\"b", "x\\\\\"", "two words", "it\\'s", ""] := by cbv
  exact ⟨hparse, parse_format_of_parse hparse⟩

end BenchBoard.Csv
