import BenchBoard.Csv.Line
import BenchBoard.Proofs.Text.Trimming
/-!
# BenchBoard.Proofs.Csv.Grammar

**The grammar of a line, apart from its reader.** A line is written as segments with a
comma between each two. A segment is either bare text or a quoted body with blanks around
it, and a body is a sequence of units. The trees of this grammar carry their own side
conditions, so every tree has a text (`written`) and a meaning (`value`) and no tree has to
be checked.

Main results:

* `Segment.written_append_inj`: where a segment ends is determined by the text, and so is
  the whole tree of the segment.
* `render_injective`: a line is written by one list of segments at most.
* `render_eq_append_comma_iff`: a comma at the end of a line is the comma in front of one
  more segment, which is bare and empty.
-/

namespace BenchBoard.Csv

open BenchBoard.Text

/-! ### Units of a quoted body -/

/-- The two kinds of quotes. -/
inductive Quote
  | double
  | single
  deriving DecidableEq, Repr

/-- The character that opens and closes a body. -/
def Quote.char : Quote → Char
  | double => '"'
  | single => '\''

variable {q : Quote}

@[simp] theorem Quote.char_ne_backslash (q : Quote) : q.char ≠ '\\' := by
  cases q <;> decide

@[simp] theorem Quote.char_ne_comma (q : Quote) : q.char ≠ ',' := by
  cases q <;> decide

@[simp] theorem Quote.isBlank_char (q : Quote) : isBlank q.char = false := by
  cases q <;> rfl

@[simp] theorem Quote.isQuote_char (q : Quote) : isQuote q.char = true := by
  cases q <;> rfl

theorem Quote.char_injective {q q' : Quote} (h : q.char = q'.char) : q = q' := by
  cases q <;> cases q' <;> first | rfl | exact absurd h (by decide)

/-- Every quote character is one of the two. -/
theorem exists_quote_of_isQuote {c : Char} (h : isQuote c = true) : ∃ q : Quote, q.char = c := by
  simp only [isQuote, Bool.or_eq_true, beq_iff_eq] at h
  rcases h with rfl | rfl
  · exact ⟨.double, rfl⟩
  · exact ⟨.single, rfl⟩

/-- One unit of a body between quotes. -/
inductive Piece (q : Quote)
  /-- A character on its own: neither the quote nor a backslash. -/
  | plain (c : Char) (ordinary : c ≠ q.char ∧ c ≠ '\\')
  /-- A backslash and any character after it. -/
  | pair (c : Char)

namespace Piece

/-- The unit as it stands in a line. -/
def written : Piece q → List Char
  | plain c _ => [c]
  | pair c => ['\\', c]

/-- What the unit stands for: an escaped quote for the quote, any other for itself. -/
def value : Piece q → List Char
  | plain c _ => [c]
  | pair c => if c = q.char then [c] else ['\\', c]

end Piece

/-- The body of a quoted segment. -/
abbrev Body (q : Quote) := List (Piece q)

namespace Body

/-- The body as it stands in a line. -/
def written (body : Body q) : List Char :=
  body.flatMap Piece.written

/-- The content of the field. -/
def value (body : Body q) : List Char :=
  body.flatMap Piece.value

@[simp] theorem written_nil : written ([] : Body q) = [] := rfl

@[simp] theorem written_cons (p : Piece q) (body : Body q) :
    written (p :: body) = p.written ++ written body := rfl

@[simp] theorem value_nil : value ([] : Body q) = [] := rfl

@[simp] theorem value_cons (p : Piece q) (body : Body q) :
    value (p :: body) = p.value ++ value body := rfl

end Body

/-! ### Segments -/

/-- The characters that only stand in quoted segments, and the comma between segments. -/
def reserved : List Char :=
  [',', '"', '\'', '\\']

/-- Blanks are not reserved. -/
theorem not_mem_reserved_of_isBlank {c : Char} (h : isBlank c = true) : c ∉ reserved := by
  intro hmem
  simp only [reserved, List.mem_cons, List.not_mem_nil, or_false] at hmem
  rcases hmem with rfl | rfl | rfl | rfl <;> exact absurd h (by decide)

/-- What stands between two commas of a line. -/
inductive Segment
  /-- Text without reserved characters. -/
  | bare (text : List Char) (unreserved : ∀ c ∈ text, c ∉ reserved)
  /-- A body between two quotes of one kind, with blanks around them. -/
  | quoted (before : List Char) (q : Quote) (body : Body q) (after : List Char)
      (blank_before : allBlank before = true) (blank_after : allBlank after = true)

namespace Segment

/-- The segment as it stands in a line. -/
def written : Segment → List Char
  | bare text _ => text
  | quoted before q body after _ _ => before ++ q.char :: (body.written ++ q.char :: after)

/-- The field that the segment stands for. -/
def value : Segment → List Char
  | bare text _ => trimChars text
  | quoted _ _ body _ _ _ => body.value

/-- The field as a string. -/
def text (s : Segment) : String :=
  String.ofList s.value

/-- The segment of an empty field without quotes. -/
def empty : Segment :=
  bare [] (by simp)

@[simp] theorem written_empty : empty.written = [] := rfl

@[simp] theorem text_empty : empty.text = "" := rfl

end Segment

/-! ### Lines -/

/-- The line that the segments write. -/
def render (segments : List Segment) : List Char :=
  [','].intercalate (segments.map Segment.written)

/-- The line is these segments, one or more of them, with commas between them. -/
def Derives (line : String) (segments : List Segment) : Prop :=
  segments ≠ [] ∧ line.toList = render segments

/-- What the segments after the first add to a line. -/
def renderRest : List Segment → List Char
  | [] => []
  | s :: segments => ',' :: (s.written ++ renderRest segments)

/-- A line is its first segment and what the others add. -/
theorem render_cons (s : Segment) (segments : List Segment) :
    render (s :: segments) = s.written ++ renderRest segments := by
  induction segments generalizing s with
  | nil => simp [render, renderRest]
  | cons t segments ih =>
      have hstep : render (s :: t :: segments) = s.written ++ ',' :: render (t :: segments) := by
        simp [render, List.intercalate_cons_cons]
      rw [hstep, ih, renderRest]

/-- What can follow a segment in a line: nothing, or the comma in front of the next. -/
def Follows (rest : List Char) : Prop :=
  rest = [] ∨ ∃ cs, rest = ',' :: cs

theorem follows_renderRest (segments : List Segment) : Follows (renderRest segments) := by
  cases segments with
  | nil => exact .inl rfl
  | cons s segments => exact .inr ⟨_, rfl⟩

theorem dropBlank_of_follows {rest : List Char} (h : Follows rest) : dropBlank rest = rest := by
  rcases h with rfl | ⟨cs, rfl⟩
  · rfl
  · exact dropBlank_cons_of_not_blank rfl

/-! ### A text has one tree

From the inside out: a body is determined together with what follows its closing quote, a
segment together with what follows it, and so the segments of a line one after the other. -/

/-- A body ends at its first quote that is no part of a pair. -/
theorem Body.written_append_inj {body body' : Body q} {rest rest' : List Char}
    (h : body.written ++ q.char :: rest = body'.written ++ q.char :: rest') :
    body = body' ∧ rest = rest' := by
  -- A quote, a backslash and an ordinary character tell an end, a pair and a plain unit apart.
  induction body generalizing body' with
  | nil =>
      cases body' with
      | nil => exact ⟨rfl, (List.cons.inj h).2⟩
      | cons p body' =>
          cases p with
          | plain c ordinary => exact absurd (List.cons.inj h).1.symm ordinary.1
          | pair c => exact absurd (List.cons.inj h).1 q.char_ne_backslash
  | cons p body ih =>
      cases body' with
      | nil =>
          cases p with
          | plain c ordinary => exact absurd (List.cons.inj h).1 ordinary.1
          | pair c => exact absurd (List.cons.inj h).1.symm q.char_ne_backslash
      | cons p' body' =>
          cases p with
          | plain c ordinary =>
              cases p' with
              | plain c' ordinary' =>
                  obtain ⟨rfl, htail⟩ := List.cons.inj h
                  obtain ⟨rfl, rfl⟩ := ih htail
                  exact ⟨rfl, rfl⟩
              | pair c' => exact absurd (List.cons.inj h).1 ordinary.2
          | pair c =>
              cases p' with
              | plain c' ordinary' => exact absurd (List.cons.inj h).1.symm ordinary'.2
              | pair c' =>
                  obtain ⟨rfl, htail⟩ := List.cons.inj (List.cons.inj h).2
                  obtain ⟨rfl, rfl⟩ := ih htail
                  exact ⟨rfl, rfl⟩

/-- Two texts that begin with blanks and go on with other characters go on alike. -/
theorem blanks_append_inj {before before' : List Char} {c c' : Char} {cs cs' : List Char}
    (hb : allBlank before = true) (hb' : allBlank before' = true)
    (hc : isBlank c = false) (hc' : isBlank c' = false)
    (h : before ++ c :: cs = before' ++ c' :: cs') :
    before = before' ∧ c = c' ∧ cs = cs' := by
  have htail : c :: cs = c' :: cs' := by
    have := congrArg dropBlank h
    rwa [dropBlank_append_of_allBlank hb, dropBlank_append_of_allBlank hb',
      dropBlank_cons_of_not_blank hc, dropBlank_cons_of_not_blank hc'] at this
  rw [htail] at h
  exact ⟨List.append_cancel_right h, List.cons.inj htail⟩

/-- A bare text and what follows it: the text ends where the first comma or the line does. -/
theorem bare_append_inj {text text' rest rest' : List Char}
    (hu : ∀ c ∈ text, c ∉ reserved) (hu' : ∀ c ∈ text', c ∉ reserved)
    (hf : Follows rest) (hf' : Follows rest') (h : text ++ rest = text' ++ rest') :
    text = text' ∧ rest = rest' := by
  induction text generalizing text' with
  | nil =>
      cases text' with
      | nil => exact ⟨rfl, h⟩
      | cons c text' =>
          rcases hf with rfl | ⟨cs, rfl⟩
          · cases h
          · obtain ⟨rfl, -⟩ := List.cons.inj h
            exact absurd (by simp [reserved]) (hu' _ List.mem_cons_self)
  | cons c text ih =>
      cases text' with
      | nil =>
          rcases hf' with rfl | ⟨cs, rfl⟩
          · cases h
          · obtain ⟨rfl, -⟩ := List.cons.inj h
            exact absurd (by simp [reserved]) (hu _ List.mem_cons_self)
      | cons c' text' =>
          obtain ⟨rfl, htail⟩ := List.cons.inj h
          obtain ⟨rfl, rfl⟩ := ih (fun d hd => hu d (List.mem_cons_of_mem _ hd))
            (fun d hd => hu' d (List.mem_cons_of_mem _ hd)) htail
          exact ⟨rfl, rfl⟩

/-- A bare text holds no quote, so it cannot begin like a quoted segment. -/
theorem bare_ne_quoted {text before cs : List Char} (hu : ∀ c ∈ text, c ∉ reserved)
    (hb : allBlank before = true) {rest : List Char} (hf : Follows rest) :
    text ++ rest ≠ before ++ q.char :: cs := by
  intro h
  have hq : q.char ∈ reserved := by cases q <;> decide
  -- The blanks in front of the quote are taken off both sides, until the quote meets the text.
  induction before generalizing text with
  | nil =>
      cases text with
      | nil =>
          rcases hf with rfl | ⟨ds, rfl⟩
          · cases h
          · exact q.char_ne_comma (List.cons.inj h).1.symm
      | cons c text =>
          obtain ⟨rfl, -⟩ := List.cons.inj h
          exact hu _ List.mem_cons_self hq
  | cons b before ih =>
      rw [allBlank_cons, Bool.and_eq_true] at hb
      cases text with
      | nil =>
          rcases hf with rfl | ⟨ds, rfl⟩
          · cases h
          · obtain ⟨rfl, -⟩ := List.cons.inj h
            exact absurd hb.1 (by decide)
      | cons c text =>
          exact ih (fun d hd => hu d (List.mem_cons_of_mem _ hd)) hb.2 (List.cons.inj h).2

/-- The tree of a segment and the place where it ends are determined by the text. -/
theorem Segment.written_append_inj {s s' : Segment} {rest rest' : List Char}
    (hf : Follows rest) (hf' : Follows rest') (h : s.written ++ rest = s'.written ++ rest') :
    s = s' ∧ rest = rest' := by
  cases s with
  | bare text hu =>
      cases s' with
      | bare text' hu' =>
          obtain ⟨rfl, rfl⟩ := bare_append_inj hu hu' hf hf' h
          exact ⟨rfl, rfl⟩
      | quoted before q body after hb ha =>
          simp only [written, List.append_assoc, List.cons_append] at h
          exact absurd h (bare_ne_quoted hu hb hf)
  | quoted before q body after hb ha =>
      cases s' with
      | bare text hu =>
          simp only [written, List.append_assoc, List.cons_append] at h
          exact absurd h.symm (bare_ne_quoted hu hb hf')
      | quoted before' q' body' after' hb' ha' =>
          simp only [written, List.append_assoc, List.cons_append] at h
          obtain ⟨rfl, hq, htail⟩ := blanks_append_inj hb hb' q.isBlank_char q'.isBlank_char h
          obtain rfl := Quote.char_injective hq
          obtain ⟨rfl, hrest⟩ := Body.written_append_inj htail
          -- The blanks after the quote end where the comma or the line does.
          rw [allBlank_iff] at ha ha'
          obtain ⟨rfl, rfl⟩ := bare_append_inj
            (fun c hc => not_mem_reserved_of_isBlank (ha c hc))
            (fun c hc => not_mem_reserved_of_isBlank (ha' c hc)) hf hf' hrest
          exact ⟨rfl, rfl⟩

theorem renderRest_injective {segments segments' : List Segment}
    (h : renderRest segments = renderRest segments') : segments = segments' := by
  induction segments generalizing segments' with
  | nil =>
      cases segments' with
      | nil => rfl
      | cons s' segments' => cases h
  | cons s segments ih =>
      cases segments' with
      | nil => cases h
      | cons s' segments' =>
          obtain ⟨rfl, hrest⟩ := Segment.written_append_inj (follows_renderRest segments)
            (follows_renderRest segments') (List.cons.inj h).2
          rw [ih hrest]

/-- A line is written by one list of segments at most. -/
theorem render_injective {segments segments' : List Segment} (hne : segments ≠ [])
    (hne' : segments' ≠ []) (h : render segments = render segments') :
    segments = segments' := by
  obtain ⟨s, ss, rfl⟩ := List.exists_cons_of_ne_nil hne
  obtain ⟨s', ss', rfl⟩ := List.exists_cons_of_ne_nil hne'
  rw [render_cons, render_cons] at h
  obtain ⟨rfl, hrest⟩ := Segment.written_append_inj (follows_renderRest ss)
    (follows_renderRest ss') h
  rw [renderRest_injective hrest]

/-! ### A comma at the end of a line -/

/-- No segment ends in a comma. -/
theorem Segment.written_ne_append_comma (s : Segment) (cs : List Char) :
    s.written ≠ cs ++ [','] := by
  intro h
  cases s with
  | bare text hu =>
      have hmem : ',' ∈ text := by
        rw [show text = cs ++ [','] from h]
        simp
      exact hu _ hmem (by decide)
  | quoted before q body after hb ha =>
      have hsplit : before ++ q.char :: (body.written ++ q.char :: after) =
          (before ++ q.char :: body.written ++ [q.char]) ++ after := by simp
      rw [written, hsplit] at h
      rcases List.eq_nil_or_concat after with rfl | ⟨blanks, c, rfl⟩
      · rw [List.append_nil] at h
        exact q.char_ne_comma (List.append_singleton_inj.1 h).2
      · rw [List.concat_eq_append, ← List.append_assoc] at h
        have hc := (List.append_singleton_inj.1 h).2
        rw [allBlank_iff] at ha
        exact absurd (ha c (by simp)) (by rw [hc]; decide)

theorem Segment.eq_empty_of_written_eq_nil {s : Segment} (h : s.written = []) : s = empty := by
  cases s with
  | bare text hu =>
      obtain rfl : text = [] := h
      rfl
  | quoted before q body after hb ha =>
      simp [written] at h

theorem renderRest_append (segments : List Segment) (s : Segment) :
    renderRest (segments ++ [s]) = renderRest segments ++ ',' :: s.written := by
  induction segments with
  | nil => simp [renderRest]
  | cons t segments ih => simp [renderRest, ih]

/-- One more segment at the end of a line is a comma and the segment. -/
theorem render_append {segments : List Segment} (hne : segments ≠ []) (s : Segment) :
    render (segments ++ [s]) = render segments ++ ',' :: s.written := by
  obtain ⟨t, ts, rfl⟩ := List.exists_cons_of_ne_nil hne
  rw [List.cons_append, render_cons, render_cons, renderRest_append, List.append_assoc]

/-- A line ends in a comma exactly when its last segment is bare and empty and not its only
one. -/
theorem render_eq_append_comma_iff {segments : List Segment} (hne : segments ≠ [])
    {cs : List Char} :
    render segments = cs ++ [','] ↔
      ∃ others, others ≠ [] ∧ segments = others ++ [.empty] ∧ cs = render others := by
  constructor
  · intro h
    obtain rfl | ⟨others, s, hs⟩ := List.eq_nil_or_concat segments
    · exact absurd rfl hne
    rw [List.concat_eq_append] at hs
    subst hs
    cases others with
    | nil =>
        rw [List.nil_append, render_cons, renderRest, List.append_nil] at h
        exact absurd h (s.written_ne_append_comma cs)
    | cons t ts =>
        have hts : t :: ts ≠ [] := List.cons_ne_nil t ts
        rw [render_append hts] at h
        rcases List.eq_nil_or_concat s.written with hw | ⟨ds, d, hw⟩
        · obtain rfl := Segment.eq_empty_of_written_eq_nil hw
          exact ⟨t :: ts, hts, rfl, (List.append_singleton_inj.1 h).1.symm⟩
        · -- Then the comma is the last character of `s`, which has none.
          rw [List.concat_eq_append] at hw
          rw [hw, ← List.cons_append, ← List.append_assoc] at h
          rw [(List.append_singleton_inj.1 h).2] at hw
          exact absurd hw (s.written_ne_append_comma ds)
  · rintro ⟨others, hothers, rfl, rfl⟩
    rw [render_append hothers, Segment.written_empty]

end BenchBoard.Csv
