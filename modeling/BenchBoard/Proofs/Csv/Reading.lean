import BenchBoard.Proofs.Csv.Grammar
/-!
# BenchBoard.Proofs.Csv.Reading

**The reader accepts exactly the grammar.** Each reader is taken through the same two steps.
It reads what a tree writes and returns the value of the tree (`…_written`); and whatever
it accepts was written by a tree with that value (`exists_…`). The first step needs to know
what follows, because a reader stops at the first comma or at the end of the line.
-/

namespace BenchBoard.Csv

open BenchBoard.Text

variable {q : Quote} {cs text rest : List Char}

/-! ### Quoted bodies -/

/-- A pair is read as one unit. -/
theorem quotedBody_pair (quote c : Char) (cs : List Char) :
    quotedBody quote ('\\' :: c :: cs) =
      (quotedBody quote cs).map fun (text, rest) =>
        (if c = quote then (c :: text, rest) else ('\\' :: c :: text, rest)) := by
  rw [quotedBody]

/-- A body is read up to its closing quote. -/
theorem quotedBody_written (body : Body q) (rest : List Char) :
    quotedBody q.char (body.written ++ q.char :: rest) = some (body.value, rest) := by
  induction body with
  | nil =>
      rw [Body.written_nil, List.nil_append, quotedBody]
      · simp
      · intro c cs h
        exact absurd h q.char_ne_backslash
  | cons p body ih =>
      cases p with
      | plain c ordinary =>
          show quotedBody q.char (c :: (Body.written body ++ q.char :: rest)) = _
          rw [quotedBody]
          · simp [ih, ordinary.1, Piece.value]
          · intro c' cs h
            exact absurd h ordinary.2
      | pair c =>
          show quotedBody q.char ('\\' :: c :: (Body.written body ++ q.char :: rest)) = _
          rw [quotedBody_pair, ih]
          by_cases hc : c = q.char <;> simp [hc, Piece.value]

/-- Whatever is read up to a closing quote is a body. -/
theorem exists_body_of_quotedBody (h : quotedBody q.char cs = some (text, rest)) :
    ∃ body : Body q, cs = body.written ++ q.char :: rest ∧ text = body.value := by
  fun_induction quotedBody q.char cs generalizing text rest with
  | case1 => cases h
  | case2 c cs ih =>
      obtain ⟨⟨t, r⟩, hr, heq⟩ := Option.map_eq_some_iff.1 h
      obtain ⟨body, rfl, rfl⟩ := ih hr
      refine ⟨.pair c :: body, ?_, ?_⟩
      · by_cases hc : c = q.char <;> simp_all [Piece.written]
      · by_cases hc : c = q.char <;> simp_all [Piece.value]
  | case3 cs _ =>
      simp only [Option.some.injEq, Prod.mk.injEq] at h
      obtain ⟨rfl, rfl⟩ := h
      exact ⟨[], rfl, rfl⟩
  | case4 c cs hpair hc ih =>
      obtain ⟨⟨t, r⟩, hr, heq⟩ := Option.map_eq_some_iff.1 h
      obtain ⟨body, rfl, rfl⟩ := ih hr
      simp only [Prod.mk.injEq] at heq
      obtain ⟨rfl, rfl⟩ := heq
      -- A backslash would have something after it, namely the closing quote, and be a pair.
      have hbackslash : c ≠ '\\' := by
        intro hb
        obtain ⟨d, ds, hd⟩ : ∃ d ds, body.written ++ q.char :: r = d :: ds :=
          List.exists_cons_of_ne_nil (by simp)
        exact hpair d ds hb hd
      exact ⟨.plain c ⟨hc, hbackslash⟩ :: body, rfl, rfl⟩

/-! ### Bare texts -/

theorem isBare_iff (c : Char) : isBare c = true ↔ c ∉ reserved := by
  simp [isBare, isQuote, reserved, and_assoc]

/-- In front of a rest that a segment can have, a bare text ends where the rest begins. -/
theorem bareField_append (hu : ∀ c ∈ text, c ∉ reserved) (hf : Follows rest) :
    bareField (text ++ rest) = .ok (dropBlankEnd text, rest) := by
  have hbare : ∀ c ∈ text, isBare c = true := fun c hc => (isBare_iff c).2 (hu c hc)
  have htake : (text ++ rest).takeWhile isBare = text := by
    rw [List.takeWhile_append_of_pos hbare]
    rcases hf with rfl | ⟨cs, rfl⟩
    · simp
    · rw [List.takeWhile_cons_of_neg (by decide), List.append_nil]
  have hdrop : (text ++ rest).dropWhile isBare = rest := by
    rw [List.dropWhile_append_of_pos hbare]
    rcases hf with rfl | ⟨cs, rfl⟩
    · rfl
    · rw [List.dropWhile_cons_of_neg (by decide)]
  unfold bareField
  rw [htake, hdrop]
  rcases hf with rfl | ⟨cs, rfl⟩ <;> rfl

/-- Whatever is read as a bare field is a bare text in front of such a rest. -/
theorem exists_text_of_bareField (h : bareField cs = .ok (text, rest)) :
    cs = cs.takeWhile isBare ++ rest ∧ Follows rest ∧ text = dropBlankEnd (cs.takeWhile isBare) := by
  have hsplit : cs = cs.takeWhile isBare ++ cs.dropWhile isBare :=
    List.takeWhile_append_dropWhile.symm
  unfold bareField at h
  split at h
  · rename_i hrest
    simp only [Except.ok.injEq, Prod.mk.injEq] at h
    obtain ⟨rfl, rfl⟩ := h
    exact ⟨hrest ▸ hsplit, .inl rfl, rfl⟩
  · rename_i c ds hrest
    split at h
    · rename_i hcomma
      subst hcomma
      simp only [Except.ok.injEq, Prod.mk.injEq] at h
      obtain ⟨rfl, rfl⟩ := h
      exact ⟨hrest ▸ hsplit, .inr ⟨ds, rfl⟩, rfl⟩
    · split at h <;> cases h

/-! ### Fields -/

/-- A field that does not open with a quote is bare. -/
theorem field_of_not_quote (h : (dropBlank cs).head?.any isQuote = false) :
    field cs = bareField (dropBlank cs) := by
  unfold field
  split
  · rename_i hnil
    rw [hnil]
    rfl
  · rename_i c ds hcons
    rw [hcons] at h
    rw [hcons, if_neg (by simpa using h)]

/-- A field that opens with a quote is that quote's body. -/
theorem field_of_quote (h : dropBlank cs = q.char :: text) :
    field cs = match quotedBody q.char text with
      | none => .error ⟨q.char :: text, .unclosedQuote q.char⟩
      | some (t, r) => .ok (t, dropBlank r) := by
  unfold field
  rw [h]
  exact if_pos q.isQuote_char

/-- A quoted segment is read with the blanks after it, whatever stands behind them. -/
theorem field_quoted_append {before after : List Char} {body : Body q}
    (hb : allBlank before = true) (ha : allBlank after = true) (hrest : dropBlank rest = rest) :
    field ((Segment.quoted before q body after hb ha).written ++ rest) = .ok (body.value, rest) := by
  have hdrop : dropBlank ((Segment.quoted before q body after hb ha).written ++ rest) =
      q.char :: (body.written ++ q.char :: (after ++ rest)) := by
    rw [Segment.written, List.append_assoc, dropBlank_append_of_allBlank hb,
      List.cons_append, dropBlank_cons_of_not_blank q.isBlank_char]
    simp
  rw [field_of_quote hdrop, quotedBody_written]
  simp only
  rw [dropBlank_append_of_allBlank ha, hrest]

/-- A segment is read with its value, up to what follows it. -/
theorem field_written (s : Segment) (hf : Follows rest) :
    field (s.written ++ rest) = .ok (s.value, rest) := by
  cases s with
  | bare text hu =>
      -- What follows begins with a comma, so no blanks are skipped beyond the text.
      have hdrop : dropBlank (text ++ rest) = dropBlank text ++ rest :=
        dropBlank_append (dropBlank_of_follows hf)
      have hu' : ∀ c ∈ dropBlank text, c ∉ reserved :=
        fun c hc => hu c ((List.dropWhile_sublist isBlank).subset hc)
      have hquote : (dropBlank text ++ rest).head?.any isQuote = false := by
        cases ht : dropBlank text with
        | nil => rcases hf with rfl | ⟨cs, rfl⟩ <;> rfl
        | cons c ds =>
            have hc := hu' c (ht ▸ List.mem_cons_self)
            rw [← isBare_iff] at hc
            simp [isBare] at hc
            simp [hc]
      rw [Segment.written, field_of_not_quote (by rw [hdrop]; exact hquote), hdrop,
        bareField_append hu' hf]
      rfl
  | quoted before q body after hb ha =>
      exact field_quoted_append hb ha (dropBlank_of_follows hf)

/-- Whatever is read as a field that opens with a quote is a quoted segment. -/
theorem exists_quoted_of_field (hquote : (dropBlank cs).head?.any isQuote = true)
    (h : field cs = .ok (text, rest)) :
    ∃ (before : List Char) (q : Quote) (body : Body q) (after : List Char)
      (hb : allBlank before = true) (ha : allBlank after = true),
      cs = (Segment.quoted before q body after hb ha).written ++ rest ∧ text = body.value ∧
        dropBlank rest = rest := by
  obtain ⟨before, hb, hcs⟩ := allBlank_append_dropBlank cs
  obtain ⟨c, body, hd⟩ : ∃ c ds, dropBlank cs = c :: ds :=
    List.exists_cons_of_ne_nil (by intro hnil; simp [hnil] at hquote)
  rw [hd] at hquote
  obtain ⟨q, rfl⟩ := exists_quote_of_isQuote (by simpa using hquote)
  rw [field_of_quote hd] at h
  split at h
  · cases h
  · rename_i t r hbody
    simp only [Except.ok.injEq, Prod.mk.injEq] at h
    obtain ⟨rfl, rfl⟩ := h
    obtain ⟨units, rfl, rfl⟩ := exists_body_of_quotedBody hbody
    obtain ⟨after, ha, hr⟩ := allBlank_append_dropBlank r
    refine ⟨before, q, units, after, hb, ha, ?_, rfl, dropBlank_dropBlank r⟩
    calc cs = before ++ q.char :: (units.written ++ q.char :: r) := by rw [hcs, hd]
      _ = before ++ q.char :: (units.written ++ q.char :: (after ++ dropBlank r)) := by
            rw [← hr]
      _ = _ := by simp [Segment.written]

/-- Whatever is read as a field is a segment with that value. -/
theorem exists_segment_of_field (h : field cs = .ok (text, rest)) :
    ∃ s : Segment, cs = s.written ++ rest ∧ text = s.value := by
  by_cases hquote : (dropBlank cs).head?.any isQuote = true
  · obtain ⟨before, q, body, after, hb, ha, hcs, htext, -⟩ := exists_quoted_of_field hquote h
    exact ⟨.quoted before q body after hb ha, hcs, htext⟩
  · obtain ⟨before, hb, hcs⟩ := allBlank_append_dropBlank cs
    rw [field_of_not_quote (by simpa using hquote)] at h
    obtain ⟨hsplit, -, rfl⟩ := exists_text_of_bareField h
    -- The blanks that were skipped belong to the segment, although not to the field.
    have hu : ∀ c ∈ before ++ (dropBlank cs).takeWhile isBare, c ∉ reserved := by
      intro c hc
      rcases List.mem_append.1 hc with hc | hc
      · exact not_mem_reserved_of_isBlank (allBlank_iff.1 hb c hc)
      · rw [← isBare_iff]
        exact List.all_eq_true.1 List.all_takeWhile c hc
    refine ⟨.bare (before ++ (dropBlank cs).takeWhile isBare) hu, ?_, ?_⟩
    · rw [Segment.written, List.append_assoc, ← hsplit]
      exact hcs
    · rw [Segment.value, trimChars, dropBlank_append_of_allBlank hb,
        dropBlank_takeWhile_dropBlank]

/-! ### Lines -/

theorem fields_of_end (h : field cs = .ok (text, [])) : fields cs = .ok [text] := by
  rw [fields]
  split <;> simp_all

theorem fields_of_comma (h : field cs = .ok (text, ',' :: rest)) :
    fields cs = (fields rest).map (text :: ·) := by
  rw [fields]
  split <;> simp_all

/-- The segments of a line are read with their values. -/
theorem fields_render (s : Segment) (segments : List Segment) :
    fields (render (s :: segments)) = .ok ((s :: segments).map Segment.value) := by
  induction segments generalizing s with
  | nil =>
      have h := field_written s (.inl rfl : Follows [])
      rw [render_cons, renderRest, fields_of_end h]
      rfl
  | cons t segments ih =>
      have h := field_written s (follows_renderRest (t :: segments))
      rw [render_cons, fields_of_comma h, ← render_cons, ih]
      rfl

/-- Whatever is read as fields is a line of segments with these values. -/
theorem exists_segments_of_fields {texts : List (List Char)} (h : fields cs = .ok texts) :
    ∃ segments, segments ≠ [] ∧ cs = render segments ∧ texts = segments.map Segment.value := by
  fun_induction fields cs generalizing texts with
  | case1 => cases h
  | case2 cs text hfield =>
      obtain ⟨s, rfl, rfl⟩ := exists_segment_of_field hfield
      cases h
      exact ⟨[s], by simp, by simp [render_cons, renderRest], rfl⟩
  | case3 cs text rest hfield ih =>
      obtain ⟨s, rfl, rfl⟩ := exists_segment_of_field hfield
      cases hrest : fields rest with
      | error stop => rw [hrest] at h; cases h
      | ok others =>
          rw [hrest] at h
          cases h
          obtain ⟨segments, hne, rfl, rfl⟩ := ih hrest
          refine ⟨s :: segments, by simp, ?_, rfl⟩
          obtain ⟨t, ts, rfl⟩ := List.exists_cons_of_ne_nil hne
          rw [render_cons s, renderRest, render_cons]
  | case4 => cases h

theorem fields_eq_ok_iff {texts : List (List Char)} :
    fields cs = .ok texts ↔
      ∃ segments, segments ≠ [] ∧ cs = render segments ∧ texts = segments.map Segment.value := by
  constructor
  · exact exists_segments_of_fields
  · rintro ⟨segments, hne, rfl, rfl⟩
    obtain ⟨s, segments, rfl⟩ := List.exists_cons_of_ne_nil hne
    exact fields_render s segments

/-! ### Lines as strings -/

theorem parseChars_eq_ok_iff {texts : List (List Char)} :
    parseChars cs = .ok texts ↔
      (allBlank cs = true ∧ texts = []) ∨ (allBlank cs = false ∧ fields cs = .ok texts) := by
  unfold parseChars
  cases hb : allBlank cs with
  | true => simp [eq_comm]
  | false =>
      cases fields cs with
      | error stop => simp
      | ok others => simp

/-- A line is accepted when its characters are, and its fields are then strings. -/
theorem parse_eq_ok_iff {line : String} {texts : List String} :
    parse line = .ok texts ↔
      ∃ fields, parseChars line.toList = .ok fields ∧ texts = fields.map String.ofList := by
  unfold parse
  cases parseChars line.toList with
  | error e => simp [Except.map]
  | ok fields => simp [Except.map, eq_comm]

/-- A line that is not blank is accepted exactly when it has segments, and then its fields
are their texts. -/
theorem parse_eq_ok_iff_of_not_blank {line : String} {texts : List String}
    (hb : allBlank line.toList = false) :
    parse line = .ok texts ↔
      ∃ segments, Derives line segments ∧ texts = segments.map Segment.text := by
  rw [parse_eq_ok_iff]
  constructor
  · rintro ⟨values, hparse, rfl⟩
    rw [parseChars_eq_ok_iff, hb] at hparse
    obtain ⟨segments, hne, hline, rfl⟩ :=
      fields_eq_ok_iff.1 (by simpa using hparse : fields line.toList = .ok values)
    exact ⟨segments, ⟨hne, hline⟩, by simp [Segment.text]⟩
  · rintro ⟨segments, ⟨hne, hline⟩, rfl⟩
    refine ⟨segments.map Segment.value, ?_, by simp [Segment.text]⟩
    rw [parseChars_eq_ok_iff]
    exact .inr ⟨hb, fields_eq_ok_iff.2 ⟨segments, hne, hline, rfl⟩⟩

theorem parse_of_blank {line : String} (hb : allBlank line.toList = true) :
    parse line = .ok [] := by
  rw [parse_eq_ok_iff]
  exact ⟨[], parseChars_eq_ok_iff.2 (.inl ⟨hb, rfl⟩), rfl⟩

/-- **The reader accepts exactly the grammar.** A blank line has no fields. Any other line is
accepted if and only if it is written by segments, and its fields are their texts; the
segments are the only ones that write it. A comma at the end of a line adds one empty field
to what the line without it has as segments, also if that line is blank. -/
theorem parse_eq_ok_iff_derives (line : String) :
    (∀ texts, parse line = .ok texts ↔
      (allBlank line.toList = true ∧ texts = []) ∨
      (allBlank line.toList = false ∧
        ∃ segments, Derives line segments ∧ texts = segments.map Segment.text)) ∧
    (∀ segments segments', Derives line segments → Derives line segments' →
      segments = segments') ∧
    (∀ texts, parse (line ++ ",") = .ok texts ↔
      ∃ segments, Derives line segments ∧ texts = segments.map Segment.text ++ [""]) := by
  refine ⟨?_, ?_, ?_⟩
  · intro texts
    cases hb : allBlank line.toList with
    | true => simp [parse_of_blank hb, eq_comm]
    | false => simp [parse_eq_ok_iff_of_not_blank hb]
  · rintro segments segments' ⟨hne, h⟩ ⟨hne', h'⟩
    exact render_injective hne hne' (h ▸ h')
  · intro texts
    have htoList : (line ++ ",").toList = line.toList ++ [','] := by simp
    have hb : allBlank (line ++ ",").toList = false := by
      rw [htoList]
      exact not_allBlank_of_mem (by simp : ',' ∈ line.toList ++ [',']) rfl
    rw [parse_eq_ok_iff_of_not_blank hb]
    constructor
    · rintro ⟨segments, ⟨hne, hline⟩, rfl⟩
      rw [htoList, eq_comm, render_eq_append_comma_iff hne] at hline
      obtain ⟨others, hothers, rfl, hline⟩ := hline
      exact ⟨others, ⟨hothers, hline⟩, by simp⟩
    · rintro ⟨segments, ⟨hne, hline⟩, rfl⟩
      refine ⟨segments ++ [.empty], ⟨by simp, ?_⟩, by simp⟩
      rw [htoList, hline, render_append hne, Segment.written_empty]

end BenchBoard.Csv
