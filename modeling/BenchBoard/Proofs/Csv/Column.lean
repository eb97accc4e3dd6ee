import Mathlib.Order.Bounds.Basic
import BenchBoard.Proofs.Csv.Reading
/-!
# BenchBoard.Proofs.Csv.Column

**The column of a line that is refused.** Reading stops at a character that no line can go on
with. What stands in front of that character is a line of its own, and every part of the line that
reaches it is refused there, so nothing behind it matters. For a quote that is never closed the
character is that quote, although the end of the line was looked at to find out.

Each reader is taken through its failures once (`exists_blocks_of_field`,
`exists_blocks_of_fields`): where it stopped, what it had accepted, and that it stops there again
whatever part of the rest follows. Columns only count the characters in front (`column_exact`).
-/

namespace BenchBoard.Csv

open BenchBoard.Text

variable {q : Quote} {c : Char} {cs ds text rest : List Char} {stop : Stop}

/-! ### Quoted bodies -/

/-- Whatever is read stays read when the line is longer. -/
theorem quotedBody_append (h : quotedBody q.char cs = some (text, rest)) (ds : List Char) :
    quotedBody q.char (cs ++ ds) = some (text, rest ++ ds) := by
  obtain ⟨body, rfl, rfl⟩ := exists_body_of_quotedBody h
  rw [List.append_assoc, List.cons_append, quotedBody_written]

/-- Where no closing quote is found, a part of the line has none either. -/
theorem quotedBody_of_isPrefix (h : quotedBody q.char cs = none) (hds : ds <+: cs) :
    quotedBody q.char ds = none := by
  obtain ⟨more, rfl⟩ := hds
  cases hbody : quotedBody q.char ds with
  | none => rfl
  | some found =>
      rw [quotedBody_append hbody more] at h
      cases h

/-! ### Bare texts -/

/-- What is wrong with a character that cannot stand in a bare field. -/
def bareFault (c : Char) : Fault :=
  if isQuote c then .quoteInBareField c else .backslashInBareField

theorem isBlank_of_not_isBare (h : isBare c = false) : isBlank c = false := by
  cases hb : isBlank c with
  | false => rfl
  | true =>
      rw [(isBare_iff c).2 (not_mem_reserved_of_isBlank hb)] at h
      cases h

/-- A bare text is read up to a character that cannot stand in it, and refused there. -/
theorem bareField_append_of_not_isBare (hu : ∀ d ∈ text, isBare d = true)
    (hc : isBare c = false) (hcomma : c ≠ ',') (ds : List Char) :
    bareField (text ++ c :: ds) = .error ⟨c :: ds, bareFault c⟩ := by
  have hdrop : (text ++ c :: ds).dropWhile isBare = c :: ds := by
    rw [List.dropWhile_append_of_pos hu, List.dropWhile_cons_of_neg (by simp [hc])]
  unfold bareField bareFault
  rw [hdrop]
  simp only [if_neg hcomma]
  split <;> rfl

/-- A bare text is refused at the first character that cannot stand in it. -/
theorem exists_char_of_bareField (h : bareField cs = .error stop) :
    ∃ c ds, cs = cs.takeWhile isBare ++ c :: ds ∧ isBare c = false ∧ c ≠ ',' ∧
      stop = ⟨c :: ds, bareFault c⟩ := by
  have hsplit : cs = cs.takeWhile isBare ++ cs.dropWhile isBare :=
    List.takeWhile_append_dropWhile.symm
  cases hrest : cs.dropWhile isBare with
  | nil =>
      simp only [bareField, hrest] at h
      cases h
  | cons c ds =>
      have hc : isBare c = false := by
        have hhead := List.head?_dropWhile_not isBare cs
        rw [hrest] at hhead
        simpa using hhead
      have hcomma : c ≠ ',' := by
        rintro rfl
        simp only [bareField, hrest] at h
        cases h
      refine ⟨c, ds, hrest ▸ hsplit, hc, hcomma, ?_⟩
      rw [hsplit, hrest, bareField_append_of_not_isBare
        (fun d hd => List.all_eq_true.1 List.all_takeWhile d hd) hc hcomma] at h
      cases h
      rfl

/-! ### Fields -/

/-- Reading stops at the beginning of `rest` with this fault: what stands before is a segment,
and whatever part of the rest follows it, reading stops there. -/
structure BlocksField (s : Segment) (stop : Stop) : Prop where
  first : ∃ c ds, stop.rest = c :: ds ∧ isBlank c = false
  refused : ∀ c ds, (c :: ds) <+: stop.rest →
    field (s.written ++ c :: ds) = .error ⟨c :: ds, stop.fault⟩

/-- A quote that is never closed is refused behind the blanks in front of it, for no part of the
line closes it. -/
theorem exists_blocks_of_unclosed (hd : dropBlank cs = q.char :: rest)
    (hbody : quotedBody q.char rest = none) :
    ∃ s : Segment, cs = s.written ++ q.char :: rest ∧
      BlocksField s ⟨q.char :: rest, .unclosedQuote q.char⟩ := by
  obtain ⟨before, hb, hcs⟩ := allBlank_append_dropBlank cs
  rw [hd] at hcs
  refine ⟨.bare before (fun c hc => not_mem_reserved_of_isBlank (allBlank_iff.1 hb c hc)), hcs,
    ⟨q.char, rest, rfl, q.isBlank_char⟩, ?_⟩
  intro c ds hpart
  obtain ⟨rfl, hds⟩ := List.cons_prefix_cons.1 hpart
  have hdrop : dropBlank (before ++ q.char :: ds) = q.char :: ds := by
    rw [dropBlank_append_of_allBlank hb, dropBlank_cons_of_not_blank q.isBlank_char]
  rw [Segment.written, field_of_quote hdrop, quotedBody_of_isPrefix hbody hds]

/-- A bare field is refused behind its text. -/
theorem exists_blocks_of_bareField (hquote : (dropBlank cs).head?.any isQuote = false)
    (h : bareField (dropBlank cs) = .error stop) :
    ∃ s : Segment, cs = s.written ++ stop.rest ∧ BlocksField s stop := by
  obtain ⟨before, hb, hcs⟩ := allBlank_append_dropBlank cs
  obtain ⟨c, tail, hsplit, hc, hcomma, rfl⟩ := exists_char_of_bareField h
  have htext : ∀ d ∈ (dropBlank cs).takeWhile isBare, isBare d = true :=
    fun d hd => List.all_eq_true.1 List.all_takeWhile d hd
  have hstart : dropBlank ((dropBlank cs).takeWhile isBare) = (dropBlank cs).takeWhile isBare :=
    dropBlank_takeWhile_dropBlank isBare cs
  rw [hsplit] at hquote
  generalize (dropBlank cs).takeWhile isBare = text at hsplit hquote htext hstart
  have hu : ∀ d ∈ before ++ text, d ∉ reserved := by
    intro d hd
    rcases List.mem_append.1 hd with hd | hd
    · exact not_mem_reserved_of_isBlank (allBlank_iff.1 hb d hd)
    · exact (isBare_iff d).1 (htext d hd)
  refine ⟨.bare (before ++ text) hu, ?_, ⟨c, tail, rfl, isBlank_of_not_isBare hc⟩, ?_⟩
  · rw [Segment.written, List.append_assoc, ← hsplit]
    exact hcs
  · intro c' ds hpart
    obtain ⟨rfl, -⟩ := List.cons_prefix_cons.1 hpart
    have hdrop : dropBlank (before ++ text ++ c' :: ds) = text ++ c' :: ds := by
      rw [List.append_assoc, dropBlank_append_of_allBlank hb,
        dropBlank_append (dropBlank_cons_of_not_blank (isBlank_of_not_isBare hc)), hstart]
    have hquote' : (text ++ c' :: ds).head?.any isQuote = false := by
      cases text <;> simpa using hquote
    rw [Segment.written, field_of_not_quote (by rw [hdrop]; exact hquote'), hdrop,
      bareField_append_of_not_isBare htext hc hcomma]

/-- A field is refused behind the blanks or the bare text that it begins with. -/
theorem exists_blocks_of_field (h : field cs = .error stop) :
    ∃ s : Segment, cs = s.written ++ stop.rest ∧ BlocksField s stop := by
  by_cases hquote : (dropBlank cs).head?.any isQuote = true
  · obtain ⟨c, body, hd⟩ : ∃ c ds, dropBlank cs = c :: ds :=
      List.exists_cons_of_ne_nil (by intro hnil; simp [hnil] at hquote)
    rw [hd] at hquote
    obtain ⟨q, rfl⟩ := exists_quote_of_isQuote (by simpa using hquote)
    rw [field_of_quote hd] at h
    split at h
    · rename_i hbody
      cases h
      exact exists_blocks_of_unclosed hd hbody
    · cases h
  · rw [Bool.not_eq_true] at hquote
    rw [field_of_not_quote hquote] at h
    exact exists_blocks_of_bareField hquote h

/-- A field in front of something else than a comma was quoted; it is read the same in front of
whatever does not begin with a blank. -/
theorem exists_segment_of_field_not_comma (h : field cs = .ok (text, c :: rest)) (hc : c ≠ ',') :
    ∃ s : Segment, cs = s.written ++ c :: rest ∧ isBlank c = false ∧
      ∀ ds, dropBlank ds = ds → field (s.written ++ ds) = .ok (text, ds) := by
  by_cases hquote : (dropBlank cs).head?.any isQuote = true
  · obtain ⟨before, q, body, after, hb, ha, hcs, rfl, hrest⟩ := exists_quoted_of_field hquote h
    exact ⟨.quoted before q body after hb ha, hcs, head_dropBlank hrest,
      fun ds => field_quoted_append hb ha⟩
  · rw [field_of_not_quote (by simpa using hquote)] at h
    obtain ⟨-, hfollows, -⟩ := exists_text_of_bareField h
    rcases hfollows with hnil | ⟨others, hcons⟩
    · cases hnil
    · exact absurd (List.cons.inj hcons).1 hc

/-! ### Lines -/

theorem fields_of_error (h : field cs = .error stop) : fields cs = .error stop := by
  rw [fields]
  split <;> simp_all

theorem fields_of_not_comma (h : field cs = .ok (text, c :: rest)) (hc : c ≠ ',') :
    fields cs = .error ⟨c :: rest, .commaExpected c⟩ := by
  rw [fields]
  split <;> simp_all

/-- Reading stops at the beginning of `stop.rest`: what stands before is accepted, and whatever
part of the rest follows it, reading stops there with the same fault. -/
structure Blocks (before : List Char) (stop : Stop) : Prop where
  first : ∃ c ds, stop.rest = c :: ds ∧ isBlank c = false
  accepted : ∃ texts, fields before = .ok texts
  refused : ∀ c ds, (c :: ds) <+: stop.rest →
    fields (before ++ c :: ds) = .error ⟨c :: ds, stop.fault⟩

/-- The fields in front of a comma do not change what blocks the line behind it. -/
theorem Blocks.cons {before : List Char} (h : Blocks before stop) (s : Segment) :
    Blocks (s.written ++ ',' :: before) stop := by
  have hread : ∀ ds, fields (s.written ++ ',' :: ds) = (fields ds).map (s.value :: ·) :=
    fun ds => fields_of_comma (field_written s (.inr ⟨ds, rfl⟩))
  refine ⟨h.first, ?_, ?_⟩
  · obtain ⟨texts, htexts⟩ := h.accepted
    exact ⟨s.value :: texts, by rw [hread, htexts]; rfl⟩
  · intro c ds hpart
    rw [List.append_assoc, List.cons_append, hread, h.refused c ds hpart]
    rfl

/-- A line of fields is refused behind a line of fields. -/
theorem exists_blocks_of_fields (h : fields cs = .error stop) :
    ∃ before, cs = before ++ stop.rest ∧ Blocks before stop := by
  fun_induction fields cs with
  | case1 cs stop' hfield =>
      cases h
      obtain ⟨s, hcs, hblocks⟩ := exists_blocks_of_field hfield
      have hend := field_written s (.inl rfl : Follows [])
      rw [List.append_nil] at hend
      exact ⟨s.written, hcs, hblocks.first, ⟨_, fields_of_end hend⟩,
        fun c ds hpart => fields_of_error (hblocks.refused c ds hpart)⟩
  | case2 => cases h
  | case3 cs text rest hfield ih =>
      obtain ⟨s, rfl, rfl⟩ := exists_segment_of_field hfield
      cases hrest : fields rest with
      | ok others => rw [hrest] at h; cases h
      | error stop' =>
          rw [hrest] at h
          cases h
          obtain ⟨before, rfl, hblocks⟩ := ih hrest
          exact ⟨s.written ++ ',' :: before, by simp, hblocks.cons s⟩
  | case4 cs text c rest hfield hc =>
      cases h
      obtain ⟨s, rfl, hblank, hread⟩ := exists_segment_of_field_not_comma hfield hc
      have hend := hread [] rfl
      rw [List.append_nil] at hend
      refine ⟨s.written, rfl, ⟨c, rest, rfl, hblank⟩, ⟨_, fields_of_end hend⟩, ?_⟩
      intro c' ds hpart
      obtain ⟨rfl, -⟩ := List.cons_prefix_cons.1 hpart
      exact fields_of_not_comma (hread _ (dropBlank_cons_of_not_blank hblank)) hc

/-- The first characters of a line, all of them if it has fewer. -/
def firstChars (count : Nat) (line : String) : String :=
  String.ofList (line.toList.take count)

/-- A line that is refused is refused behind a line that is accepted. -/
theorem exists_blocks_of_parse {line : String} {e : LineError} (h : parse line = .error e) :
    ∃ before stop, line.toList = before ++ stop.rest ∧ Blocks before stop ∧
      e = ⟨before.length + 1, stop.fault⟩ := by
  unfold parse parseChars at h
  split at h
  · cases h
  · cases hfields : fields line.toList with
    | ok texts => rw [hfields] at h; cases h
    | error stop =>
        rw [hfields] at h
        cases h
        obtain ⟨before, hline, hblocks⟩ := exists_blocks_of_fields hfields
        refine ⟨before, stop, hline, hblocks, ?_⟩
        simp [hline]

theorem Blocks.parse_before {before : List Char} (h : Blocks before stop) :
    ∃ texts, parse (String.ofList before) = .ok texts := by
  cases hb : allBlank before with
  | true => exact ⟨[], parse_of_blank (by rw [String.toList_ofList]; exact hb)⟩
  | false =>
      obtain ⟨texts, htexts⟩ := h.accepted
      refine ⟨texts.map String.ofList, parse_eq_ok_iff.2 ⟨texts, ?_, rfl⟩⟩
      rw [String.toList_ofList]
      exact parseChars_eq_ok_iff.2 (.inr ⟨hb, htexts⟩)

/-- A part of the rest that is not empty begins with a character that is not blank, so the line
up to its end is no blank line, and it is refused. -/
theorem Blocks.parse_append {before part : List Char} (h : Blocks before stop) (hne : part ≠ [])
    (hpart : part <+: stop.rest) :
    parse (String.ofList (before ++ part)) = .error ⟨before.length + 1, stop.fault⟩ := by
  obtain ⟨c, ds, rfl⟩ := List.exists_cons_of_ne_nil hne
  obtain ⟨d, tail, hrest, hblank⟩ := h.first
  obtain ⟨rfl, -⟩ := List.cons_prefix_cons.1 (hrest ▸ hpart)
  have hb : allBlank (before ++ c :: ds) = false :=
    not_allBlank_of_mem (List.mem_append_right _ List.mem_cons_self) hblank
  unfold parse parseChars
  rw [String.toList_ofList, hb, h.refused c ds hpart]
  simp [Except.map]

/-- **The reported column is exact.** A line that is refused with a column is accepted up to the
character in front of that column, and refused with the same error from that column on, wherever
it is cut off. So the column is one more than the length of the longest first part of the line
that is accepted. -/
theorem column_exact {line : String} {e : LineError} (h : parse line = .error e) :
    1 ≤ e.column ∧ e.column ≤ line.length ∧
      (∃ texts, parse (firstChars (e.column - 1) line) = .ok texts) ∧
      (∀ count, e.column ≤ count → parse (firstChars count line) = .error e) ∧
      IsGreatest {count | count ≤ line.length ∧
        ∃ texts, parse (firstChars count line) = .ok texts} (e.column - 1) := by
  obtain ⟨before, stop, hline, hblocks, rfl⟩ := exists_blocks_of_parse h
  have hlength : before.length + 1 ≤ line.length := by
    obtain ⟨c, ds, hrest, -⟩ := hblocks.first
    rw [← String.length_toList, hline, hrest]
    simp
  have haccepted : ∃ texts, parse (firstChars before.length line) = .ok texts := by
    rw [firstChars, hline, List.take_left]
    exact hblocks.parse_before
  have hrefused : ∀ count, before.length + 1 ≤ count →
      parse (firstChars count line) = .error ⟨before.length + 1, stop.fault⟩ := by
    intro count hcount
    obtain ⟨c, ds, hrest, -⟩ := hblocks.first
    obtain ⟨more, rfl⟩ := Nat.exists_eq_add_of_le hcount
    rw [firstChars, hline, Nat.add_assoc, List.take_length_add_append]
    exact hblocks.parse_append (by rw [hrest, Nat.add_comm]; simp) (List.take_prefix _ _)
  refine ⟨Nat.le_add_left _ _, hlength, haccepted, hrefused,
    ⟨by show before.length ≤ _; omega, haccepted⟩, ?_⟩
  rintro count ⟨-, texts, htexts⟩
  show count ≤ before.length
  by_contra hlt
  rw [hrefused count (by omega)] at htexts
  cases htexts

/-- A quote that is never closed is reported where it opens, and a cut inside the pair behind it
makes no difference. -/
theorem column_exact_of_unclosed :
    parse "a, 'b\\'c" = .error ⟨4, .unclosedQuote '\''⟩ ∧
      parse (firstChars 3 "a, 'b\\'c") = .ok ["a", ""] ∧
      parse (firstChars 6 "a, 'b\\'c") = .error ⟨4, .unclosedQuote '\''⟩ := by
  have hparse : parse "a, 'b\\'c" = .error ⟨4, .unclosedQuote '\''⟩ := by cbv
  obtain ⟨-, -, -, hrefused, -⟩ := column_exact hparse
  exact ⟨hparse, by cbv, hrefused 6 (by decide)⟩

end BenchBoard.Csv
