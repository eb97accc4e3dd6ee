import BenchBoard.Proofs.Csv.Column
/-!
# BenchBoard.Proofs.Csv.Padding

**What may stand around a line.** Blanks at the end of a line change nothing at all: not its fields,
and not the error or the column if it is refused (`parseChars_append_blank`). Blanks in front of an
accepted line do not change its fields, and a comma behind it adds one empty field.

For the end of a line every reader is compared with itself on the longer line. Only the last reader
to look at the end of the line can tell the difference, and to it the blanks are part of the text
that is trimmed, or come after a closing quote, or do not close a quote.
-/

namespace BenchBoard.Csv

open BenchBoard.Text

variable {q : Quote} {c : Char} {cs bs text rest : List Char} {texts : List (List Char)}

/-! ### Blanks at the end -/

/-- Blanks do not close a quote. -/
theorem quotedBody_append_blank (hb : allBlank bs = true) (h : quotedBody q.char cs = none) :
    quotedBody q.char (cs ++ bs) = none := by
  have hquote : q.char ∉ bs := by
    intro hmem
    rw [allBlank_iff] at hb
    have := hb _ hmem
    rw [q.isBlank_char] at this
    cases this
  cases hbody : quotedBody q.char (cs ++ bs) with
  | none => rfl
  | some found =>
      obtain ⟨body, hsplit, -⟩ := exists_body_of_quotedBody (show _ = some (found.1, found.2) from hbody)
      -- The closing quote stands in `cs`, where it is found without the blanks as well.
      rcases List.append_eq_append_iff.1 hsplit with ⟨more, -, hmore⟩ | ⟨more, hcs, hmore⟩
      · exact absurd (hmore ▸ by simp) hquote
      · cases more with
        | nil => exact absurd (by rw [← List.nil_append bs, ← hmore]; simp) hquote
        | cons d more =>
            obtain ⟨rfl, -⟩ := List.cons.inj hmore
            rw [hcs, quotedBody_written] at h
            cases h

/-- What a field comes to when blanks are put at the end of its line. -/
def padEnd (bs : List Char) :
    Except Stop (List Char × List Char) → Except Stop (List Char × List Char)
  | .error stop => .error ⟨stop.rest ++ bs, stop.fault⟩
  | .ok (text, []) => .ok (text, [])
  | .ok (text, c :: rest) => .ok (text, c :: rest ++ bs)

theorem bareField_append_blank (hb : allBlank bs = true) (cs : List Char) :
    bareField (cs ++ bs) = padEnd bs (bareField cs) := by
  have hbare : ∀ d ∈ cs.takeWhile isBare, isBare d = true :=
    fun d hd => List.all_eq_true.1 List.all_takeWhile d hd
  have hunreserved : ∀ d ∈ cs.takeWhile isBare, d ∉ reserved :=
    fun d hd => (isBare_iff d).1 (hbare d hd)
  cases hread : bareField cs with
  | error stop =>
      obtain ⟨c, ds, hcs, hc, hcomma, rfl⟩ := exists_char_of_bareField hread
      have hpadded := bareField_append_of_not_isBare hbare hc hcomma (ds ++ bs)
      rwa [← List.cons_append, ← List.append_assoc, ← hcs] at hpadded
  | ok found =>
      obtain ⟨text, rest⟩ := found
      obtain ⟨hcs, hfollows, rfl⟩ := exists_text_of_bareField hread
      rcases hfollows with rfl | ⟨others, rfl⟩
      · -- The blanks belong to the text of the field, and are trimmed.
        have hall : ∀ d ∈ cs.takeWhile isBare ++ bs, d ∉ reserved := by
          intro d hd
          rcases List.mem_append.1 hd with hd | hd
          · exact hunreserved d hd
          · exact not_mem_reserved_of_isBlank (allBlank_iff.1 hb d hd)
        have hpadded := bareField_append hall (.inl rfl : Follows [])
        rw [List.append_nil] at hpadded hcs
        rw [← hcs] at hpadded ⊢
        rw [hpadded, dropBlankEnd_append_of_allBlank hb, padEnd]
      · have hpadded := bareField_append hunreserved (.inr ⟨others ++ bs, rfl⟩)
        rwa [← List.cons_append, ← List.append_assoc, ← hcs] at hpadded

theorem field_append_blank (hb : allBlank bs = true) (cs : List Char) :
    field (cs ++ bs) = padEnd bs (field cs) := by
  have hpadded := dropBlank_append_blank hb cs
  cases hd : dropBlank cs with
  | nil =>
      rw [if_pos (dropBlank_eq_nil_iff.1 hd)] at hpadded
      unfold field
      rw [hpadded, hd]
      rfl
  | cons c body =>
      have hne : ¬ allBlank cs = true := by
        rw [← dropBlank_eq_nil_iff, hd]
        exact List.cons_ne_nil c body
      rw [if_neg hne, hd, List.cons_append] at hpadded
      by_cases hquote : isQuote c = true
      · obtain ⟨q, rfl⟩ := exists_quote_of_isQuote hquote
        rw [field_of_quote hd, field_of_quote hpadded]
        cases hbody : quotedBody q.char body with
        | none =>
            rw [quotedBody_append_blank hb hbody]
            rfl
        | some found =>
            obtain ⟨text, rest⟩ := found
            rw [quotedBody_append hbody]
            show Except.ok (text, dropBlank (rest ++ bs)) = padEnd bs (.ok (text, dropBlank rest))
            rw [dropBlank_append_blank hb]
            cases hrest : dropBlank rest with
            | nil => rw [if_pos (dropBlank_eq_nil_iff.1 hrest), padEnd]
            | cons d ds =>
                rw [if_neg, padEnd, List.cons_append]
                rw [← dropBlank_eq_nil_iff, hrest]
                exact List.cons_ne_nil d ds
      · have hopen : ∀ ds, (c :: ds).head?.any isQuote = false := fun ds => by simpa using hquote
        have hplain : field cs = bareField (dropBlank cs) :=
          field_of_not_quote (by rw [hd]; exact hopen body)
        rw [field_of_not_quote (by rw [hpadded]; exact hopen _), hpadded, hplain, hd,
          ← List.cons_append, bareField_append_blank hb]

/-- Blanks at the end of a line are no part of its fields; a line that is refused is refused with
them behind it. -/
theorem fields_append_blank (hb : allBlank bs = true) (cs : List Char) :
    fields (cs ++ bs) =
      (fields cs).mapError fun stop => ⟨stop.rest ++ bs, stop.fault⟩ := by
  fun_induction fields cs with
  | case1 cs stop hfield =>
      exact fields_of_error (by rw [field_append_blank hb, hfield]; rfl)
  | case2 cs text hfield =>
      exact fields_of_end (by rw [field_append_blank hb, hfield]; rfl)
  | case3 cs text rest hfield ih =>
      have hpadded : field (cs ++ bs) = .ok (text, ',' :: (rest ++ bs)) := by
        rw [field_append_blank hb, hfield]
        rfl
      rw [fields_of_comma hpadded, ih]
      cases fields rest <;> rfl
  | case4 cs text c rest hfield hc =>
      have hpadded : field (cs ++ bs) = .ok (text, c :: (rest ++ bs)) := by
        rw [field_append_blank hb, hfield]
        rfl
      exact fields_of_not_comma hpadded hc

/-- **Blanks at the end of a line change nothing.** The fields are the same, and so are the fault
and the column of a line that is refused. -/
theorem parseChars_append_blank (hb : allBlank bs = true) (cs : List Char) :
    parseChars (cs ++ bs) = parseChars cs := by
  unfold parseChars
  rw [allBlank_append, hb, Bool.and_true, fields_append_blank hb]
  cases fields cs with
  | ok texts => rfl
  | error stop => simp [Except.mapError, Nat.add_sub_add_right]

/-! ### Blanks in front -/

/-- Blanks in front of a line are no part of its first field. -/
theorem fields_blank_append (hb : allBlank bs = true) (cs : List Char) :
    fields (bs ++ cs) = fields cs := by
  have hfield : field (bs ++ cs) = field cs := by
    unfold field
    rw [dropBlank_append_of_allBlank hb]
  cases hread : field cs with
  | error stop => rw [fields_of_error hread, fields_of_error (hfield.trans hread)]
  | ok found =>
      obtain ⟨text, rest⟩ := found
      cases rest with
      | nil => rw [fields_of_end hread, fields_of_end (hfield.trans hread)]
      | cons c rest =>
          by_cases hc : c = ','
          · subst hc
            rw [fields_of_comma hread, fields_of_comma (hfield.trans hread)]
          · rw [fields_of_not_comma hread hc, fields_of_not_comma (hfield.trans hread) hc]

theorem parseChars_blank_append (hb : allBlank bs = true) (h : parseChars cs = .ok texts) :
    parseChars (bs ++ cs) = .ok texts := by
  rw [parseChars_eq_ok_iff] at h ⊢
  rwa [allBlank_append, hb, Bool.true_and, fields_blank_append hb]

/-! ### A comma at the end -/

/-- A comma at the end of a line adds one empty field. -/
theorem parseChars_append_comma (hne : allBlank cs = false) (h : parseChars cs = .ok texts) :
    parseChars (cs ++ [',']) = .ok (texts ++ [[]]) := by
  rw [parseChars_eq_ok_iff, hne] at h
  obtain ⟨segments, hsegments, rfl, rfl⟩ := fields_eq_ok_iff.1 (by simpa using h)
  rw [parseChars_eq_ok_iff, allBlank_append, hne]
  refine .inr ⟨rfl, fields_eq_ok_iff.2 ⟨segments ++ [.empty], by simp, ?_, ?_⟩⟩
  · rw [render_append hsegments, Segment.written_empty]
  · rw [List.map_append]
    rfl

end BenchBoard.Csv
