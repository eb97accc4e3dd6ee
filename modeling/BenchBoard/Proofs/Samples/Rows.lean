import BenchBoard.Proofs.Decimal.Digits
import BenchBoard.Proofs.Series.Provenance
import BenchBoard.Samples.Writer
/-!
# BenchBoard.Proofs.Samples.Rows

**The lines that the writer writes are read as they were meant.** A `Row` is a record before it is
written: a name that can stand between double quotes and nine values that need no quotes, none
with blanks around it. The row carries these conditions, so its line is one line of the text
(`Row.isLine`) and is read as its fields (`Row.parse_line`) without further ado.
-/

namespace BenchBoard

open BenchBoard.Text

/-! ### A name between quotes and bare values -/

namespace Csv

/-- Nothing is escaped in a text without the quote. -/
theorem escape_of_not_mem {quote : Char} {text : List Char} (h : quote ∉ text) :
    escape quote text = text := by
  induction text with
  | nil => rfl
  | cons c text ih =>
      rw [List.mem_cons, not_or] at h
      rw [escape_cons_other (Ne.symm h.1), ih h.2]

/-- A text with neither a double quote nor a backslash is read back from between double
quotes. -/
theorem exists_segment_of_quotable {text : List Char} (hquote : '"' ∉ text)
    (hbackslash : '\\' ∉ text) :
    ∃ s : Segment, s.written = '"' :: (text ++ ['"']) ∧ s.value = text := by
  obtain ⟨body, hwritten, hvalue⟩ :=
    exists_body_of_escapable (q := .double) (escapable_of_not_mem _ hbackslash)
  have hescape : escape Quote.double.char text = text := escape_of_not_mem hquote
  rw [hescape] at hwritten
  refine ⟨.quoted [] .double body [] rfl rfl, ?_, hvalue⟩
  show '"' :: (body.written ++ ['"']) = _
  rw [hwritten]

/-- Texts without reserved characters are segments of their own. -/
theorem exists_segments_of_unreserved {texts : List (List Char)}
    (h : ∀ text ∈ texts, ∀ c ∈ text, c ∉ reserved) :
    ∃ segments : List Segment, renderRest segments = texts.flatMap (',' :: ·) ∧
      segments.map Segment.value = texts.map trimChars := by
  induction texts with
  | nil => exact ⟨[], rfl, rfl⟩
  | cons text texts ih =>
      rw [List.forall_mem_cons] at h
      obtain ⟨segments, hrender, hvalues⟩ := ih h.2
      refine ⟨.bare text h.1 :: segments, ?_, ?_⟩
      · rw [renderRest, hrender]
        rfl
      · rw [List.map_cons, List.map_cons, hvalues]
        rfl

/-- A name between double quotes and bare values after it are the fields of their line. -/
theorem parse_quoted_bare {name : String} {values : List String} (hquote : '"' ∉ name.toList)
    (hbackslash : '\\' ∉ name.toList)
    (hvalues : ∀ value ∈ values, ∀ c ∈ value.toList, c ∉ reserved) :
    parse ("\"" ++ name ++ "\"" ++ String.join (values.map ("," ++ ·))) =
      .ok (name :: values.map trim) := by
  obtain ⟨s, hwritten, hvalue⟩ := exists_segment_of_quotable hquote hbackslash
  have hbare : ∀ text ∈ values.map String.toList, ∀ c ∈ text, c ∉ reserved :=
    List.forall_mem_map.2 hvalues
  obtain ⟨segments, hrender, hsegments⟩ := exists_segments_of_unreserved hbare
  have hline : ("\"" ++ name ++ "\"" ++ String.join (values.map ("," ++ ·))).toList =
      render (s :: segments) := by
    rw [render_cons, hwritten, hrender]
    simp [List.flatMap_map]
  have hblank : allBlank
      ("\"" ++ name ++ "\"" ++ String.join (values.map ("," ++ ·))).toList = false :=
    not_allBlank_of_mem (c := '"') (by simp) rfl
  rw [parse_eq_ok_iff_of_not_blank hblank]
  refine ⟨s :: segments, ⟨List.cons_ne_nil _ _, hline⟩, ?_⟩
  have htexts : segments.map Segment.text = values.map trim := by
    have htext : segments.map Segment.text = (segments.map Segment.value).map String.ofList := by
      rw [List.map_map]
      rfl
    rw [htext, hsegments, List.map_map, List.map_map]
    rfl
  rw [List.map_cons, htexts, Segment.text, hvalue, String.ofList_toList]

end Csv

namespace Samples

/-! ### Rows -/

/-- The text can stand between double quotes as it is. -/
structure IsQuotable (text : String) : Prop where
  no_quote : '"' ∉ text.toList
  no_backslash : '\\' ∉ text.toList
  trimmed : trim text = text
  unbroken : Unbroken text

/-- The text can stand between commas as it is. -/
structure IsBare (text : String) : Prop where
  unreserved : ∀ c ∈ text.toList, c ∉ Csv.reserved
  trimmed : trim text = text
  unbroken : Unbroken text

/-- The name and the values of a record that can be written. -/
structure Row where
  name : String
  values : List String
  quotable : IsQuotable name
  bare : ∀ value ∈ values, IsBare value
  /-- There is a value for each field of the header but `name`. -/
  width : values.length = 9

namespace Row

variable (row : Row)

/-- The fields of the record. -/
def fields : List String :=
  row.name :: row.values

/-- The record as it is written. -/
def line : String :=
  "\"" ++ row.name ++ "\"" ++ String.join (row.values.map ("," ++ ·))

/-- There is nothing to trim. -/
theorem map_trim_fields : row.fields.map trim = row.fields := by
  have htrimmed : ∀ text ∈ row.fields, trim text = text :=
    List.forall_mem_cons.2
      ⟨row.quotable.trimmed, fun value hvalue => (row.bare value hvalue).trimmed⟩
  exact (List.map_congr_left htrimmed).trans (List.map_id _)

theorem parse_line : Csv.parse row.line = .ok row.fields := by
  have htrim : row.values.map trim = row.values := (List.cons.inj row.map_trim_fields).2
  rw [line, Csv.parse_quoted_bare row.quotable.no_quote row.quotable.no_backslash
    fun value hvalue => (row.bare value hvalue).unreserved, htrim]
  rfl

theorem toList_line :
    row.line.toList = '"' :: (row.name.toList ++ '"' ::
      row.values.flatMap fun value => ',' :: value.toList) := by
  simp [line, List.flatMap_map]

theorem unbroken_line : Unbroken row.line := by
  intro hmem
  rw [toList_line] at hmem
  simp only [List.mem_cons, List.mem_append, List.mem_flatMap] at hmem
  rcases hmem with hquote | hname | hquote | ⟨value, hvalue, hcomma | hmem⟩
  · cases hquote
  · exact row.quotable.unbroken hname
  · cases hquote
  · cases hcomma
  · exact (row.bare value hvalue).unbroken hmem

/-- A row ends in a comma or in a value, which does not end in a blank. -/
theorem getLast?_line : row.line.toList.getLast? ≠ some '\r' := by
  obtain hnil | ⟨others, last, hvalues⟩ := List.eq_nil_or_concat row.values
  · have hwidth := row.width
    rw [hnil] at hwidth
    cases hwidth
  · rw [List.concat_eq_append] at hvalues
    have hlast : trim last = last := (row.bare last (by simp [hvalues])).trimmed
    have hend : last.toList.getLast?.any isBlank = false := by
      rw [← hlast, trim, String.toList_ofList]
      exact getLast?_trimChars _
    rw [toList_line, hvalues]
    cases hc : last.toList.getLast? with
    | none => simp [List.getLast?_append, List.getLast?_cons, hc]
    | some c =>
        rw [hc] at hend
        have hreturn : c ≠ '\r' := by
          rintro rfl
          exact absurd hend (by decide)
        simpa [List.getLast?_append, List.getLast?_cons, hc] using hreturn

end Row

/-! ### The rows of a result file -/

/-- The text can name a case. -/
structure IsCaseName (caseName : String) : Prop where
  no_quote : '"' ∉ caseName.toList
  no_backslash : '\\' ∉ caseName.toList
  unbroken : Unbroken caseName
  first_not_blank : caseName.toList.head?.any isBlank = false

theorem isBare_of_isPlain {text : String} (h : text.toList.all Decimal.isPlain = true) :
    IsBare text where
  unreserved := by
    have hclosed : Csv.reserved.all (fun c => !Decimal.isPlain c) = true := by decide
    intro c hc hreserved
    have hplain := List.all_eq_true.1 hclosed c hreserved
    rw [List.all_eq_true.1 h c hc] at hplain
    cases hplain
  trimmed := Decimal.trim_of_isPlain (List.all_eq_true.1 h)
  unbroken := by
    intro hmem
    exact absurd (List.all_eq_true.1 h _ hmem) (by decide)

theorem isBare_exact (x : Float) : IsBare (Decimal.exact x) :=
  isBare_of_isPlain (List.all_eq_true.2 fun _ hc => Decimal.isPlain_of_mem_exact hc)

theorem isBare_empty : IsBare "" :=
  isBare_of_isPlain (by simp)

/-- Plain, a slash or an underscore. -/
def isEndingChar (c : Char) : Bool :=
  Decimal.isPlain c || c == '/' || c == '_'

/-- The text can end the name of a record. -/
def IsEnding (text : String) : Prop :=
  text.toList.all isEndingChar = true

theorem IsEnding.isBlank {ending : String} (h : IsEnding ending) :
    ∀ c ∈ ending.toList, isBlank c = false := by
  intro c hc
  have hchar := List.all_eq_true.1 h c hc
  simp only [isEndingChar, Bool.or_eq_true, beq_iff_eq, or_assoc] at hchar
  rcases hchar with hplain | rfl | rfl
  · exact Decimal.isBlank_of_isPlain hplain
  · rfl
  · rfl

theorem IsEnding.not_mem {ending : String} (h : IsEnding ending) {c : Char}
    (hc : isEndingChar c = false) : c ∉ ending.toList := by
  intro hmem
  rw [List.all_eq_true.1 h c hmem] at hc
  cases hc

/-- The name of a sample goes on with a slash and the size. -/
theorem isEnding_size (size : Nat) : IsEnding ("/" ++ toString size) := by
  rw [IsEnding, List.all_eq_true]
  intro c hc
  rw [String.toList_append, List.mem_append] at hc
  rcases hc with hslash | hdigit
  · rw [List.mem_singleton.1 hslash]
    rfl
  · simp [isEndingChar, Decimal.isPlain_of_mem_toString hdigit]

variable {caseName : String}

/-- The name of a case with an ending can stand between quotes. -/
theorem IsCaseName.quotable (h : IsCaseName caseName) {ending : String} (hending : IsEnding ending)
    (hne : ending.toList ≠ []) : IsQuotable (caseName ++ ending) where
  no_quote := by
    rw [String.toList_append, List.mem_append, not_or]
    exact ⟨h.no_quote, hending.not_mem rfl⟩
  no_backslash := by
    rw [String.toList_append, List.mem_append, not_or]
    exact ⟨h.no_backslash, hending.not_mem rfl⟩
  trimmed := by
    have hfirst : (caseName.toList ++ ending.toList).head?.any isBlank = false := by
      have hcase := h.first_not_blank
      cases hname : caseName.toList with
      | nil =>
          obtain ⟨c, cs, hcons⟩ := List.exists_cons_of_ne_nil hne
          have hc := hending.isBlank c (by simp [hcons])
          simp [hcons, hc]
      | cons c cs =>
          rw [hname] at hcase
          simpa using hcase
    have hlast : (caseName.toList ++ ending.toList).getLast?.any isBlank = false := by
      rw [List.getLast?_append_of_ne_nil _ hne, List.getLast?_eq_some_getLast hne]
      simpa using hending.isBlank _ (List.getLast_mem hne)
    rw [trim, String.toList_append, trimChars_eq_self hfirst hlast, ← String.toList_append,
      String.ofList_toList]
  unbroken := by
    rw [Unbroken, String.toList_append, List.mem_append, not_or]
    exact ⟨h.unbroken, hending.not_mem rfl⟩

/-- What is shown of the rate of items: nothing if no time was needed. -/
def Sample.rate (sample : Sample) : String :=
  if sample.cpuTime == 0.0 then ""
  else Decimal.exact (Decimal.ofScaled sample.size 0 * 1e9 / sample.cpuTime)

theorem Sample.isBare_rate (sample : Sample) : IsBare sample.rate := by
  unfold rate
  split
  · exact isBare_empty
  · exact isBare_exact _

/-- A rate is shown unless the processor time is zero. -/
theorem Sample.rate_eq_empty_iff (sample : Sample) :
    sample.rate = "" ↔ (sample.cpuTime == 0.0) = true := by
  unfold rate
  split
  · rename_i hzero
    simp [hzero]
  · rename_i hzero
    simp [hzero, Decimal.exact_ne_empty]

theorem Sample.shown_itemsPerSecond? (sample : Sample) :
    shown sample.itemsPerSecond? = sample.rate := by
  unfold itemsPerSecond? rate shown
  split <;> rfl

/-- The row of a sample. -/
def Sample.row (h : IsCaseName caseName) (sample : Sample) : Row where
  name := caseName ++ ("/" ++ toString sample.size)
  values := ["1000", Decimal.exact sample.realTime, Decimal.exact sample.cpuTime, "ns", "",
    sample.rate, "", "", ""]
  quotable := h.quotable (isEnding_size sample.size) (by simp)
  bare := by
    have h1000 : IsBare "1000" := isBare_of_isPlain (by decide)
    have hns : IsBare "ns" := isBare_of_isPlain (by decide)
    simp only [List.forall_mem_cons]
    exact ⟨h1000, isBare_exact _, isBare_exact _, hns, isBare_empty, sample.isBare_rate,
      isBare_empty, isBare_empty, isBare_empty, by simp⟩
  width := rfl

theorem Sample.line_row (h : IsCaseName caseName) (sample : Sample) :
    (sample.row h).line = Sample.line caseName sample := by
  have htext : ∀ text : String, toString text = text := fun _ => rfl
  apply String.ext
  simp [Row.line, row, line, shown_itemsPerSecond?, htext]

/-- The row of the coefficients. -/
def FittedClass.fitRow (h : IsCaseName caseName) (fit : FittedClass) (hlabel : IsBare fit.label) :
    Row where
  name := caseName ++ "_BigO"
  values := ["", Decimal.exact fit.realTime, Decimal.exact fit.cpuTime, fit.label, "", "", "", "",
    ""]
  quotable := by
    have hending : IsEnding "_BigO" := by unfold IsEnding; decide
    exact h.quotable hending (by simp)
  bare := by
    simp only [List.forall_mem_cons]
    exact ⟨isBare_empty, isBare_exact _, isBare_exact _, hlabel, isBare_empty, isBare_empty,
      isBare_empty, isBare_empty, isBare_empty, by simp⟩
  width := rfl

/-- The row of the deviations. -/
def FittedClass.deviationRow (h : IsCaseName caseName) (fit : FittedClass) : Row where
  name := caseName ++ "_RMS"
  values := ["", Decimal.exact fit.realDeviation, Decimal.exact fit.cpuDeviation, "", "", "", "",
    "", ""]
  quotable := by
    have hending : IsEnding "_RMS" := by unfold IsEnding; decide
    exact h.quotable hending (by simp)
  bare := by
    simp only [List.forall_mem_cons]
    exact ⟨isBare_empty, isBare_exact _, isBare_exact _, isBare_empty, isBare_empty, isBare_empty,
      isBare_empty, isBare_empty, isBare_empty, by simp⟩
  width := rfl

theorem FittedClass.lines_rows (h : IsCaseName caseName) (fit : FittedClass)
    (hlabel : IsBare fit.label) :
    [(fit.fitRow h hlabel).line, (fit.deviationRow h).line] = FittedClass.lines caseName fit := by
  have htext : ∀ text : String, toString text = text := fun _ => rfl
  simp [Row.line, fitRow, deviationRow, lines, htext, String.ext_iff]

end Samples

end BenchBoard
