import Mathlib.Order.Bounds.Basic
import BenchBoard.Proofs.Report.Inspection
/-!
# BenchBoard.Proofs.Sheet.AlignedText

**Where a text stands in a sheet for people.** The widths of the columns come from one walk over
all rows, the lines from another, and the length of the rule from the widths alone. They agree
because of two facts: each column is as wide as the widest text in it (`areWidths_columnWidths`), so
filling up a text never cuts it, and the parts of a line are then exactly as long as the widths say
(`Fit.map_length_parts`).

From this each text has its place in the full line (`Fit.inColumns_fullLine`). Trimming that line
takes the blanks at the end of its last text and what was filled up behind it, and nothing else
(`Fit.isAligned_alignLine`).
-/

namespace BenchBoard.Sheet

open BenchBoard.Text

variable {sheet : Sheet} {widths : List Nat} {texts : List String} {lines : List (List String)}
  {text : String} {column width : Nat}

/-- The texts of a sheet as people read them, line by line. -/
def shownTexts (sheet : Sheet) : List (List String) :=
  sheet.headers :: sheet.rows.map (·.map Cell.shown)

/-! ### Widths -/

/-- How many characters the texts of a column have. -/
def counts (lines : List (List String)) (column : Nat) : Set Nat :=
  {count | ∃ texts ∈ lines, ∃ text, texts[column]? = some text ∧ text.length = count}

theorem counts_singleton (h : texts[column]? = some text) : counts [texts] column = {text.length} := by
  ext count
  simp [counts, h, eq_comm]

theorem counts_append (lines : List (List String)) (texts : List String) (column : Nat) :
    counts (lines ++ [texts]) column = counts lines column ∪ counts [texts] column := by
  ext count
  simp [counts, or_and_right, exists_or]

@[simp] theorem length_widen (widths : List Nat) (texts : List String) :
    (widen widths texts).length = widths.length := by
  induction widths generalizing texts with
  | nil => rfl
  | cons width widths ih =>
      cases texts with
      | nil => rfl
      | cons text texts => rw [widen, List.length_cons, ih, List.length_cons]

theorem getElem?_widen (hlength : texts.length = widths.length)
    (h : (widen widths texts)[column]? = some width) :
    ∃ before text, widths[column]? = some before ∧ texts[column]? = some text ∧
      width = max before text.length := by
  induction widths generalizing texts column with
  | nil => cases h
  | cons first widths ih =>
      cases texts with
      | nil => cases hlength
      | cons text texts =>
          cases column with
          | zero => exact ⟨first, text, rfl, rfl, (Option.some.inj h).symm⟩
          | succ column => exact ih (Nat.succ.inj hlength) h

/-- Each column is as wide as the widest of its texts in these lines. -/
def AreWidths (lines : List (List String)) (widths : List Nat) : Prop :=
  ∀ (column width : Nat), widths[column]? = some width → IsGreatest (counts lines column) width

theorem areWidths_headers (headers : List String) :
    AreWidths [headers] (headers.map String.length) := by
  intro column width hwidth
  rw [List.getElem?_map, Option.map_eq_some_iff] at hwidth
  obtain ⟨text, htext, rfl⟩ := hwidth
  rw [counts_singleton htext]
  exact isGreatest_singleton

theorem AreWidths.widen (h : AreWidths lines widths) (hlength : texts.length = widths.length) :
    AreWidths (lines ++ [texts]) (widen widths texts) := by
  intro column width hwidth
  obtain ⟨before, text, hbefore, htext, rfl⟩ := getElem?_widen hlength hwidth
  rw [counts_append, counts_singleton htext]
  exact (h column before hbefore).union isGreatest_singleton

theorem AreWidths.foldl_widen {rows : List (List String)} (h : AreWidths lines widths)
    (hrows : ∀ texts ∈ rows, texts.length = widths.length) :
    AreWidths (lines ++ rows) (rows.foldl Sheet.widen widths) := by
  induction rows generalizing lines widths with
  | nil => rwa [List.append_nil]
  | cons texts rows ih =>
      rw [List.forall_mem_cons] at hrows
      rw [List.foldl_cons, List.append_cons]
      refine ih (h.widen hrows.1) ?_
      rw [length_widen]
      exact hrows.2

/-- The widths of the columns of a sheet. -/
def columnWidths (sheet : Sheet) : List Nat :=
  (sheet.rows.map (·.map Cell.shown)).foldl widen (sheet.headers.map String.length)

theorem length_foldl_widen (rows : List (List String)) (widths : List Nat) :
    (rows.foldl widen widths).length = widths.length := by
  induction rows generalizing widths with
  | nil => rfl
  | cons texts rows ih => rw [List.foldl_cons, ih, length_widen]

@[simp] theorem length_columnWidths (sheet : Sheet) :
    sheet.columnWidths.length = sheet.headers.length := by
  rw [columnWidths, length_foldl_widen, List.length_map]

theorem areWidths_columnWidths (h : ∀ row ∈ sheet.rows, row.length = sheet.headers.length) :
    AreWidths sheet.shownTexts sheet.columnWidths := by
  refine (areWidths_headers sheet.headers).foldl_widen ?_
  intro texts htexts
  obtain ⟨row, hrow, rfl⟩ := List.mem_map.1 htexts
  rw [List.length_map, List.length_map, h row hrow]

/-- The line has a text for each column, and none is wider than its column. -/
structure Fit (widths : List Nat) (texts : List String) : Prop where
  length : texts.length = widths.length
  le : ∀ (column width : Nat) (text : String), widths[column]? = some width →
    texts[column]? = some text → text.length ≤ width

theorem AreWidths.fit (h : AreWidths lines widths) (htexts : texts ∈ lines)
    (hlength : texts.length = widths.length) : Fit widths texts where
  length := hlength
  le := fun column width text hwidth htext =>
    (h column width hwidth).2 ⟨texts, htexts, text, htext, rfl⟩

theorem Fit.exists_text (h : Fit widths texts) (hwidth : widths[column]? = some width) :
    ∃ text, texts[column]? = some text ∧ text.length ≤ width := by
  have hlt : column < texts.length := by
    rw [h.length]
    exact (List.getElem?_eq_some_iff.1 hwidth).1
  have htext : texts[column]? = some texts[column] := List.getElem?_eq_getElem hlt
  exact ⟨_, htext, h.le column width _ hwidth htext⟩

/-! ### Full lines -/

/-- A line before the blanks at its end are taken away. -/
def fullLine (widths : List Nat) (texts : List String) : String :=
  String.intercalate " | " (texts.zipWith (fun text width => padEnd width text) widths)

theorem alignLine_eq_trimEnd (widths : List Nat) (texts : List String) :
    alignLine widths texts = trimEnd (fullLine widths texts) := rfl

/-- The parts of a line: each text, filled up to the width of its column. -/
def parts (widths : List Nat) (texts : List String) : List (List Char) :=
  texts.zipWith (fun text width => (padEnd width text).toList) widths

theorem toList_fullLine (widths : List Nat) (texts : List String) :
    (fullLine widths texts).toList = [' ', '|', ' '].intercalate (parts widths texts) := by
  simp [fullLine, parts, String.toList_intercalate, List.map_zipWith]

theorem toList_padEnd (width : Nat) (text : String) :
    (padEnd width text).toList = text.toList ++ List.replicate (width - text.length) ' ' := by
  simp [padEnd]

/-- A text that is no wider than its column fills it. -/
theorem length_toList_padEnd (h : text.length ≤ width) :
    (padEnd width text).toList.length = width := by
  rw [toList_padEnd, List.length_append, List.length_replicate, String.length_toList]
  omega

theorem getElem?_parts (hwidth : widths[column]? = some width)
    (htext : texts[column]? = some text) :
    (parts widths texts)[column]? = some (padEnd width text).toList := by
  simp [parts, List.getElem?_zipWith, htext, hwidth]

@[simp] theorem length_parts (widths : List Nat) (texts : List String) :
    (parts widths texts).length = min texts.length widths.length := by
  simp [parts]

/-- The parts of a line are as long as its columns are wide. -/
theorem Fit.map_length_parts (h : Fit widths texts) :
    (parts widths texts).map List.length = widths := by
  refine List.ext_getElem? fun column => ?_
  cases hwidth : widths[column]? with
  | none =>
      rw [List.getElem?_eq_none_iff] at hwidth ⊢
      rw [List.length_map, length_parts]
      omega
  | some width =>
      obtain ⟨text, htext, hle⟩ := h.exists_text hwidth
      rw [List.getElem?_map, getElem?_parts hwidth htext, Option.map_some,
        length_toList_padEnd hle]

theorem Fit.length_parts (h : Fit widths texts) : (parts widths texts).length = widths.length := by
  rw [Sheet.length_parts, h.length, Nat.min_self]

/-- A full line is as long as the rule. -/
theorem Fit.length_fullLine (h : Fit widths texts) :
    (fullLine widths texts).length = ruleLength widths := by
  rw [← String.length_toList, toList_fullLine, length_intercalate, h.map_length_parts,
    h.length_parts]
  rfl

/-- From the beginning of a column on, a full line goes on with its text. -/
theorem Fit.exists_drop_fullLine (h : Fit widths texts) (hwidth : widths[column]? = some width)
    (htext : texts[column]? = some text) :
    ∃ others : List Char, (fullLine widths texts).toList.drop (partStart 3 widths column) =
      (padEnd width text).toList ++
        if column + 1 < widths.length then [' ', '|', ' '] ++ others else [] := by
  have hdrop := drop_intercalate [' ', '|', ' '] (getElem?_parts hwidth htext)
  rw [h.map_length_parts, h.length_parts, ← toList_fullLine] at hdrop
  exact ⟨_, hdrop⟩

/-- The texts stand in the columns of a line: each where its column begins, with spaces behind it
up to the width of the column, and with a bar between two columns. -/
structure InColumns (widths : List Nat) (offset : Nat → Nat) (texts : List String) (line : String) :
    Prop where
  text : ∀ (column width : Nat) (text : String), widths[column]? = some width →
    texts[column]? = some text → text.length ≤ width ∧
      (line.toList.drop (offset column)).take width =
        text.toList ++ List.replicate (width - text.length) ' '
  bar : ∀ (column width : Nat), widths[column]? = some width → column + 1 < widths.length →
    (line.toList.drop (offset column + width)).take 3 = [' ', '|', ' ']

theorem Fit.inColumns_fullLine (h : Fit widths texts) :
    InColumns widths (partStart 3 widths) texts (fullLine widths texts) := by
  refine ⟨fun column width text hwidth htext => ?_, fun column width hwidth hnext => ?_⟩
  · have hle := h.le column width text hwidth htext
    obtain ⟨others, hdrop⟩ := h.exists_drop_fullLine hwidth htext
    rw [hdrop, List.take_left' (length_toList_padEnd hle), toList_padEnd]
    exact ⟨hle, rfl⟩
  · obtain ⟨text, htext, hle⟩ := h.exists_text hwidth
    obtain ⟨others, hdrop⟩ := h.exists_drop_fullLine hwidth htext
    rw [← List.drop_drop, hdrop, if_pos hnext, List.drop_left' (length_toList_padEnd hle)]
    rfl

/-! ### Trimmed lines -/

/-- The line shows the texts in columns: it is a line as long as the rule, with each text in its
column, but for the blanks at its end. In what is left no text is cut. All but the last stand there
as they are, and the last one stands there without the blanks at its own end. -/
structure IsAligned (widths : List Nat) (offset : Nat → Nat) (ruled : Nat) (texts : List String)
    (line : String) : Prop where
  trimmed : ∃ full : String, full.length = ruled ∧ line = trimEnd full ∧
    InColumns widths offset texts full
  whole : ∀ (column : Nat) (text : String), column + 1 < widths.length →
    texts[column]? = some text → text.toList <+: line.toList.drop (offset column)
  last : ∀ (column : Nat) (text : String), column + 1 = widths.length →
    texts[column]? = some text →
    line.toList.drop (offset column) = (trimEnd text).toList

theorem Fit.isAligned_alignLine (h : Fit widths texts) :
    IsAligned widths (partStart 3 widths) (ruleLength widths) texts (alignLine widths texts) := by
  have hdropped : ∀ count, (alignLine widths texts).toList.drop count =
      dropBlankEnd ((fullLine widths texts).toList.drop count) := by
    intro count
    rw [alignLine_eq_trimEnd, toList_trimEnd, dropBlankEnd_drop]
  refine ⟨⟨_, h.length_fullLine, rfl, h.inColumns_fullLine⟩, ?_, ?_⟩
  · intro column text hnext htext
    have hwidth : widths[column]? = some widths[column] := List.getElem?_eq_getElem _
    obtain ⟨others, hdrop⟩ := h.exists_drop_fullLine hwidth htext
    rw [hdropped, hdrop, if_pos hnext, toList_padEnd]
    -- The bar behind the text is not blank, so what stands in front of it is not trimmed.
    have hbar := prefix_dropBlankEnd_append (by decide : isBlank '|' = false)
      (text.toList ++ (List.replicate (widths[column] - text.length) ' ' ++ [' '])) (' ' :: others)
    simp only [List.append_assoc, List.cons_append, List.nil_append] at hbar ⊢
    exact (List.prefix_append _ _).trans hbar
  · intro column text hlast htext
    have hwidth : widths[column]? = some widths[column] := List.getElem?_eq_getElem _
    obtain ⟨others, hdrop⟩ := h.exists_drop_fullLine hwidth htext
    have hspaces : ∀ count, allBlank (List.replicate count ' ') = true := by
      intro count
      rw [allBlank_iff]
      intro c hc
      rw [List.eq_of_mem_replicate hc]
      decide
    rw [hdropped, hdrop, if_neg (by omega), List.append_nil, toList_padEnd,
      dropBlankEnd_append_of_allBlank (hspaces _), toList_trimEnd]

/-! ### The whole text -/

/-- Lines of unbroken texts are unbroken. -/
theorem unbroken_alignLine (h : ∀ text ∈ texts, Unbroken text) (widths : List Nat) :
    Unbroken (alignLine widths texts) := by
  intro hmem
  rw [alignLine_eq_trimEnd, toList_trimEnd] at hmem
  have hfull := (dropBlankEnd_sublist _).subset hmem
  rw [toList_fullLine, mem_intercalate_iff] at hfull
  rcases hfull with ⟨hbar, -⟩ | ⟨part, hpart, hfeed⟩
  · exact absurd hbar (by decide)
  · rw [parts, ← List.map_uncurry_zip_eq_zipWith] at hpart
    obtain ⟨⟨text, width⟩, hzip, rfl⟩ := List.mem_map.1 hpart
    rw [Function.uncurry_apply_pair, toList_padEnd, List.mem_append] at hfeed
    rcases hfeed with hfeed | hspace
    · exact h text (List.of_mem_zip hzip).1 hfeed
    · exact absurd (List.eq_of_mem_replicate hspace) (by decide)

/-- The line of dashes under the headers. -/
def ruleLine (sheet : Sheet) : String :=
  String.ofList (List.replicate (ruleLength sheet.columnWidths) '-')

theorem unbroken_ruleLine (sheet : Sheet) : Unbroken sheet.ruleLine := by
  intro hmem
  rw [ruleLine, String.toList_ofList] at hmem
  exact absurd (List.eq_of_mem_replicate hmem) (by decide)

theorem unbroken_title (h : Unbroken sheet.title) : Unbroken ("## " ++ sheet.title) := by
  rw [Unbroken, String.toList_append, List.mem_append, not_or]
  exact ⟨by decide, h⟩

theorem toText_eq_join (sheet : Sheet) :
    sheet.toText = String.join ((["## " ++ sheet.title, "",
      alignLine sheet.columnWidths sheet.headers, sheet.ruleLine] ++
        (sheet.rows.map (·.map Cell.shown)).map (alignLine sheet.columnWidths)).map (· ++ "\n")) := by
  rw [← String.toList_inj]
  simp [toText, ruleLine, columnWidths]

/-- The lines of the text, as long as no text of the sheet has a line feed. -/
theorem splitOn_toText (htitle : Unbroken sheet.title)
    (htexts : ∀ texts ∈ sheet.shownTexts, ∀ text ∈ texts, Unbroken text) :
    sheet.toText.toList.splitOn '\n' = (["## " ++ sheet.title, "",
      alignLine sheet.columnWidths sheet.headers, sheet.ruleLine] ++
        (sheet.rows.map (·.map Cell.shown)).map
          (alignLine sheet.columnWidths)).map String.toList ++ [[]] := by
  rw [toText_eq_join, splitOn_join]
  rw [shownTexts, List.forall_mem_cons] at htexts
  simp only [List.forall_mem_append, List.forall_mem_cons, List.forall_mem_map]
  refine ⟨⟨unbroken_title htitle, unbroken_empty, unbroken_alignLine htexts.1 _,
    unbroken_ruleLine sheet, by simp⟩, ?_⟩
  intro row hrow
  exact unbroken_alignLine (htexts.2 _ (List.mem_map_of_mem hrow)) _

/-- The columns of a sheet have these widths and begin at these places of a line. Each is as wide as
the widest of its texts. The first stands at the beginning of the line and each other behind the
one in front of it and a bar, and where the last one ends the rule ends as well. -/
structure Columns (sheet : Sheet) (widths : List Nat) (offset : Nat → Nat) (ruled : Nat) : Prop where
  count : widths.length = sheet.headers.length
  widest : ∀ (column width : Nat), widths[column]? = some width →
    IsGreatest (counts sheet.shownTexts column) width
  first : offset 0 = 0
  next : ∀ (column width : Nat), widths[column]? = some width →
    offset (column + 1) = offset column + width + 3
  ends : sheet.headers ≠ [] → ruled + 3 = offset sheet.headers.length

theorem columns_columnWidths (h : ∀ row ∈ sheet.rows, row.length = sheet.headers.length) :
    sheet.Columns sheet.columnWidths (partStart 3 sheet.columnWidths)
      (ruleLength sheet.columnWidths) where
  count := length_columnWidths sheet
  widest := areWidths_columnWidths h
  first := partStart_zero 3 _
  next := fun _ _ => partStart_succ 3
  ends := by
    intro hne
    have hpos := List.length_pos_iff.2 hne
    have hend := partStart_length 3 sheet.columnWidths
    rw [length_columnWidths] at hend
    rw [hend, ruleLength, length_columnWidths]
    omega

/-- **A sheet for people is aligned and complete.** If each row has a cell for each header and no
text of the sheet has a line feed, the text has four lines and one for each row, each with a line
feed at its end: the title, an empty line, the headers, the rule, and the rows in order. There are
columns, as wide as their widest texts and with a bar between two of them, in which the headers and
the cells of every row stand; the lines are as long as the rule but for the blanks at their ends,
and no text is cut. -/
theorem toText_aligned (hwidth : ∀ row ∈ sheet.rows, row.length = sheet.headers.length)
    (htitle : Unbroken sheet.title)
    (htexts : ∀ texts ∈ sheet.shownTexts, ∀ text ∈ texts, Unbroken text) :
    ∃ (widths : List Nat) (offset : Nat → Nat) (ruled : Nat) (first : String) (rest : List String),
      sheet.Columns widths offset ruled ∧
      sheet.toText.toList.splitOn '\n' = (["## " ++ sheet.title, "", first,
        String.ofList (List.replicate ruled '-')] ++ rest).map String.toList ++ [[]] ∧
      rest.length = sheet.rows.length ∧
      List.Forall₂ (IsAligned widths offset ruled) sheet.shownTexts (first :: rest) := by
  refine ⟨sheet.columnWidths, partStart 3 sheet.columnWidths, ruleLength sheet.columnWidths,
    alignLine sheet.columnWidths sheet.headers,
    (sheet.rows.map fun row : List Cell => row.map Cell.shown).map (alignLine sheet.columnWidths),
    columns_columnWidths hwidth, splitOn_toText htitle htexts, by simp, ?_⟩
  rw [← List.map_cons, List.forall₂_map_right_iff]
  refine List.forall₂_same.2 fun texts hmem => ?_
  refine ((areWidths_columnWidths hwidth).fit hmem ?_).isAligned_alignLine
  rw [length_columnWidths]
  rw [shownTexts, List.mem_cons, List.mem_map] at hmem
  obtain rfl | ⟨row, hrow, rfl⟩ := hmem
  · rfl
  · rw [List.length_map, hwidth row hrow]

/-- A sheet with a text that is wider than its header, and with empty cells at the end of a row. -/
theorem toText_aligned_of_wide :
    let sheet : Sheet := ⟨"t", ["size", "a", "a[speedup]"],
      [[.text "8", .text "1,000", .number 1], [.text "64", .empty, .empty]]⟩
    (∀ row ∈ sheet.rows, row.length = sheet.headers.length) ∧ Unbroken sheet.title ∧
    (∀ texts ∈ sheet.shownTexts, ∀ text ∈ texts, Unbroken text) ∧
    ∃ (widths : List Nat) (offset : Nat → Nat) (ruled : Nat) (first second third : String),
      sheet.Columns widths offset ruled ∧
      sheet.toText.toList.splitOn '\n' = ["## t", "", first,
        String.ofList (List.replicate ruled '-'), second, third].map String.toList ++ [[]] ∧
      IsAligned widths offset ruled ["size", "a", "a[speedup]"] first ∧
      IsAligned widths offset ruled ["8", "1,000", "1.00"] second ∧
      IsAligned widths offset ruled ["64", "", ""] third := by
  intro sheet
  have hwidth : ∀ row ∈ sheet.rows, row.length = sheet.headers.length := by decide
  have htitle : Unbroken sheet.title := by
    unfold Unbroken
    decide
  have hshown : sheet.shownTexts =
      [["size", "a", "a[speedup]"], ["8", "1,000", "1.00"], ["64", "", ""]] := by
    decide +kernel
  have htexts : ∀ texts ∈ sheet.shownTexts, ∀ text ∈ texts, Unbroken text := by
    rw [hshown]
    unfold Unbroken
    decide
  obtain ⟨widths, offset, ruled, first, rest, hcolumns, hsplit, -, haligned⟩ :=
    toText_aligned hwidth htitle htexts
  rw [hshown, List.forall₂_cons] at haligned
  obtain ⟨hfirst, hrest⟩ := haligned
  obtain ⟨second, others, hsecond, hothers, rfl⟩ := List.forall₂_cons_left_iff.1 hrest
  obtain ⟨third, none, hthird, hnone, rfl⟩ := List.forall₂_cons_left_iff.1 hothers
  obtain rfl := List.forall₂_nil_left_iff.1 hnone
  exact ⟨hwidth, htitle, htexts, widths, offset, ruled, first, second, third, hcolumns, hsplit,
    hfirst, hsecond, hthird⟩

/-- An empty cell at the end of a line leaves its bar and nothing behind it. -/
example : (Sheet.mk "t" ["size", "a"] [[.text "8", .text "1,000"], [.text "64", .empty]]).toText =
    "## t\n\nsize | a\n------------\n8    | 1,000\n64   |\n" := by
  cbv

end BenchBoard.Sheet
