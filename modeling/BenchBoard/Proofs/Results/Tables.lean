import BenchBoard.Proofs.Csv.Reading
import BenchBoard.Proofs.Refusals
import BenchBoard.Proofs.Results.Fields
import BenchBoard.Proofs.Text.Lines
import BenchBoard.Results.Table
/-!
# BenchBoard.Proofs.Results.Tables

**A table is exactly what its text says.** The lines that are not blank are numbered and divided
at the first one that begins with `name` (`Divides`): that line heads the table (`Heads`), and
each line after it is one record (`Holds`). Nothing else decides, apart from the limits
(`WithinLimits`), which only refuse.

Each phase of the reader has one lemma that says what it accepts (`readHeader_eq_ok_iff`,
`readRecords_eq_ok_iff`), by induction on the lines with their numbers; blank lines drop out
of both sides.
-/

namespace BenchBoard

open BenchBoard.Text

/-- The quantity is not greater than its limit. -/
def Limits.Admits (limits : Limits) (quantity : Quantity) (actual : Nat) : Prop :=
  ∀ bound ∈ limits.bound quantity, actual ≤ bound

theorem Limits.check_eq_ok_iff_admits {limits : Limits} {quantity : Quantity} {actual : Nat}
    {done : Unit} : limits.check quantity actual = .ok done ↔ limits.Admits quantity actual :=
  Limits.check_eq_ok_iff

namespace ResultTable

variable {limits : Limits} {header : Header} {raw : List Char} {ls rest : List (List Char)}
  {names : List String} {count n k : Nat}

/-! ### Numbered lines -/

/-- A line and its number. -/
abbrev NumberedLine := List Char × Nat

/-- The lines that are not blank, where `n` is the number of the first line. -/
def numbered (n : Nat) (ls : List (List Char)) : List NumberedLine :=
  (ls.zipIdx n).filter fun line => !allBlank line.1

@[simp] theorem numbered_nil (n : Nat) : numbered n [] = [] := rfl

theorem numbered_cons_of_blank (h : allBlank raw = true) (n : Nat) (ls : List (List Char)) :
    numbered n (raw :: ls) = numbered (n + 1) ls := by
  rw [numbered, List.zipIdx_cons, List.filter_cons_of_neg (by simp [h])]
  rfl

theorem numbered_cons_of_not_blank (h : allBlank raw = false) (n : Nat)
    (ls : List (List Char)) :
    numbered n (raw :: ls) = (raw, n) :: numbered (n + 1) ls := by
  rw [numbered, List.zipIdx_cons, List.filter_cons_of_pos (by simp [h])]
  rfl

/-- A number has one line. -/
theorem eq_of_mem_numbered {line : Nat} {other : List Char} (h : (raw, line) ∈ numbered n ls)
    (h' : (other, line) ∈ numbered n ls) : raw = other := by
  have hplace := List.mem_zipIdx_iff_le_and_getElem?_sub.1 (List.mem_of_mem_filter h)
  have hplace' := List.mem_zipIdx_iff_le_and_getElem?_sub.1 (List.mem_of_mem_filter h')
  exact Option.some.inj (hplace.2.symm.trans hplace'.2)

/-! ### One line -/

/-- The line begins with `name` after its blanks. -/
def Opens (raw : List Char) : Prop :=
  ∃ blanks rest, allBlank blanks = true ∧ raw = blanks ++ (nameField.toList ++ rest)

theorem opensTable_iff : opensTable raw = true ↔ Opens raw := by
  rw [opensTable, List.isPrefixOf_iff_prefix]
  constructor
  · rintro ⟨rest, hrest⟩
    obtain ⟨blanks, hblanks, hraw⟩ := allBlank_append_dropBlank raw
    exact ⟨blanks, rest, hblanks, by rw [hrest]; exact hraw⟩
  · rintro ⟨blanks, rest, hblanks, rfl⟩
    rw [dropBlank_append_of_allBlank hblanks]
    have hname : dropBlank (nameField.toList ++ rest) = nameField.toList ++ rest :=
      dropBlank_cons_of_not_blank rfl
    rw [hname]
    exact List.prefix_append _ _

theorem parseLine_eq_ok_iff {texts : List String} :
    parseLine n raw = .ok texts ↔ Csv.parse (String.ofList raw) = .ok texts := by
  rw [Csv.parse_eq_ok_iff, String.toList_ofList]
  unfold parseLine
  cases Csv.parseChars raw with
  | error e => simp
  | ok fields => simp [eq_comm]

/-- The fields of the line are these names, which can head a table, and empty ones after
them. -/
def Heads (raw : List Char) (names : List String) : Prop :=
  IsSchema names ∧ ∃ texts k, Csv.parse (String.ofList raw) = .ok texts ∧
    texts.map trim = names ++ List.replicate k ""

/-- The fields of the line fit under the names. -/
def Fits (names : List String) (line : NumberedLine) : Prop :=
  ∃ texts, Csv.parse (String.ofList line.1) = .ok texts ∧ FitsUnder names.length texts

/-- The record holds the fields of the line, which fit under the names. -/
def Holds (names : List String) (line : NumberedLine) (record : Record) : Prop :=
  ∃ texts, Csv.parse (String.ofList line.1) = .ok texts ∧ FitsUnder names.length texts ∧
    record.Keeps names texts line.2

/-- Every line that fits has its record. -/
theorem exists_holds (hdistinct : names.Nodup) {line : NumberedLine} (h : Fits names line) :
    ∃ record, Holds names line record := by
  obtain ⟨texts, hparse, hfits⟩ := h
  exact ⟨_, texts, hparse, hfits, (Record.keeps_iff hdistinct hfits.1).2 rfl⟩

theorem Holds.fits {line : NumberedLine} {record : Record} (h : Holds names line record) :
    Fits names line := by
  obtain ⟨texts, hparse, hfits, -⟩ := h
  exact ⟨texts, hparse, hfits⟩

theorem headerOfLine_eq_ok_iff :
    headerOfLine limits n raw = .ok header ↔
      Heads raw header.fields ∧ limits.Admits .columns header.size := by
  unfold headerOfLine Heads
  simp only [bind_eq_ok_iff, Limits.check_eq_ok_iff_admits, exists_const,
    parseLine_eq_ok_iff, Header.ofFields_eq_ok_iff]
  constructor
  · rintro ⟨texts, hparse, other, ⟨hschema, k, hk⟩, hcolumns, hheader⟩
    cases hheader
    exact ⟨⟨hschema, texts, k, hparse, hk⟩, hcolumns⟩
  · rintro ⟨⟨hschema, texts, k, hparse, hk⟩, hcolumns⟩
    exact ⟨texts, hparse, header, ⟨hschema, k, hk⟩, hcolumns, rfl⟩

theorem recordOfLine_eq_ok_iff (hdistinct : header.fields.Nodup) {record : Record} :
    recordOfLine limits header count n raw = .ok record ↔
      limits.Admits .lineLength (byteLength raw) ∧ Holds header.fields (raw, n) record ∧
        limits.Admits .records count := by
  unfold recordOfLine Holds
  simp only [bind_eq_ok_iff, Limits.check_eq_ok_iff_admits, exists_const,
    parseLine_eq_ok_iff, Record.ofValues_eq_ok_iff]
  constructor
  · rintro ⟨hlength, texts, hparse, other, ⟨hfits, hother⟩, hrecords, hrecord⟩
    cases hrecord
    exact ⟨hlength, ⟨texts, hparse, hfits, (Record.keeps_iff hdistinct hfits.1).2 hother⟩,
      hrecords⟩
  · rintro ⟨hlength, ⟨texts, hparse, hfits, hkeeps⟩, hrecords⟩
    exact ⟨hlength, texts, hparse, record,
      ⟨hfits, (Record.keeps_iff hdistinct hfits.1).1 hkeeps⟩, hrecords, rfl⟩

/-! ### The header -/

/-- The lines are divided at the first one that begins with `name`. -/
structure Divides (lines before : List NumberedLine) (opening : NumberedLine)
    (after : List NumberedLine) : Prop where
  parts : lines = before ++ opening :: after
  opens : Opens opening.1
  first : ∀ line ∈ before, ¬ Opens line.1

/-- A line that begins with `name` has no line in front of it. -/
theorem divides_cons_of_opens {lines before after : List NumberedLine}
    {line opening : NumberedLine} (h : Opens line.1) :
    Divides (line :: lines) before opening after ↔
      before = [] ∧ opening = line ∧ after = lines := by
  constructor
  · rintro ⟨hparts, -, hfirst⟩
    rcases List.cons_eq_append_iff.1 hparts with ⟨rfl, hopening⟩ | ⟨others, rfl, -⟩
    · obtain ⟨rfl, rfl⟩ := List.cons.inj hopening
      exact ⟨rfl, rfl, rfl⟩
    · exact absurd h (hfirst line List.mem_cons_self)
  · rintro ⟨rfl, rfl, rfl⟩
    exact ⟨rfl, h, by simp⟩

/-- A line that does not begin with `name` is in front of the one that does. -/
theorem divides_cons_of_not_opens {lines before after : List NumberedLine}
    {line opening : NumberedLine} (h : ¬ Opens line.1) :
    Divides (line :: lines) before opening after ↔
      ∃ others, before = line :: others ∧ Divides lines others opening after := by
  constructor
  · rintro ⟨hparts, hopens, hfirst⟩
    rcases List.cons_eq_append_iff.1 hparts with ⟨rfl, hopening⟩ | ⟨others, rfl, hothers⟩
    · obtain ⟨rfl, -⟩ := List.cons.inj hopening
      exact absurd hopens h
    · rw [List.forall_mem_cons] at hfirst
      exact ⟨others, rfl, hothers, hopens, hfirst.2⟩
  · rintro ⟨others, rfl, hparts, hopens, hfirst⟩
    exact ⟨by rw [hparts]; rfl, hopens, List.forall_mem_cons.2 ⟨h, hfirst⟩⟩

theorem readHeader_cons_of_blank (h : allBlank raw = true) :
    readHeader limits n (raw :: ls) = readHeader limits (n + 1) ls := by
  rw [readHeader, if_pos h]

theorem readHeader_cons_of_opens (hb : allBlank raw = false) (h : Opens raw) :
    readHeader limits n (raw :: ls) = .ok (header, k, rest) ↔
      limits.Admits .lineLength (byteLength raw) ∧
        (Heads raw header.fields ∧ limits.Admits .columns header.size) ∧ n = k ∧ ls = rest := by
  rw [readHeader, if_neg (by simp [hb]), if_pos (opensTable_iff.2 h)]
  simp only [bind_eq_ok_iff, Limits.check_eq_ok_iff_admits, exists_const,
    headerOfLine_eq_ok_iff]
  constructor
  · rintro ⟨hlength, other, hheads, hfound⟩
    cases hfound
    exact ⟨hlength, hheads, rfl, rfl⟩
  · rintro ⟨hlength, hheads, rfl, rfl⟩
    exact ⟨hlength, header, hheads, rfl⟩

theorem readHeader_cons_of_not_opens (hb : allBlank raw = false) (h : ¬ Opens raw) :
    readHeader limits n (raw :: ls) = .ok (header, k, rest) ↔
      limits.Admits .lineLength (byteLength raw) ∧
        readHeader limits (n + 1) ls = .ok (header, k, rest) := by
  rw [readHeader, if_neg (by simp [hb]), if_neg (mt opensTable_iff.1 h)]
  simp only [bind_eq_ok_iff, Limits.check_eq_ok_iff_admits, exists_const]

/-- The header is found where the lines are divided, and reading goes on after it. -/
theorem readHeader_eq_ok_iff {after : List NumberedLine} :
    (∃ rest, readHeader limits n ls = .ok (header, k, rest) ∧ numbered (k + 1) rest = after) ↔
      ∃ before raw, Divides (numbered n ls) before (raw, k) after ∧
        (∀ line ∈ before ++ [(raw, k)], limits.Admits .lineLength (byteLength line.1)) ∧
        Heads raw header.fields ∧ limits.Admits .columns header.size := by
  induction ls generalizing n with
  | nil =>
      constructor
      · rintro ⟨rest, h, -⟩
        cases h
      · rintro ⟨before, raw, hdivides, -⟩
        exact absurd hdivides.parts (by simp)
  | cons raw ls ih =>
      cases hb : allBlank raw with
      | true =>
          -- A blank line only counts.
          rw [readHeader_cons_of_blank hb, ih, numbered_cons_of_blank hb]
      | false =>
          rw [numbered_cons_of_not_blank hb]
          by_cases hopens : Opens raw
          · -- This line is the header, and nothing stands in front of it.
            have hline : Opens ((raw, n) : NumberedLine).1 := hopens
            simp only [readHeader_cons_of_opens hb hopens, divides_cons_of_opens hline]
            constructor
            · rintro ⟨rest, ⟨hlength, hheads, rfl, rfl⟩, rfl⟩
              exact ⟨[], raw, ⟨rfl, rfl, rfl⟩, by simpa using hlength, hheads⟩
            · rintro ⟨before, other, ⟨rfl, hline, rfl⟩, hlengths, hheads⟩
              cases hline
              exact ⟨ls, ⟨by simpa using hlengths, hheads, rfl, rfl⟩, rfl⟩
          · -- The line belongs to the preamble, and only its length is looked at.
            have hline : ¬ Opens ((raw, n) : NumberedLine).1 := hopens
            simp only [readHeader_cons_of_not_opens hb hopens, divides_cons_of_not_opens hline]
            constructor
            · rintro ⟨rest, ⟨hlength, hfound⟩, hafter⟩
              obtain ⟨before, other, hdivides, hlengths, hheads⟩ := ih.1 ⟨rest, hfound, hafter⟩
              exact ⟨(raw, n) :: before, other, ⟨before, rfl, hdivides⟩,
                List.forall_mem_cons.2 ⟨hlength, hlengths⟩, hheads⟩
            · rintro ⟨before, other, ⟨others, rfl, hdivides⟩, hlengths, hheads⟩
              rw [List.cons_append, List.forall_mem_cons] at hlengths
              obtain ⟨rest, hfound, hafter⟩ := ih.2
                ⟨others, other, hdivides, hlengths.2, hheads⟩
              exact ⟨rest, ⟨hlengths.1, hfound⟩, hafter⟩

/-! ### The records -/

/-- The lines become records one by one, in order, as long as there are not too many. -/
theorem readRecords_eq_ok_iff (hdistinct : header.fields.Nodup) {records : List Record}
    (hcount : limits.Admits .records count) :
    readRecords limits header count n ls = .ok records ↔
      List.Forall₂ (Holds header.fields) (numbered n ls) records ∧
        (∀ line ∈ numbered n ls, limits.Admits .lineLength (byteLength line.1)) ∧
        limits.Admits .records (count + records.length) := by
  induction ls generalizing n count records with
  | nil =>
      rw [readRecords, numbered_nil, List.forall₂_nil_left_iff]
      constructor
      · intro h
        cases h
        exact ⟨rfl, by simp, hcount⟩
      · rintro ⟨rfl, -⟩
        rfl
  | cons raw ls ih =>
      rw [readRecords]
      cases hb : allBlank raw with
      | true =>
          rw [if_pos rfl, numbered_cons_of_blank hb]
          exact ih hcount
      | false =>
          rw [if_neg (by simp), numbered_cons_of_not_blank hb]
          simp only [bind_eq_ok_iff, recordOfLine_eq_ok_iff hdistinct, List.forall_mem_cons]
          constructor
          · rintro ⟨record, ⟨hlength, hholds, hmore⟩, others, hrest, hrecords⟩
            cases hrecords
            obtain ⟨hothers, hlengths, htotal⟩ := (ih hmore).1 hrest
            refine ⟨.cons hholds hothers, ⟨hlength, hlengths⟩, ?_⟩
            rwa [List.length_cons, Nat.add_comm others.length, ← Nat.add_assoc]
          · rintro ⟨hall, ⟨hlength, hlengths⟩, htotal⟩
            cases hall with
            | @cons _ record _ others hholds hothers =>
                rw [List.length_cons, Nat.add_comm others.length, ← Nat.add_assoc] at htotal
                -- What admits all records admits the first of them.
                have hmore : limits.Admits .records (count + 1) :=
                  fun bound hbound => Nat.le_trans (Nat.le_add_right _ _) (htotal bound hbound)
                exact ⟨record, ⟨hlength, hholds, hmore⟩, others,
                  (ih hmore).2 ⟨hothers, hlengths, htotal⟩, rfl⟩

/-! ### The table -/

/-- The limits admit the text, its lines that are not blank, and a table of this size. -/
structure WithinLimits (limits : Limits) (text : String) (lines : List NumberedLine)
    (columns records : Nat) : Prop where
  text : limits.Admits .inputSize (byteLength text.toList)
  lines : ∀ line ∈ lines, limits.Admits .lineLength (byteLength line.1)
  columns : limits.Admits .columns columns
  records : limits.Admits .records records

/-- The table is the one of these lines. -/
def Describes (lines : List NumberedLine) (table : ResultTable) : Prop :=
  ∃ before opening after, Divides lines before opening after ∧
    Heads opening.1 table.header.fields ∧ table.headerLine = opening.2 ∧
    List.Forall₂ (Holds table.header.fields) after table.records

theorem parse_eq_ok_iff_describes {text : String} {table : ResultTable} :
    parse limits text = .ok table ↔
      Describes (numbered 1 (lines (withoutMark text.toList))) table ∧
        WithinLimits limits text (numbered 1 (lines (withoutMark text.toList)))
          table.header.size table.size := by
  unfold parse ofLines
  generalize lines (withoutMark text.toList) = ls
  simp only [bind_eq_ok_iff, Limits.check_eq_ok_iff_admits, exists_const]
  have hzero : limits.Admits .records 0 := fun bound _ => Nat.zero_le bound
  constructor
  · rintro ⟨hinput, ⟨header, k, rest⟩, hheader, records, hrecords, htable⟩
    cases htable
    obtain ⟨before, raw, hdivides, hbefore, hheads, hcolumns⟩ :=
      readHeader_eq_ok_iff.1 ⟨rest, hheader, rfl⟩
    obtain ⟨hholds, hafter, htotal⟩ :=
      (readRecords_eq_ok_iff hheads.1.distinct hzero).1 hrecords
    rw [Nat.zero_add] at htotal
    refine ⟨⟨before, (raw, k), _, hdivides, hheads, rfl, hholds⟩, hinput, ?_, hcolumns, htotal⟩
    rw [hdivides.parts]
    intro line hline
    rcases List.mem_append.1 hline with hline | hline
    · exact hbefore line (List.mem_append_left _ hline)
    · rcases List.mem_cons.1 hline with rfl | hline
      · exact hbefore _ (List.mem_append_right _ List.mem_cons_self)
      · exact hafter line hline
  · rintro ⟨⟨before, ⟨raw, k⟩, after, hdivides, hheads, hk, hholds⟩, hwithin⟩
    obtain ⟨header, headerLine, records⟩ := table
    obtain rfl : headerLine = k := hk
    have hlines := hwithin.lines
    rw [hdivides.parts] at hlines
    obtain ⟨rest, hheader, rfl⟩ := readHeader_eq_ok_iff.2 ⟨before, raw, hdivides, by
      intro line hline
      refine hlines line ?_
      rcases List.mem_append.1 hline with hline | hline
      · exact List.mem_append_left _ hline
      · rw [List.mem_singleton.1 hline]
        exact List.mem_append_right _ List.mem_cons_self, hheads, hwithin.columns⟩
    have hafter : ∀ line ∈ numbered (headerLine + 1) rest,
        limits.Admits .lineLength (byteLength line.1) := fun line hline =>
      hlines line (List.mem_append_right _ (List.mem_cons_of_mem _ hline))
    have htotal : limits.Admits .records (0 + records.length) := by
      rw [Nat.zero_add]
      exact hwithin.records
    exact ⟨hwithin.text, _, hheader, records,
      (readRecords_eq_ok_iff hheads.1.distinct hzero).2 ⟨hholds, hafter, htotal⟩, rfl⟩

section Accepted

variable {text : String} {table : ResultTable} {record : Record}

/-- The fields of an accepted table have different names. -/
theorem nodup_of_parse (h : parse limits text = .ok table) : table.header.fields.Nodup := by
  obtain ⟨⟨before, opening, after, -, hheads, -⟩, -⟩ := parse_eq_ok_iff_describes.1 h
  exact hheads.1.distinct

/-- Each record of an accepted table holds a line of its text. -/
theorem exists_line_of_parse (h : parse limits text = .ok table)
    (hrecord : record ∈ table.records) :
    ∃ line ∈ numbered 1 (lines (withoutMark text.toList)),
      Holds table.header.fields line record := by
  obtain ⟨⟨before, opening, after, hdivides, -, -, hholds⟩, -⟩ := parse_eq_ok_iff_describes.1 h
  obtain ⟨line, hline, hrecordOf⟩ := exists_of_forall₂ hholds record hrecord
  rw [hdivides.parts]
  exact ⟨line, List.mem_append_right _ (List.mem_cons_of_mem _ hline), hrecordOf⟩

end Accepted

/-- Lines that fit have records. -/
theorem exists_records {lines : List NumberedLine} (hdistinct : names.Nodup)
    (h : ∀ line ∈ lines, Fits names line) :
    ∃ records, List.Forall₂ (Holds names) lines records := by
  induction lines with
  | nil => exact ⟨[], .nil⟩
  | cons line lines ih =>
      rw [List.forall_mem_cons] at h
      obtain ⟨record, hrecord⟩ := exists_holds hdistinct h.1
      obtain ⟨records, hrecords⟩ := ih h.2
      exact ⟨record :: records, .cons hrecord hrecords⟩

theorem fits_of_holds {lines : List NumberedLine} {records : List Record}
    (h : List.Forall₂ (Holds names) lines records) : ∀ line ∈ lines, Fits names line := by
  induction h with
  | nil => simp
  | cons hline _ ih => exact List.forall_mem_cons.2 ⟨hline.fits, ih⟩

/-- **A table is built exactly of what its text says.** A text has a table if and only if its
lines can be divided at a first one that begins with `name`, that line heads a table, every
line after it fits under its names, and the limits admit them. The table that is given then has
these names, the number of that line, and one record for each line after it that is not blank,
in order, with its number and its trimmed values under their names. -/
theorem parse_exact (limits : Limits) (text : String) :
    ∃ ls, Lined (withoutMark text.toList) ls ∧
      ((∃ table, parse limits text = .ok table) ↔
        ∃ before opening after names, Divides (numbered 1 ls) before opening after ∧
          Heads opening.1 names ∧ (∀ line ∈ after, Fits names line) ∧
          WithinLimits limits text (numbered 1 ls) names.length after.length) ∧
      ∀ table, parse limits text = .ok table ↔
        Describes (numbered 1 ls) table ∧
          WithinLimits limits text (numbered 1 ls) table.header.size table.size := by
  refine ⟨lines (withoutMark text.toList), lined_iff.2 rfl, ⟨?_, ?_⟩,
    fun table => parse_eq_ok_iff_describes⟩
  · rintro ⟨table, h⟩
    obtain ⟨⟨before, opening, after, hdivides, hheads, -, hholds⟩, hwithin⟩ :=
      parse_eq_ok_iff_describes.1 h
    refine ⟨before, opening, after, _, hdivides, hheads, fits_of_holds hholds, ?_⟩
    rw [hholds.length_eq]
    exact hwithin
  · rintro ⟨before, opening, after, names, hdivides, hheads, hfits, hwithin⟩
    obtain ⟨records, hrecords⟩ := exists_records hheads.1.distinct hfits
    rw [hrecords.length_eq] at hwithin
    exact ⟨⟨⟨names⟩, opening.2, records⟩, parse_eq_ok_iff_describes.2
      ⟨⟨before, opening, after, hdivides, hheads, rfl, hrecords⟩, hwithin⟩⟩

end ResultTable

end BenchBoard
