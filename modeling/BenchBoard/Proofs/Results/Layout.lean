import Mathlib.Logic.Relation
import BenchBoard.Proofs.Csv.Padding
import BenchBoard.Proofs.Results.Errors
/-!
# BenchBoard.Proofs.Results.Layout

**The layout of a result file does not matter.** Line ends may be written with a carriage return,
blanks may stand around any line, commas may stand behind the header and the records, and a byte
order mark in front of the text (`Relaid`): the table stays the same. If line ends are all that
changes, an error stays the same as well (`withReturns`).

What an edit does to a line is said once for the line (`Alike`, `Widened`), and both readers only
see that much of it. Where in the text the line stands, and what is done to the others, plays no
part: the edited text has the edited lines one by one, and blanks behind the last line end are one
more line, which is passed over (`Relaid.widened_lines`).
-/

namespace BenchBoard.ResultTable

open BenchBoard.Text

/-! ### What may be changed -/

/-- One edit of a line. -/
inductive LineEdit : List Char → List Char → Prop
  | front {c line} : isBlank c = true → c ≠ '\n' → LineEdit line (c :: line)
  | back {c line} : isBlank c = true → c ≠ '\n' → LineEdit line (line ++ [c])
  /-- A comma is no edit of a blank line, which has no fields. -/
  | comma {line} : allBlank line = false → LineEdit line (line ++ [','])

/-- Any number of edits of a line, in any order. -/
abbrev Edited : List Char → List Char → Prop :=
  Relation.ReflTransGen LineEdit

/-- The text with each of its lines edited, and some line feeds turned into a carriage return and a
line feed. -/
inductive Relaid : List Char → List Char → Prop
  /-- The text behind the last line end. It may be empty, and still be given blanks. -/
  | last {line line'} : '\n' ∉ line → Edited line line' → Relaid line line'
  | feed {line line' rest rest'} : '\n' ∉ line → Edited line line' → Relaid rest rest' →
      Relaid (line ++ '\n' :: rest) (line' ++ '\n' :: rest')
  | turned {line line' rest rest'} : '\n' ∉ line → Edited line line' → Relaid rest rest' →
      Relaid (line ++ '\n' :: rest) (line' ++ '\r' :: '\n' :: rest')
  | returnFeed {line line' rest rest'} : '\n' ∉ line → Edited line line' → Relaid rest rest' →
      Relaid (line ++ '\r' :: '\n' :: rest) (line' ++ '\r' :: '\n' :: rest')

variable {limits : Limits} {header : Header} {raw raw' raw'' line line' rest rest' : List Char}
  {cs cs' : List Char} {c : Char} {ls ls' : List (List Char)} {count n : Nat}

/-! ### Lines that read the same -/

/-- The lines differ in nothing that a reader sees. -/
structure Alike (raw raw' : List Char) : Prop where
  blank : allBlank raw' = allBlank raw
  opens : opensTable raw' = opensTable raw
  fields : Csv.parseChars raw' = Csv.parseChars raw

/-- The second line reads like the first one, but for empty fields behind the others. -/
structure Widened (raw raw' : List Char) : Prop where
  blank : allBlank raw' = allBlank raw
  opens : opensTable raw' = opensTable raw
  fields : ∀ texts, Csv.parseChars raw = .ok texts →
    ∃ k, Csv.parseChars raw' = .ok (texts ++ List.replicate k [])

theorem Alike.refl (raw : List Char) : Alike raw raw :=
  ⟨rfl, rfl, rfl⟩

theorem Alike.symm (h : Alike raw raw') : Alike raw' raw :=
  ⟨h.blank.symm, h.opens.symm, h.fields.symm⟩

theorem Alike.widened (h : Alike raw raw') : Widened raw raw' :=
  ⟨h.blank, h.opens, fun texts htexts => ⟨0, by rw [h.fields, htexts]; simp⟩⟩

theorem Widened.trans (h : Widened raw raw') (h' : Widened raw' raw'') : Widened raw raw'' := by
  refine ⟨h'.blank.trans h.blank, h'.opens.trans h.opens, fun texts htexts => ?_⟩
  obtain ⟨k, hk⟩ := h.fields texts htexts
  obtain ⟨j, hj⟩ := h'.fields _ hk
  exact ⟨k + j, by rw [hj, List.append_assoc, List.replicate_append_replicate]⟩

/-! ### What an edit does to a line -/

theorem name_prefix_append (hc : c ∉ nameField.toList) (cs : List Char) :
    nameField.toList.isPrefixOf (cs ++ [c]) = nameField.toList.isPrefixOf cs := by
  rw [Bool.eq_iff_iff, List.isPrefixOf_iff_prefix, List.isPrefixOf_iff_prefix,
    List.prefix_concat_iff]
  refine ⟨fun h => h.resolve_left fun heq => hc ?_, .inr⟩
  rw [heq]
  simp

theorem not_mem_name_of_isBlank (hc : isBlank c = true) : c ∉ nameField.toList := by
  intro hmem
  have hplain : nameField.toList.all (fun d => !isBlank d) = true := by decide
  have hfalse := List.all_eq_true.1 hplain c hmem
  rw [hc] at hfalse
  cases hfalse

/-- A blank at the end of a line changes nothing. -/
theorem alike_append_blank (hc : isBlank c = true) (raw : List Char) : Alike raw (raw ++ [c]) := by
  have hb : allBlank [c] = true := by simpa using hc
  refine ⟨by rw [allBlank_append, hb, Bool.and_true], ?_, Csv.parseChars_append_blank hb raw⟩
  rw [opensTable, dropBlank_append_blank hb]
  split
  · rename_i hraw
    rw [opensTable, dropBlank_eq_nil_iff.2 hraw]
  · rw [name_prefix_append (not_mem_name_of_isBlank hc), opensTable]

/-- A blank in front of a line changes nothing if it is accepted. -/
theorem widened_cons_blank (hc : isBlank c = true) (raw : List Char) : Widened raw (c :: raw) := by
  have hb : allBlank [c] = true := by simpa using hc
  refine ⟨by rw [allBlank_cons, hc, Bool.true_and], ?_, fun texts htexts => ⟨0, ?_⟩⟩
  · rw [opensTable, dropBlank_cons_of_blank hc, opensTable]
  · have hread := Csv.parseChars_blank_append hb htexts
    simpa using hread

/-- A comma at the end of a line that is not blank adds an empty field. -/
theorem widened_append_comma (hraw : allBlank raw = false) : Widened raw (raw ++ [',']) := by
  refine ⟨by rw [allBlank_append, hraw, Bool.false_and], ?_, fun texts htexts => ⟨1, ?_⟩⟩
  · have hdrop : dropBlank (raw ++ [',']) = dropBlank raw ++ [','] :=
      dropBlank_append (dropBlank_cons_of_not_blank rfl)
    rw [opensTable, hdrop, name_prefix_append (by decide), opensTable]
  · exact Csv.parseChars_append_comma hraw htexts

/-! ### The readers see no more of a line -/

theorem Alike.parseLine (h : Alike raw raw') (n : Nat) : parseLine n raw' = parseLine n raw := by
  unfold ResultTable.parseLine
  rw [h.fields]

theorem Widened.parseLine (h : Widened raw raw') {texts : List String}
    (htexts : parseLine n raw = .ok texts) :
    ∃ k, ResultTable.parseLine n raw' = .ok (texts ++ List.replicate k "") := by
  rw [parseLine_eq_ok_iff, Csv.parse_eq_ok_iff, String.toList_ofList] at htexts
  obtain ⟨fields, hfields, rfl⟩ := htexts
  obtain ⟨k, hk⟩ := h.fields fields hfields
  refine ⟨k, ?_⟩
  rw [parseLine_eq_ok_iff, Csv.parse_eq_ok_iff, String.toList_ofList]
  exact ⟨_, hk, by simp⟩

/-- Empty fields behind a header are dropped. -/
theorem Widened.headerOfLine (h : Widened raw raw')
    (hheader : headerOfLine .unlimited n raw = .ok header) :
    ResultTable.headerOfLine .unlimited n raw' = .ok header := by
  simp only [ResultTable.headerOfLine, bind_eq_ok_iff, Header.ofFields_eq_ok_iff] at hheader ⊢
  obtain ⟨texts, htexts, other, ⟨hschema, k, hk⟩, hrest⟩ := hheader
  obtain ⟨j, hj⟩ := h.parseLine htexts
  refine ⟨_, hj, other, ⟨hschema, k + j, ?_⟩, hrest⟩
  rw [List.map_append, hk, List.append_assoc, List.map_replicate]
  exact congrArg (other.fields ++ ·) List.replicate_append_replicate

theorem Widened.recordOfLine (h : Widened raw raw') {record : Record}
    (hrecord : recordOfLine .unlimited header count n raw = .ok record) :
    ResultTable.recordOfLine .unlimited header count n raw' = .ok record := by
  simp only [ResultTable.recordOfLine, bind_eq_ok_iff, Limits.check_unlimited] at hrecord ⊢
  obtain ⟨done, hlength, texts, htexts, other, hother, hrest⟩ := hrecord
  obtain ⟨k, hk⟩ := h.parseLine htexts
  exact ⟨done, hlength, _, hk, other, Record.ofValues_append_empty hother k, hrest⟩

theorem Alike.headerOfLine (h : Alike raw raw') (limits : Limits) (n : Nat) :
    headerOfLine limits n raw' = ResultTable.headerOfLine limits n raw := by
  unfold ResultTable.headerOfLine
  rw [h.parseLine]

theorem Alike.recordOfLine (h : Alike raw raw') (header : Header) (count n : Nat) :
    recordOfLine .unlimited header count n raw' =
      ResultTable.recordOfLine .unlimited header count n raw := by
  unfold ResultTable.recordOfLine
  simp only [h.parseLine, Limits.check_unlimited]

/-! ### Texts of such lines -/

/-- What the first line does when there are no limits: it is passed over, or it is the header. -/
theorem readLines_cons_unlimited (n : Nat) (raw : List Char) (ls : List (List Char)) :
    readLines .unlimited n (raw :: ls) =
      if allBlank raw = false ∧ opensTable raw = true then do
        let header ← headerOfLine .unlimited n raw
        let records ← readRecords .unlimited header 0 (n + 1) ls
        return ⟨header, n, records⟩
      else readLines .unlimited (n + 1) ls := by
  unfold readLines
  rw [readHeader]
  cases allBlank raw with
  | true => simp
  | false =>
      cases opensTable raw with
      | false => rfl
      | true =>
          cases headerOfLine .unlimited n raw <;> rfl

theorem readRecords_alike (h : List.Forall₂ Alike ls ls') (header : Header) (count n : Nat) :
    readRecords .unlimited header count n ls' = readRecords .unlimited header count n ls := by
  induction h generalizing count n with
  | nil => rfl
  | cons hline _ ih =>
      rw [readRecords, readRecords, hline.blank, hline.recordOfLine]
      simp only [ih]

theorem readRecords_widened (h : List.Forall₂ Widened ls ls') {records : List Record}
    (hread : readRecords .unlimited header count n ls = .ok records) :
    readRecords .unlimited header count n ls' = .ok records := by
  induction h generalizing count n records with
  | nil => exact hread
  | cons hline _ ih =>
      rw [readRecords] at hread ⊢
      rw [hline.blank]
      split
      · rename_i hblank
        rw [if_pos hblank] at hread
        exact ih hread
      · rename_i hblank
        rw [if_neg hblank] at hread
        simp only [bind_eq_ok_iff] at hread ⊢
        obtain ⟨record, hrecord, others, hothers, hrest⟩ := hread
        exact ⟨record, hline.recordOfLine hrecord, others, ih hothers, hrest⟩

/-- Lines that are alike have the same table or the same error. -/
theorem readLines_alike (h : List.Forall₂ Alike ls ls') (n : Nat) :
    readLines .unlimited n ls' = readLines .unlimited n ls := by
  induction h generalizing n with
  | nil => rfl
  | cons hline hrest ih =>
      rw [readLines_cons_unlimited, readLines_cons_unlimited, hline.blank, hline.opens,
        hline.headerOfLine, ih]
      simp only [readRecords_alike hrest]

/-- The table of some lines is that of the lines widened. -/
theorem readLines_widened (h : List.Forall₂ Widened ls ls') {table : ResultTable}
    (hread : readLines .unlimited n ls = .ok table) : readLines .unlimited n ls' = .ok table := by
  induction h generalizing n with
  | nil => exact hread
  | cons hline hrest ih =>
      rw [readLines_cons_unlimited] at hread ⊢
      rw [hline.blank, hline.opens]
      split
      · rename_i hopens
        rw [if_pos hopens] at hread
        simp only [bind_eq_ok_iff] at hread ⊢
        obtain ⟨header, hheader, records, hrecords, htable⟩ := hread
        exact ⟨header, hline.headerOfLine hheader, records, readRecords_widened hrest hrecords,
          htable⟩
      · rename_i hopens
        rw [if_neg hopens] at hread
        exact ih hread

/-- Blank lines have no records. -/
theorem readRecords_of_blank (h : ∀ raw ∈ ls, allBlank raw = true) (limits : Limits)
    (header : Header) (count n : Nat) : readRecords limits header count n ls = .ok [] := by
  induction ls generalizing n with
  | nil => rfl
  | cons raw ls ih =>
      rw [List.forall_mem_cons] at h
      rw [readRecords, if_pos h.1, ih h.2]

/-- Blank lines behind a table add nothing to it. -/
theorem readLines_append_blank {ending : List (List Char)} {table : ResultTable}
    (hending : ∀ raw ∈ ending, allBlank raw = true) (hread : readLines limits n ls = .ok table) :
    readLines limits n (ls ++ ending) = .ok table := by
  cases reads_firstLines limits n ls with
  | fails e _ h =>
      rw [Reading.readLines_of_fails h] at hread
      cases hread
  | headless h =>
      rw [Reading.readLines_of_headless h] at hread
      cases hread
  | heads table' _ _ _ h =>
      rw [Reading.readLines_of_heads h] at hread
      cases hread
      rw [h, readRecords_of_blank hending, Except.map, List.append_nil]

/-! ### Edited texts -/

theorem LineEdit.widened (h : LineEdit line line') : Widened line line' := by
  cases h with
  | front hc _ => exact widened_cons_blank hc line
  | back hc _ => exact (alike_append_blank hc line).widened
  | comma hline => exact widened_append_comma hline

theorem Edited.widened (h : Edited line line') : Widened line line' := by
  induction h with
  | refl => exact (Alike.refl line).widened
  | tail _ hstep ih => exact ih.trans hstep.widened

theorem LineEdit.not_mem_feed (h : LineEdit line line') (hline : '\n' ∉ line) : '\n' ∉ line' := by
  cases h with
  | front _ hc => simp [hline, Ne.symm hc]
  | back _ hc => simp [hline, Ne.symm hc]
  | comma _ => simp [hline]

theorem Edited.not_mem_feed (h : Edited line line') (hline : '\n' ∉ line) : '\n' ∉ line' := by
  induction h with
  | refl => exact hline
  | tail _ hstep ih => exact hstep.not_mem_feed ih

/-- Edits only add to a line. -/
theorem LineEdit.sublist (h : LineEdit line line') : List.Sublist line line' := by
  cases h with
  | front => exact List.sublist_cons_self _ _
  | back => exact List.sublist_append_left _ _
  | comma => exact List.sublist_append_left _ _

theorem Edited.ne_nil (h : Edited line line') (hline : line ≠ []) : line' ≠ [] := by
  induction h with
  | refl => exact hline
  | tail _ hstep ih =>
      rintro rfl
      exact ih (List.sublist_nil.1 hstep.sublist)

/-- No edit puts a byte order mark in front of a line. -/
theorem LineEdit.head?_ne (h : LineEdit line line') (hline : line.head? ≠ some byteOrderMark) :
    line'.head? ≠ some byteOrderMark := by
  have hmark : ∀ {c}, isBlank c = true → c ≠ byteOrderMark := by
    rintro c hc rfl
    cases hc
  cases h with
  | front hc _ => simpa using hmark hc
  | back hc _ => exact head?_append_ne hline (by simpa using hmark hc)
  | comma _ => exact head?_append_ne hline (by decide)

theorem Edited.head?_ne (h : Edited line line') (hline : line.head? ≠ some byteOrderMark) :
    line'.head? ≠ some byteOrderMark := by
  induction h with
  | refl => exact hline
  | tail _ hstep ih => exact hstep.head?_ne ih

/-- No edit puts a byte order mark in front of the text. -/
theorem Relaid.head?_ne (h : Relaid cs cs') (hcs : cs.head? ≠ some byteOrderMark) :
    cs'.head? ≠ some byteOrderMark := by
  have hfirst : ∀ {line ending : List Char}, (line ++ ending).head? ≠ some byteOrderMark →
      line.head? ≠ some byteOrderMark := by
    intro line ending hne
    cases line with
    | nil => simp
    | cons c line => exact hne
  cases h with
  | last _ hedits => exact hedits.head?_ne hcs
  | feed _ hedits _ => exact head?_append_ne (hedits.head?_ne (hfirst hcs)) (by simp; decide)
  | turned _ hedits _ => exact head?_append_ne (hedits.head?_ne (hfirst hcs)) (by simp; decide)
  | returnFeed _ hedits _ => exact head?_append_ne (hedits.head?_ne (hfirst hcs)) (by simp; decide)

theorem withoutMark_of_head?_ne (h : cs.head? ≠ some byteOrderMark) : withoutMark cs = cs := by
  cases cs with
  | nil => rfl
  | cons c cs => rw [withoutMark, if_neg (by simpa using h)]

/-- The end of a line with a carriage return in front of it is read like one without. -/
theorem alike_dropReturn (line : List Char) : Alike (dropReturn line.reverse).reverse line := by
  unfold dropReturn
  split
  · rename_i others hline
    rw [List.reverse_eq_iff] at hline
    subst hline
    rw [List.reverse_cons]
    exact alike_append_blank rfl _
  · rw [List.reverse_reverse]
    exact Alike.refl line

/-- The edited text has the edited lines, and it may end with one more line of blanks. -/
theorem Relaid.widened_lines (h : Relaid cs cs') :
    ∃ ending, (∀ raw ∈ ending, allBlank raw = true) ∧
      List.Forall₂ Widened (lines cs ++ ending) (lines cs') := by
  induction h with
  | @last line line' hline hedits =>
      by_cases hne : line = []
      · subst hne
        by_cases hne' : line' = []
        · subst hne'
          exact ⟨[], by simp, .nil⟩
        · rw [lines_of_not_mem hne' (hedits.not_mem_feed hline)]
          exact ⟨[[]], by simp, .cons hedits.widened .nil⟩
      · rw [lines_of_not_mem hne hline,
          lines_of_not_mem (hedits.ne_nil hne) (hedits.not_mem_feed hline)]
        exact ⟨[], by simp, .cons hedits.widened .nil⟩
  | feed hline hedits _ ih =>
      obtain ⟨ending, hending, hrest⟩ := ih
      rw [lines_append_feed hline, lines_append_feed (hedits.not_mem_feed hline)]
      exact ⟨ending, hending, .cons (((alike_dropReturn _).widened.trans hedits.widened).trans
        (alike_dropReturn _).symm.widened) hrest⟩
  | turned hline hedits _ ih =>
      obtain ⟨ending, hending, hrest⟩ := ih
      rw [lines_append_feed hline, lines_append_returnFeed (hedits.not_mem_feed hline)]
      exact ⟨ending, hending, .cons ((alike_dropReturn _).widened.trans hedits.widened) hrest⟩
  | returnFeed hline hedits _ ih =>
      obtain ⟨ending, hending, hrest⟩ := ih
      rw [lines_append_returnFeed hline, lines_append_returnFeed (hedits.not_mem_feed hline)]
      exact ⟨ending, hending, .cons hedits.widened hrest⟩

/-! ### Line ends -/

/-- The text with a carriage return in front of every line feed. -/
def returnFeeds (cs : List Char) : List Char :=
  cs.flatMap fun c => if c = '\n' then ['\r', '\n'] else [c]

/-- The text with every line feed turned into a carriage return and a line feed. -/
def withReturns (text : String) : String :=
  String.ofList (returnFeeds text.toList)

theorem returnFeeds_append (cs ds : List Char) :
    returnFeeds (cs ++ ds) = returnFeeds cs ++ returnFeeds ds :=
  List.flatMap_append

theorem returnFeeds_of_not_mem (h : '\n' ∉ line) : returnFeeds line = line := by
  induction line with
  | nil => rfl
  | cons c line ih =>
      rw [List.mem_cons, not_or] at h
      rw [returnFeeds, List.flatMap_cons, if_neg (Ne.symm h.1)]
      exact congrArg (c :: ·) (ih h.2)

/-- Line ends are all that changes. -/
theorem alike_returnFeeds (h : Lined cs ls) : List.Forall₂ Alike ls (lines (returnFeeds cs)) := by
  induction h with
  | nil => exact .nil
  | last hne hline =>
      rw [returnFeeds_of_not_mem hline, lines_of_not_mem hne hline]
      exact .cons (Alike.refl _) .nil
  | @feed line rest ls hline _ _ ih =>
      have hread : returnFeeds (line ++ '\n' :: rest) = line ++ '\r' :: '\n' :: returnFeeds rest := by
        rw [returnFeeds_append, returnFeeds_of_not_mem hline]
        rfl
      rw [hread, lines_append_returnFeed hline]
      exact .cons (Alike.refl line) ih
  | @returnFeed line rest ls hline _ ih =>
      -- The carriage return that was there becomes a blank at the end of the line.
      have hread : returnFeeds (line ++ '\r' :: '\n' :: rest) =
          (line ++ ['\r']) ++ '\r' :: '\n' :: returnFeeds rest := by
        rw [returnFeeds_append, returnFeeds_of_not_mem hline, List.append_assoc]
        rfl
      rw [hread, lines_append_returnFeed (by simp [hline])]
      exact .cons (alike_append_blank rfl line) ih

theorem withoutMark_returnFeeds (cs : List Char) :
    withoutMark (returnFeeds cs) = returnFeeds (withoutMark cs) := by
  cases cs with
  | nil => rfl
  | cons c cs =>
      by_cases hc : c = '\n'
      · subst hc
        rfl
      · have hread : returnFeeds (c :: cs) = c :: returnFeeds cs := by
          rw [returnFeeds, List.flatMap_cons, if_neg hc]
          rfl
        rw [hread, withoutMark, withoutMark]
        split
        · rfl
        · exact hread.symm

/-! ### The table stays the same -/

theorem parse_unlimited (text : String) :
    parse .unlimited text = readLines .unlimited 1 (lines (withoutMark text.toList)) := by
  rw [parse, Limits.check_unlimited]
  rfl

/-- **Layout does not matter.** A text that has a table, with or without a byte order mark in front
of it, has the same table, line numbers included, when its lines are edited: blanks before or after
any of them, commas behind any that is not blank, the header and the records among them, and line
feeds turned into a carriage return and a line feed. If all line feeds of a text are turned and
nothing else is done, the result is the same also where it is an error, its line and column
included. -/
theorem layout_irrelevant :
    (∀ (text text' : String) (table : ResultTable), text.toList.head? ≠ some byteOrderMark →
      parse .unlimited text = .ok table → Relaid text.toList text'.toList →
      parse .unlimited text' = .ok table ∧
        parse .unlimited (String.ofList (byteOrderMark :: text'.toList)) = .ok table) ∧
    ∀ text, parse .unlimited (withReturns text) = parse .unlimited text := by
  refine ⟨fun text text' table hmark htable hrelaid => ?_, fun text => ?_⟩
  · have hlines : readLines .unlimited 1 (lines text'.toList) = .ok table := by
      rw [parse_unlimited, withoutMark_of_head?_ne hmark] at htable
      obtain ⟨ending, hending, hwidened⟩ := hrelaid.widened_lines
      exact readLines_widened hwidened (readLines_append_blank hending htable)
    refine ⟨?_, ?_⟩
    · rw [parse_unlimited, withoutMark_of_head?_ne (hrelaid.head?_ne hmark), hlines]
    · rw [parse_unlimited, String.toList_ofList, withoutMark, if_pos rfl, hlines]
  · rw [parse_unlimited, parse_unlimited, withReturns, String.toList_ofList,
      withoutMark_returnFeeds]
    exact readLines_alike (alike_returnFeeds (lined_iff.2 rfl)) 1

/-- A tab in front of the header, a comma behind it and behind a record, new line ends, and a blank
behind the last of them. -/
theorem layout_irrelevant_of_padded_header :
    let text := "cpu\nname,t\nA,2\n"
    let text' := "cpu\r\n\tname,t,\r\nA,2 ,\n "
    let table : ResultTable := ⟨⟨["name", "t"]⟩, 2, [⟨3, [("name", "A"), ("t", "2")]⟩]⟩
    text.toList.head? ≠ some byteOrderMark ∧ parse .unlimited text = .ok table ∧
      Relaid text.toList text'.toList ∧ parse .unlimited text' = .ok table := by
  intro text text' table
  have hmark : text.toList.head? ≠ some byteOrderMark := by decide
  have htable : parse .unlimited text = .ok table := by
    subst text table
    decide +kernel
  have hrelaid : Relaid text.toList text'.toList := by
    have hrecord : Edited ['A', ',', '2'] ['A', ',', '2', ' ', ','] :=
      .tail (.single (.back (by decide : isBlank ' ' = true) (by decide))) (.comma (by decide))
    have hheader : Edited ['n', 'a', 'm', 'e', ',', 't'] ['\t', 'n', 'a', 'm', 'e', ',', 't', ','] :=
      .tail (.single (.front (by decide : isBlank '\t' = true) (by decide))) (.comma (by decide))
    have hpreamble : Edited ['c', 'p', 'u'] ['c', 'p', 'u'] := .refl
    have hend : Edited [] [' '] := .single (.back (by decide : isBlank ' ' = true) (by decide))
    have hlines := Relaid.turned (by decide) hpreamble
      (.turned (by decide) hheader (.feed (by decide) hrecord (.last (by decide) hend)))
    convert hlines using 1 <;> decide
  exact ⟨hmark, htable, hrelaid, (layout_irrelevant.1 text text' table hmark htable hrelaid).1⟩

end BenchBoard.ResultTable
