import BenchBoard.Proofs.Results.Errors
/-!
# BenchBoard.Proofs.Results.FirstLines

**The first lines of a text decide what they can decide.** When a text is cut off behind one of its
lines, what is read of the part in front of the cut is a first part of what is read of the whole:
the error, if it is about one of these lines; the header and the records on them; or nothing yet.
No later line takes an earlier error back, comes before it or changes a record.

How reading ends on some first lines is known for all that can follow them (`reads_firstLines`).
Each fact here is a case analysis over it, with the lines in front of the cut and those behind it;
what is only read behind the cut stands on a line behind the cut (`lt_of_behind`).
-/

namespace BenchBoard

open BenchBoard.Text

namespace ResultTable

variable {limits : Limits} {e : ResultError} {table : ResultTable} {ls : List (List Char)}
  {text : String} {count n : Nat}

/-! ### Lines -/

/-- The number of a line behind the cut, and in front of the end. -/
theorem lt_of_behind (h : 1 + (ls.take count).length ≤ n)
    (hend : n < 1 + (ls.take count).length + (ls.drop count).length) : count < n := by
  simp only [List.length_take, List.length_drop] at h hend
  omega

/-- An error about a line is there as soon as that line is. -/
theorem ofLines_take_of_le (h : ofLines limits ls = .error e) (hline : e.line? = some n)
    (hle : n ≤ count) : ofLines limits (ls.take count) = .error e := by
  have hbehind : ¬ e.OfSome (1 + (ls.take count).length) (ls.drop count) := by
    intro hsome
    obtain ⟨hfirst, hend, -⟩ := hsome.line hline
    have := lt_of_behind hfirst hend
    omega
  change readLines limits 1 ls = _ at h
  change readLines limits 1 (ls.take count) = _
  rw [← List.take_append_drop count ls] at h
  cases reads_firstLines limits 1 (ls.take count) with
  | fails e' _ hread =>
      rw [hread] at h
      rw [Reading.readLines_of_fails hread, h]
  | headless hread =>
      rw [hread] at h
      rcases ofSome_of_readLines h with rfl | hsome
      · cases hline
      · exact absurd hsome hbehind
  | heads table _ _ _ hread =>
      rw [hread] at h
      cases hmore : readRecords limits table.header table.records.length
          (1 + (ls.take count).length) (ls.drop count) with
      | ok more => rw [hmore] at h; cases h
      | error e' =>
          rw [hmore] at h
          cases h
          exact absurd (ofSome_of_readRecords hmore) hbehind

/-- Before that line there is a table or nothing yet. -/
theorem ofLines_take_of_lt (h : ofLines limits ls = .error e) (hline : e.line? = some n)
    (hlt : count < n) :
    (∃ table, ofLines limits (ls.take count) = .ok table) ∨
      ofLines limits (ls.take count) = .error .schemaMissing := by
  change readLines limits 1 ls = _ at h
  rw [← List.take_append_drop count ls] at h
  cases reads_firstLines limits 1 (ls.take count) with
  | fails e' hsome hread =>
      rw [hread] at h
      cases h
      obtain ⟨-, hend, -⟩ := hsome.line hline
      rw [List.length_take] at hend
      omega
  | headless hread => exact .inr (Reading.readLines_of_headless hread)
  | heads table _ _ _ hread => exact .inl ⟨table, Reading.readLines_of_heads hread⟩

/-- From the header on there is the table of the records so far. -/
theorem ofLines_take_of_ok (h : ofLines limits ls = .ok table) (hle : table.headerLine ≤ count) :
    ofLines limits (ls.take count) =
      .ok ⟨table.header, table.headerLine, table.records.filter (·.line ≤ count)⟩ := by
  change readLines limits 1 ls = _ at h
  change readLines limits 1 (ls.take count) = _
  rw [← List.take_append_drop count ls] at h
  cases reads_firstLines limits 1 (ls.take count) with
  | fails e _ hread =>
      rw [hread] at h
      cases h
  | headless hread =>
      rw [hread] at h
      obtain ⟨hfirst, hend⟩ := headerLine_of_readLines h
      have := lt_of_behind hfirst hend
      omega
  | heads part _ _ hlines hread =>
      rw [hread] at h
      cases hmore : readRecords limits part.header part.records.length
          (1 + (ls.take count).length) (ls.drop count) with
      | error e => rw [hmore] at h; cases h
      | ok more =>
          rw [hmore] at h
          cases h
          have hkept : part.records.filter (·.line ≤ count) = part.records := by
            rw [List.filter_eq_self]
            intro record hrecord
            have := hlines record hrecord
            rw [List.length_take] at this
            exact decide_eq_true (by omega)
          have hdropped : more.filter (·.line ≤ count) = [] := by
            rw [List.filter_eq_nil_iff]
            intro record hrecord
            obtain ⟨hfirst, hend⟩ := lines_of_readRecords hmore record hrecord
            have := lt_of_behind hfirst hend
            simp only [decide_eq_true_eq]
            omega
          rw [Reading.readLines_of_heads hread, List.filter_append, hkept, hdropped,
            List.append_nil]

/-! ### Texts -/

/-- The text up to the end of its line `count`, that end included. -/
def upToLine (count : Nat) (text : String) : String :=
  String.ofList (firstLines count text.toList)

theorem parse_of_admits (h : limits.Admits .inputSize (byteLength text.toList)) :
    parse limits text = ofLines limits (lines (withoutMark text.toList)) := by
  rw [parse, Limits.check_eq_ok_iff.2 h]
  rfl

/-- A part of a text is not larger than the text. -/
theorem byteLength_le_of_isPrefix {cs ds : List Char} (h : cs <+: ds) :
    byteLength cs ≤ byteLength ds := by
  obtain ⟨more, rfl⟩ := h
  rw [byteLength_append]
  exact Nat.le_add_right _ _

theorem parse_upToLine (h : limits.Admits .inputSize (byteLength text.toList)) (count : Nat) :
    parse limits (upToLine count text) =
      ofLines limits ((lines (withoutMark text.toList)).take count) := by
  have hpart : limits.Admits .inputSize (byteLength (upToLine count text).toList) := by
    intro bound hbound
    rw [upToLine, String.toList_ofList]
    exact Nat.le_trans (byteLength_le_of_isPrefix (firstLines_isPrefix count _)) (h bound hbound)
  rw [parse_of_admits hpart, upToLine, String.toList_ofList, withoutMark_firstLines,
    lines_firstLines]

theorem admits_of_line {k : Nat} (h : parse limits text = .error e) (hline : e.line? = some k) :
    limits.Admits .inputSize (byteLength text.toList) := by
  rw [parse, bind_eq_error_iff] at h
  rcases h with h | ⟨done, h, -⟩
  · obtain ⟨bound, -, -, rfl⟩ := Limits.check_eq_error_iff.1 h
    cases hline
  · exact Limits.check_eq_ok_iff_admits.1 h

/-- **The first offending line is reported, and nothing after it matters.** An error about line `n`
is about a line of the text that is not blank. The text up to any line from `n` on fails with the
same error, and up to any line before `n` it has a table or no header yet. When the whole text has
a table, the text up to any line from the header on has the same header on the same line, and of
the records those that stand on the lines that are left. -/
theorem firstLines_decide (limits : Limits) (text : String) :
    ∃ ls, Lined (withoutMark text.toList) ls ∧
      (∀ e n, parse limits text = .error e → e.line? = some n →
        1 ≤ n ∧ n ≤ ls.length ∧ (∃ raw, ls[n - 1]? = some raw ∧ allBlank raw = false) ∧
        (∀ count, n ≤ count → parse limits (upToLine count text) = .error e) ∧
        ∀ count, count < n → (∃ table, parse limits (upToLine count text) = .ok table) ∨
          parse limits (upToLine count text) = .error .schemaMissing) ∧
      ∀ table, parse limits text = .ok table → ∀ count, table.headerLine ≤ count →
        parse limits (upToLine count text) =
          .ok ⟨table.header, table.headerLine, table.records.filter (·.line ≤ count)⟩ := by
  refine ⟨lines (withoutMark text.toList), lined_iff.2 rfl, ?_, ?_⟩
  · intro e n he hline
    have hadmits := admits_of_line he hline
    rw [parse_of_admits hadmits] at he
    have hsome : e.OfSome 1 (lines (withoutMark text.toList)) := by
      rcases ofSome_of_readLines (n := 1) he with rfl | hsome
      · cases hline
      · exact hsome
    obtain ⟨hfirst, hend, hraw⟩ := hsome.line hline
    refine ⟨hfirst, by omega, hraw, fun count hle => ?_, fun count hlt => ?_⟩
    · rw [parse_upToLine hadmits]
      exact ofLines_take_of_le he hline hle
    · rw [parse_upToLine hadmits]
      exact ofLines_take_of_lt he hline hlt
  · intro table htable count hle
    have hadmits := (parse_eq_ok_iff_describes.1 htable).2.text
    rw [parse_of_admits hadmits] at htable
    rw [parse_upToLine hadmits]
    exact ofLines_take_of_ok htable hle

/-- A line that is too short is reported although a quote is never closed after it; up to the line
before there is a table. -/
theorem firstLines_decide_of_short_line :
    let text := "run\nname,t\r\nA/1,2\nB/2\n\"C/3,4"
    parse .standard text = .error (.fieldCountMismatch 4 2 1) ∧
      parse .standard (upToLine 4 text) = .error (.fieldCountMismatch 4 2 1) ∧
      parse .standard (upToLine 3 text) =
        .ok ⟨⟨["name", "t"]⟩, 2, [⟨3, [("name", "A/1"), ("t", "2")]⟩]⟩ := by
  intro text
  have hparse : parse .standard text = .error (.fieldCountMismatch 4 2 1) := by
    subst text
    decide +kernel
  obtain ⟨ls, -, herror, -⟩ := firstLines_decide .standard text
  obtain ⟨-, -, -, hlater, -⟩ := herror _ 4 hparse rfl
  refine ⟨hparse, hlater 4 (Nat.le_refl 4), ?_⟩
  subst text
  decide +kernel

end ResultTable

end BenchBoard
