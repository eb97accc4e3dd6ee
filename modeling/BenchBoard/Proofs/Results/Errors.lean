import BenchBoard.Proofs.Results.Tables
/-!
# BenchBoard.Proofs.Results.Errors

**What the readers of a text complain about.** A limit is exceeded exactly when a check finds more
than its bound (`Limits.check_eq_error_iff`). Past the check of the whole text every error is
either about one line that is not blank (`ResultError.OfSome`) or that there is no header at all.
In particular nothing that reads lines ever complains about the size of the text.

Reading goes line by line: how it ends on the first lines of a text, whatever comes after them, is
said once for each of its two phases (`readHeader_search`, `readRecords_reading`) and once for both
(`reads_firstLines`).
-/

namespace BenchBoard

open BenchBoard.Text

namespace ResultError

/-- The quantity whose limit was exceeded, if the error is that of a limit. -/
def exceeded? : ResultError → Option Quantity
  | limitExceeded quantity _ _ => some quantity
  | _ => none

/-- What can be wrong with line `n` and what its readers count. -/
inductive OfLine (n : Nat) : ResultError → Prop
  | malformed (e : Csv.LineError) : OfLine n (.malformedLine n e)
  | invalid (fault : HeaderFault) : OfLine n (.invalidHeader n fault)
  | repeated (field : String) : OfLine n (.duplicateHeaderField n field)
  | mismatched (expected actual : Nat) : OfLine n (.fieldCountMismatch n expected actual)
  | exceeded (quantity : Quantity) (hpart : quantity ≠ .inputSize) (bound actual : Nat) :
      OfLine n (.limitExceeded quantity bound actual)

theorem OfLine.exceeded?_ne {n : Nat} {e : ResultError} (h : e.OfLine n) :
    e.exceeded? ≠ some .inputSize := by
  cases h with
  | exceeded quantity hpart =>
      intro hsome
      exact hpart (Option.some.inj hsome)
  | _ => simp [exceeded?]

end ResultError

theorem ResultError.OfLine.line?_eq {n k : Nat} {e : ResultError} (h : e.OfLine n)
    (hk : e.line? = some k) : k = n := by
  cases h <;> simp_all [ResultError.line?]

/-- The error is about one of these lines, where `n` is the number of the first of them, and that
line is not blank. -/
def ResultError.OfSome (n : Nat) (ls : List (List Char)) (e : ResultError) : Prop :=
  ∃ i raw, ls[i]? = some raw ∧ allBlank raw = false ∧ e.OfLine (n + i)

theorem ResultError.OfSome.cons {n : Nat} {ls : List (List Char)} {e : ResultError}
    (h : e.OfSome (n + 1) ls) (raw : List Char) : e.OfSome n (raw :: ls) := by
  obtain ⟨i, other, hi, hblank, hline⟩ := h
  exact ⟨i + 1, other, hi, hblank, by rwa [Nat.add_assoc, Nat.add_comm 1] at hline⟩

theorem ResultError.OfSome.append {n : Nat} {front ls : List (List Char)} {e : ResultError}
    (h : e.OfSome (n + front.length) ls) : e.OfSome n (front ++ ls) := by
  obtain ⟨i, raw, hi, hblank, hline⟩ := h
  refine ⟨front.length + i, raw, ?_, hblank, by rwa [Nat.add_assoc] at hline⟩
  rw [List.getElem?_append_right (Nat.le_add_right _ _), Nat.add_sub_cancel_left, hi]

/-- An error that names a line names one of the lines, and not a blank one. -/
theorem ResultError.OfSome.line {n k : Nat} {ls : List (List Char)} {e : ResultError}
    (h : e.OfSome n ls) (hk : e.line? = some k) :
    n ≤ k ∧ k < n + ls.length ∧ ∃ raw, ls[k - n]? = some raw ∧ allBlank raw = false := by
  obtain ⟨i, raw, hi, hblank, hline⟩ := h
  obtain rfl := hline.line?_eq hk
  have := (List.getElem?_eq_some_iff.1 hi).1
  exact ⟨by omega, by omega, raw, by rwa [Nat.add_sub_cancel_left], hblank⟩

/-- A check fails exactly when there is a bound and the quantity is greater. -/
theorem Limits.check_eq_error_iff {limits : Limits} {quantity : Quantity} {actual : Nat}
    {e : ResultError} :
    limits.check quantity actual = .error e ↔
      ∃ bound, limits.bound quantity = some bound ∧ bound < actual ∧
        e = .limitExceeded quantity bound actual := by
  unfold Limits.check
  cases limits.bound quantity with
  | none => simp
  | some bound =>
      by_cases h : bound < actual
      · simp [h, eq_comm]
      · simp [h]

namespace ResultTable

variable {limits : Limits} {header : Header} {raw : List Char} {ls : List (List Char)}
  {count n : Nat} {e : ResultError}

theorem ofLine_of_parseLine (h : parseLine n raw = .error e) : e.OfLine n := by
  unfold parseLine at h
  split at h
  · cases h
  · cases h
    exact .malformed _

theorem ofLine_of_ofFields {texts : List String} (h : Header.ofFields texts n = .error e) :
    e.OfLine n := by
  simp only [Header.ofFields] at h
  split at h
  · cases h
    exact .invalid _
  · split at h
    · cases h
      exact .repeated _
    · split at h
      · cases h
      · cases h
        exact .invalid _

theorem ofLine_of_ofValues {values : List String} (h : Record.ofValues header values n = .error e) :
    e.OfLine n := by
  simp only [Record.ofValues] at h
  split at h
  · cases h
    exact .mismatched _ _
  · cases h

theorem ofLine_of_check {quantity : Quantity} {actual : Nat} (hpart : quantity ≠ .inputSize)
    (h : limits.check quantity actual = .error e) : e.OfLine n := by
  obtain ⟨bound, -, -, rfl⟩ := Limits.check_eq_error_iff.1 h
  exact .exceeded quantity hpart bound actual

theorem ofLine_of_headerOfLine (h : headerOfLine limits n raw = .error e) : e.OfLine n := by
  simp only [headerOfLine, bind_eq_error_iff] at h
  rcases h with h | ⟨texts, -, h | ⟨header, -, h | ⟨done, -, h⟩⟩⟩
  · exact ofLine_of_parseLine h
  · exact ofLine_of_ofFields h
  · exact ofLine_of_check (by decide) h
  · cases h

theorem ofLine_of_recordOfLine (h : recordOfLine limits header count n raw = .error e) :
    e.OfLine n := by
  simp only [recordOfLine, bind_eq_error_iff] at h
  rcases h with h | ⟨done, -, h | ⟨texts, -, h | ⟨record, -, h | ⟨counted, -, h⟩⟩⟩⟩
  · exact ofLine_of_check (by decide) h
  · exact ofLine_of_parseLine h
  · exact ofLine_of_ofValues h
  · exact ofLine_of_check (by decide) h
  · cases h

/-! ### Reading goes line by line

What a line does to the reading does not depend on the lines after it: it ends the reading, or it
is passed over, or it gives the header or a record. -/

/-- What one line does to the search for the header. -/
theorem readHeader_cons_cases (limits : Limits) (n : Nat) (raw : List Char) :
    (∃ e, allBlank raw = false ∧ e.OfLine n ∧
      ∀ ls, readHeader limits n (raw :: ls) = .error e) ∨
    (∃ header, ∀ ls, readHeader limits n (raw :: ls) = .ok (header, n, ls)) ∨
    ∀ ls, readHeader limits n (raw :: ls) = readHeader limits (n + 1) ls := by
  cases hb : allBlank raw with
  | true => exact .inr (.inr fun ls => readHeader_cons_of_blank hb)
  | false =>
      simp only [readHeader, hb]
      cases hlength : limits.check .lineLength (byteLength raw) with
      | error e => exact .inl ⟨e, trivial, ofLine_of_check (by decide) hlength, fun ls => rfl⟩
      | ok done =>
          cases opensTable raw with
          | false => exact .inr (.inr fun ls => rfl)
          | true =>
              cases hheader : headerOfLine limits n raw with
              | error e => exact .inl ⟨e, trivial, ofLine_of_headerOfLine hheader, fun ls => rfl⟩
              | ok header => exact .inr (.inl ⟨header, fun ls => rfl⟩)

/-- How the search for the header ends on some first lines. -/
inductive HeaderSearch (limits : Limits) (n : Nat) (before : List (List Char)) : Prop
  /-- It fails at one of them, whatever comes after them. -/
  | fails (e : ResultError) (hline : e.OfSome n before)
      (h : ∀ after, readHeader limits n (before ++ after) = .error e)
  /-- It finds the header among them. -/
  | finds (header : Header) (k : Nat) (front rest : List (List Char))
      (hparts : before = front ++ rest) (hfirst : n ≤ k) (hnext : k + 1 = n + front.length)
      (h : ∀ after, readHeader limits n (before ++ after) = .ok (header, k, rest ++ after))
  /-- It passes over all of them. -/
  | passes (h : ∀ after, readHeader limits n (before ++ after) =
      readHeader limits (n + before.length) after)

theorem readHeader_search (limits : Limits) (n : Nat) (before : List (List Char)) :
    HeaderSearch limits n before := by
  induction before generalizing n with
  | nil => exact .passes fun after => rfl
  | cons raw before ih =>
      rcases readHeader_cons_cases limits n raw with ⟨e, hblank, hline, h⟩ | ⟨header, h⟩ | h
      · exact .fails e ⟨0, raw, rfl, hblank, hline⟩ fun after => h _
      · exact .finds header n [raw] before rfl (Nat.le_refl n) rfl fun after => h _
      · cases ih (n + 1) with
        | fails e hline hrest =>
            exact .fails e (hline.cons raw) fun after => (h _).trans (hrest after)
        | finds header k front rest hparts hfirst hnext hrest =>
            refine .finds header k (raw :: front) rest (by rw [hparts]; rfl) (by omega) ?_
              fun after => (h _).trans (hrest after)
            rw [List.length_cons]
            omega
        | passes hrest =>
            refine .passes fun after => ?_
            rw [List.cons_append, h, hrest, List.length_cons, Nat.add_assoc, Nat.add_comm 1]

theorem line_of_recordOfLine {record : Record}
    (h : recordOfLine limits header count n raw = .ok record) : record.line = n := by
  simp only [recordOfLine, bind_eq_ok_iff, Record.ofValues_eq_ok_iff] at h
  obtain ⟨done, -, texts, -, other, ⟨-, rfl⟩, counted, -, hrecord⟩ := h
  cases hrecord
  rfl

/-- What one line does to the reading of records. -/
theorem readRecords_cons_cases (limits : Limits) (header : Header) (count n : Nat)
    (raw : List Char) :
    (∃ e, allBlank raw = false ∧ e.OfLine n ∧
      ∀ ls, readRecords limits header count n (raw :: ls) = .error e) ∨
    (∃ record : Record, record.line = n ∧ ∀ ls, readRecords limits header count n (raw :: ls) =
      (readRecords limits header (count + 1) (n + 1) ls).map (record :: ·)) ∨
    ∀ ls, readRecords limits header count n (raw :: ls) =
      readRecords limits header count (n + 1) ls := by
  cases hb : allBlank raw with
  | true => exact .inr (.inr fun ls => by rw [readRecords, if_pos hb])
  | false =>
      simp only [readRecords, hb]
      cases hrecord : recordOfLine limits header (count + 1) n raw with
      | error e => exact .inl ⟨e, trivial, ofLine_of_recordOfLine hrecord, fun ls => rfl⟩
      | ok record =>
          refine .inr (.inl ⟨record, line_of_recordOfLine hrecord, fun ls => ?_⟩)
          cases hrest : readRecords limits header (count + 1) (n + 1) ls <;>
            simp [Except.map, bind, Except.bind, pure, Except.pure]

/-- How the reading of records ends on some first lines. -/
inductive RecordReading (limits : Limits) (header : Header) (count n : Nat)
    (before : List (List Char)) : Prop
  /-- It fails at one of them, whatever comes after them. -/
  | fails (e : ResultError) (hline : e.OfSome n before)
      (h : ∀ after, readRecords limits header count n (before ++ after) = .error e)
  /-- It has read these records of them when it goes on. -/
  | reads (records : List Record)
      (hlines : ∀ record ∈ records, n ≤ record.line ∧ record.line < n + before.length)
      (h : ∀ after, readRecords limits header count n (before ++ after) =
        (readRecords limits header (count + records.length) (n + before.length) after).map
          (records ++ ·))

theorem readRecords_reading (limits : Limits) (header : Header) (count n : Nat)
    (before : List (List Char)) : RecordReading limits header count n before := by
  induction before generalizing count n with
  | nil =>
      refine .reads [] (by simp) fun after => ?_
      show _ = (readRecords limits header count n after).map id
      cases h : readRecords limits header count n after <;> simp [h, Except.map]
  | cons raw before ih =>
      have hnext : n + 1 + before.length = n + (raw :: before).length := by
        rw [List.length_cons]
        omega
      rcases readRecords_cons_cases limits header count n raw with
        ⟨e, hblank, hline, h⟩ | ⟨record, hrecord, h⟩ | h
      · exact .fails e ⟨0, raw, rfl, hblank, hline⟩ fun after => h _
      · cases ih (count + 1) (n + 1) with
        | fails e hline hrest =>
            refine .fails e (hline.cons raw) fun after => ?_
            rw [List.cons_append, h, hrest]
            rfl
        | reads records hlines hrest =>
            refine .reads (record :: records) ?_ fun after => ?_
            · rw [List.forall_mem_cons]
              refine ⟨by rw [hrecord, List.length_cons]; omega, fun other hother => ?_⟩
              have := hlines other hother
              omega
            · have hcount : count + 1 + records.length = count + (record :: records).length := by
                rw [List.length_cons]
                omega
              rw [List.cons_append, h, hrest, hnext, hcount]
              cases readRecords limits header _ _ after <;> rfl
      · cases ih count (n + 1) with
        | fails e hline hrest =>
            exact .fails e (hline.cons raw) fun after => (h _).trans (hrest after)
        | reads records hlines hrest =>
            refine .reads records (fun other hother => ?_) fun after => ?_
            · have := hlines other hother
              omega
            · rw [← hnext, List.cons_append, h, hrest]

/-- The lines fail as they do in front of other lines. -/
theorem RecordReading.readRecords_of_fails
    (h : ∀ after, readRecords limits header count n (ls ++ after) = .error e) :
    readRecords limits header count n ls = .error e := by
  simpa using h []

/-- The lines have the records that they have in front of other lines. -/
theorem RecordReading.readRecords_of_reads {records : List Record}
    (h : ∀ after, readRecords limits header count n (ls ++ after) =
      (readRecords limits header (count + records.length) (n + ls.length) after).map
        (records ++ ·)) :
    readRecords limits header count n ls = .ok records := by
  simpa [readRecords, Except.map] using h []

/-- The records that are read stand on the lines that are read. -/
theorem lines_of_readRecords {records : List Record}
    (h : readRecords limits header count n ls = .ok records) :
    ∀ record ∈ records, n ≤ record.line ∧ record.line < n + ls.length := by
  cases readRecords_reading limits header count n ls with
  | fails e hline hread =>
      rw [RecordReading.readRecords_of_fails hread] at h
      cases h
  | reads others hlines hread =>
      rw [RecordReading.readRecords_of_reads hread] at h
      cases h
      exact hlines

/-- The reading of records fails at some line. -/
theorem ofSome_of_readRecords (h : readRecords limits header count n ls = .error e) :
    e.OfSome n ls := by
  cases readRecords_reading limits header count n ls with
  | fails e' hline hread =>
      rw [RecordReading.readRecords_of_fails hread] at h
      cases h
      exact hline
  | reads records hlines hread =>
      rw [RecordReading.readRecords_of_reads hread] at h
      cases h

/-! ### Both phases -/

/-- The table of the lines `n`, `n + 1`, … -/
def readLines (limits : Limits) (n : Nat) (ls : List (List Char)) :
    Except ResultError ResultTable := do
  let (header, headerLine, rest) ← readHeader limits n ls
  let records ← readRecords limits header 0 (headerLine + 1) rest
  return ⟨header, headerLine, records⟩

/-- How the reading of lines ends on some first lines. -/
inductive Reading (limits : Limits) (n : Nat) (before : List (List Char)) : Prop
  /-- It fails at one of them, whatever comes after them. -/
  | fails (e : ResultError) (hline : e.OfSome n before)
      (h : ∀ after, readLines limits n (before ++ after) = .error e)
  /-- It passes over all of them. -/
  | headless (h : ∀ after, readLines limits n (before ++ after) =
      readLines limits (n + before.length) after)
  /-- They have a table, and what comes after them adds to its records. -/
  | heads (table : ResultTable) (hfirst : n ≤ table.headerLine)
      (hheader : table.headerLine < n + before.length)
      (hlines : ∀ record ∈ table.records, record.line < n + before.length)
      (h : ∀ after, readLines limits n (before ++ after) =
        (readRecords limits table.header (table.records.length) (n + before.length) after).map
          fun more => ⟨table.header, table.headerLine, table.records ++ more⟩)

theorem reads_firstLines (limits : Limits) (n : Nat) (before : List (List Char)) :
    Reading limits n before := by
  cases readHeader_search limits n before with
  | fails e hline hread =>
      refine .fails e hline fun after => ?_
      rw [readLines, hread]
      rfl
  | passes hread => exact .headless fun after => by rw [readLines, hread, readLines]
  | finds header k front rest hparts hfirst hnext hread =>
      have hlength : k + 1 + rest.length = n + before.length := by
        rw [hparts, List.length_append]
        omega
      cases readRecords_reading limits header 0 (k + 1) rest with
      | fails e hline hrest =>
          rw [hnext] at hline
          refine .fails e (hparts ▸ hline.append) fun after => ?_
          rw [readLines, hread]
          show (readRecords limits header 0 (k + 1) (rest ++ after) >>= _) = _
          rw [hrest]
          rfl
      | reads records hlines hrest =>
          refine .heads ⟨header, k, records⟩ hfirst (by show k < _; omega) ?_ fun after => ?_
          · intro record hrecord
            have := hlines record hrecord
            omega
          · rw [readLines, hread]
            show (readRecords limits header 0 (k + 1) (rest ++ after) >>= _) = _
            rw [hrest, hlength, Nat.zero_add]
            cases readRecords limits header _ _ after <;> rfl

/-- The lines fail as they do in front of other lines. -/
theorem Reading.readLines_of_fails
    (h : ∀ after, readLines limits n (ls ++ after) = .error e) :
    readLines limits n ls = .error e := by
  simpa using h []

/-- The lines have the table that they have in front of other lines. -/
theorem Reading.readLines_of_heads {table : ResultTable}
    (h : ∀ after, readLines limits n (ls ++ after) =
      (readRecords limits table.header table.records.length (n + ls.length) after).map
        fun more => ⟨table.header, table.headerLine, table.records ++ more⟩) :
    readLines limits n ls = .ok table := by
  simpa [readRecords, Except.map] using h []

/-- The lines have no header if those after them are searched for it. -/
theorem Reading.readLines_of_headless
    (h : ∀ after, readLines limits n (ls ++ after) = readLines limits (n + ls.length) after) :
    readLines limits n ls = .error .schemaMissing := by
  have hself := h []
  rwa [List.append_nil] at hself

/-- Reading fails at one of the lines, or they have no header. -/
theorem ofSome_of_readLines (h : readLines limits n ls = .error e) :
    e = .schemaMissing ∨ e.OfSome n ls := by
  cases reads_firstLines limits n ls with
  | fails e' hline hread =>
      rw [Reading.readLines_of_fails hread] at h
      cases h
      exact .inr hline
  | headless hread =>
      rw [Reading.readLines_of_headless hread] at h
      cases h
      exact .inl rfl
  | heads table hfirst hheader hlines hread =>
      rw [Reading.readLines_of_heads hread] at h
      cases h

/-- The header is on one of the lines. -/
theorem headerLine_of_readLines {table : ResultTable} (h : readLines limits n ls = .ok table) :
    n ≤ table.headerLine ∧ table.headerLine < n + ls.length := by
  cases reads_firstLines limits n ls with
  | fails e hline hread =>
      rw [Reading.readLines_of_fails hread] at h
      cases h
  | headless hread =>
      rw [Reading.readLines_of_headless hread] at h
      cases h
  | heads table' hfirst hheader hlines hread =>
      rw [Reading.readLines_of_heads hread] at h
      cases h
      exact ⟨hfirst, hheader⟩

/-- No line is to blame for the size of the text. -/
theorem exceeded?_ne_of_ofLines (h : ofLines limits ls = .error e) :
    e.exceeded? ≠ some .inputSize := by
  rcases ofSome_of_readLines (n := 1) h with rfl | ⟨i, raw, -, -, hline⟩
  · simp [ResultError.exceeded?]
  · exact hline.exceeded?_ne

/-- The size of the text is the error exactly when it is greater than its bound: the check comes
before everything else. -/
theorem parse_eq_inputSize_iff {text : String} {bound actual : Nat} :
    parse limits text = .error (.limitExceeded .inputSize bound actual) ↔
      limits.maxInputSize = some bound ∧ bound < actual ∧ actual = byteLength text.toList := by
  unfold parse
  rw [bind_eq_error_iff, Limits.check_eq_error_iff]
  constructor
  · rintro (⟨bound', hbound, hlt, heq⟩ | ⟨done, -, h⟩)
    · cases heq
      exact ⟨hbound, hlt, rfl⟩
    · exact absurd rfl (exceeded?_ne_of_ofLines h)
  · rintro ⟨hbound, hlt, rfl⟩
    exact .inl ⟨bound, hbound, hlt, rfl⟩

end ResultTable

end BenchBoard
