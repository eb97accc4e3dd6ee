import Mathlib.Data.List.Induction
import BenchBoard.Proofs.Series.Samples
/-!
# BenchBoard.Proofs.Series.Aggregation

**The series of a table, said all at once.** The loop over the records keeps one state that four
kinds of records change. `summary` says what that state is after any records, column by column
and without a loop, and `dissent?` says which sample stops it. One step takes the summary of
some records to the summary of one more (`step_summary`), or fails at the first sample of
another case (`step_dissent`); the run is an induction from the end (`foldlM_step`).
-/

namespace BenchBoard

namespace Series

variable {header : Header} {records : List Record} {record : Record}

/-! ### The reference -/

/-- What the last of some records has to say, if there is one. -/
def lastOr {α : Type} (records : List Record) (read : Record → α) (default : α) : α :=
  (records.getLast?.map read).getD default

/-- The fit that the record holds. -/
def fitOf (record : Record) : Fit :=
  ⟨record.get? timeUnitField, record.get? realTimeField, record.get? cpuTimeField⟩

/-- The deviation that the record holds. -/
def deviationOf (record : Record) : Deviation :=
  ⟨record.get? realTimeField, record.get? cpuTimeField⟩

/-- The series of records whose samples agree about the case. -/
def summary (header : Header) (records : List Record) : Series where
  caseName := (Sample.ofRecords records).head?.map (·.caseName)
  sizes := ((Sample.ofRecords records).map (·.size)).toArray
  columns := header.metricFields.map fun name =>
    ⟨name, ((Sample.ofRecords records).map (·.record.get name)).toArray⟩
  fit := lastOr (records.filter Record.isFit) fitOf {}
  deviation := lastOr (records.filter Record.isDeviation) deviationOf {}

/-- The first sample and the first one of another case, if there is any. -/
def dissent? : List Sample → Option (Sample × Sample)
  | [] => none
  | first :: others =>
      (others.find? fun sample => sample.caseName != first.caseName).map (first, ·)

/-- The record is no sample of another case than the samples among these records. -/
def Agrees (records : List Record) (record : Record) : Prop :=
  record.isSample = true → ∀ first, (Sample.ofRecords records).head? = some first →
    (Sample.ofRecord record).caseName = first.caseName

/-! ### One more record -/

@[simp] theorem lastOr_append {α : Type} (records : List Record) (record : Record)
    (read : Record → α) (default : α) :
    lastOr (records ++ [record]) read default = read record := by
  simp [lastOr]

/-- A sample is added at the end of the sizes and of every column. -/
theorem push_summary (header : Header) (hsample : record.isSample = true)
    (hagrees : Agrees records record) :
    (summary header records).push record (Sample.ofRecord record).caseName
        (Sample.ofRecord record).size = summary header (records ++ [record]) := by
  obtain ⟨-, hfit, hdeviation⟩ := classify_of_isSample hsample
  have hname : some (Sample.ofRecord record).caseName =
      (Sample.ofRecords records ++ [Sample.ofRecord record]).head?.map (·.caseName) := by
    cases hsamples : Sample.ofRecords records with
    | nil => rfl
    | cons first others => simp [hagrees hsample first (by simp [hsamples])]
  unfold summary push
  rw [Sample.ofRecords_append, Sample.ofRecords_of_isSample hsample, ← hname]
  simp [hfit, hdeviation, Sample.ofRecord]

/-- The summary of some records becomes that of one more, if that one agrees. -/
theorem step_summary (header : Header) (hagrees : Agrees records record) :
    step (summary header records) record = .ok (summary header (records ++ [record])) := by
  unfold step
  rcases classify_cases record with ⟨hkind, hfit, hdeviation, hsample⟩ |
    ⟨hkind, hfit, hdeviation, hsample⟩ | ⟨hkind, hfit, hdeviation, hsample⟩ |
    ⟨hkind, hfit, hdeviation, hsample⟩
  · simp [hkind, summary, Sample.ofRecords_append, Sample.ofRecords_of_not_isSample hsample,
      hfit, hdeviation, fitOf]
  · simp [hkind, summary, Sample.ofRecords_append, Sample.ofRecords_of_not_isSample hsample,
      hfit, hdeviation, deviationOf]
  · simp [hkind, summary, Sample.ofRecords_append, Sample.ofRecords_of_not_isSample hsample,
      hfit, hdeviation]
  · have hpush := push_summary header hsample hagrees
    have hname : (summary header records).caseName =
        (Sample.ofRecords records).head?.map (·.caseName) := rfl
    rw [hkind]
    simp only
    cases hfirst : (Sample.ofRecords records).head? with
    | none => rw [hname, hfirst, Option.map_none, hpush]
    | some first =>
        rw [hname, hfirst, Option.map_some, hpush]
        exact if_pos (hagrees hsample first hfirst).symm

/-- A sample of another case than the first one is refused. -/
theorem step_dissent (header : Header) {first : Sample} (hsample : record.isSample = true)
    (hfirst : (Sample.ofRecords records).head? = some first)
    (hother : (Sample.ofRecord record).caseName ≠ first.caseName) :
    step (summary header records) record =
      .error (.inconsistentCase record.line first.caseName (Sample.ofRecord record).caseName) := by
  have hname : (summary header records).caseName = some first.caseName := by
    simp [summary, hfirst]
  rw [step, (classify_of_isSample hsample).1, hname]
  exact if_neg hother.symm

/-! ### All records -/

theorem dissent?_append_of_some {samples : List Sample} {found : Sample × Sample}
    (h : dissent? samples = some found) (others : List Sample) :
    dissent? (samples ++ others) = some found := by
  cases samples with
  | nil => cases h
  | cons first rest =>
      obtain ⟨other, hother, rfl⟩ := Option.map_eq_some_iff.1 h
      simp [dissent?, List.find?_append, hother]

/-- While all samples agree, one more dissents when it disagrees with the first one. -/
theorem dissent?_append_of_none {samples : List Sample} (h : dissent? samples = none)
    (sample : Sample) :
    dissent? (samples ++ [sample]) =
      samples.head?.bind fun first =>
        if sample.caseName = first.caseName then none else some (first, sample) := by
  cases samples with
  | nil => rfl
  | cons first rest =>
      rw [dissent?, Option.map_eq_none_iff] at h
      by_cases hcase : sample.caseName = first.caseName <;>
        simp [dissent?, List.find?_append, h, hcase]

theorem dissent?_append_of_agrees (h : dissent? (Sample.ofRecords records) = none)
    (hagrees : Agrees records record) :
    dissent? (Sample.ofRecords records ++ Sample.ofRecords [record]) = none := by
  cases hsample : record.isSample with
  | false => rw [Sample.ofRecords_of_not_isSample hsample, List.append_nil, h]
  | true =>
      rw [Sample.ofRecords_of_isSample hsample, dissent?_append_of_none h]
      cases hfirst : (Sample.ofRecords records).head? with
      | none => rfl
      | some first => exact if_pos (hagrees hsample first hfirst)

/-- What does not agree is a sample of another case than the first one. -/
theorem exists_first_of_not_agrees (h : ¬ Agrees records record) :
    record.isSample = true ∧ ∃ first, (Sample.ofRecords records).head? = some first ∧
      (Sample.ofRecord record).caseName ≠ first.caseName := by
  obtain ⟨hsample, h⟩ := Classical.not_imp.1 h
  obtain ⟨first, h⟩ := Classical.not_forall.1 h
  obtain ⟨hfirst, hother⟩ := Classical.not_imp.1 h
  exact ⟨hsample, first, hfirst, hother⟩

/-- The records taken one after the other give their summary, unless a sample dissents. -/
theorem foldlM_step (header : Header) (records : List Record) :
    records.foldlM step (empty header) =
      match dissent? (Sample.ofRecords records) with
      | none => .ok (summary header records)
      | some (first, other) =>
          .error (.inconsistentCase other.record.line first.caseName other.caseName) := by
  induction records using List.reverseRecOn with
  | nil => rfl
  | append_singleton records record ih =>
      rw [List.foldlM_append, ih, Sample.ofRecords_append]
      cases hdissent : dissent? (Sample.ofRecords records) with
      | some found =>
          -- The run has stopped already.
          rw [dissent?_append_of_some hdissent]
          rfl
      | none =>
          show [record].foldlM step (summary header records) = _
          rw [List.foldlM_cons]
          by_cases hagrees : Agrees records record
          · rw [step_summary header hagrees, dissent?_append_of_agrees hdissent hagrees]
            rfl
          · -- This record is the first one that dissents.
            obtain ⟨hsample, first, hfirst, hother⟩ := exists_first_of_not_agrees hagrees
            have hsome : dissent? (Sample.ofRecords records ++ Sample.ofRecords [record]) =
                some (first, Sample.ofRecord record) := by
              rw [Sample.ofRecords_of_isSample hsample, dissent?_append_of_none hdissent, hfirst]
              exact if_neg hother
            rw [step_dissent header hsample hfirst hother, hsome]
            rfl

theorem dissent?_eq_none_iff {samples : List Sample} :
    dissent? samples = none ↔
      ∀ sample ∈ samples, ∀ other ∈ samples, sample.caseName = other.caseName := by
  cases samples with
  | nil => simp [dissent?]
  | cons first others =>
      rw [dissent?, Option.map_eq_none_iff, List.find?_eq_none]
      constructor
      · intro h
        have hfirst : ∀ sample ∈ first :: others, sample.caseName = first.caseName :=
          List.forall_mem_cons.2 ⟨rfl, fun sample hsample => by simpa using h sample hsample⟩
        intro sample hsample other hother
        rw [hfirst sample hsample, hfirst other hother]
      · intro h sample hsample
        simpa using h sample (List.mem_cons_of_mem _ hsample) first List.mem_cons_self

theorem dissent?_eq_some_iff {samples : List Sample} {first other : Sample} :
    dissent? samples = some (first, other) ↔
      ∃ agreeing rest, samples = first :: (agreeing ++ other :: rest) ∧
        (∀ sample ∈ agreeing, sample.caseName = first.caseName) ∧
        other.caseName ≠ first.caseName := by
  cases samples with
  | nil => simp [dissent?]
  | cons head others =>
      rw [dissent?, Option.map_eq_some_iff]
      simp only [List.find?_eq_some_iff_append]
      constructor
      · rintro ⟨found, ⟨hother, agreeing, rest, rfl, hagree⟩, hpair⟩
        cases hpair
        exact ⟨agreeing, rest, rfl, by simpa using hagree, by simpa using hother⟩
      · rintro ⟨agreeing, rest, hsamples, hagree, hother⟩
        cases hsamples
        exact ⟨other, ⟨by simpa using hother, agreeing, rest, rfl, by simpa using hagree⟩, rfl⟩

/-! ### The series of a table -/

/-- The series holds what the samples and the last summaries of the table say. -/
structure Summarizes (table : ResultTable) (series : Series) : Prop where
  sizes : series.sizes.toList = (Sample.ofRecords table.records).map (·.size)
  no_case : Sample.ofRecords table.records = [] → series.caseName = none
  one_case : ∀ sample ∈ Sample.ofRecords table.records, series.caseName = some sample.caseName
  names : series.columns.map (·.name) = table.header.fields.filter (· != nameField)
  aligned : ∀ column ∈ series.columns, column.values.size = series.sizes.size
  values : ∀ column ∈ series.columns, column.values.toList =
    (Sample.ofRecords table.records).map (·.record.get column.name)
  no_fit : table.records.filter Record.isFit = [] → series.fit = ⟨none, none, none⟩
  last_fit : ∀ last, (table.records.filter Record.isFit).getLast? = some last →
    series.fit = ⟨last.get? "time_unit", last.get? "real_time", last.get? "cpu_time"⟩
  no_deviation : table.records.filter Record.isDeviation = [] → series.deviation = ⟨none, none⟩
  last_deviation : ∀ last, (table.records.filter Record.isDeviation).getLast? = some last →
    series.deviation = ⟨last.get? "real_time", last.get? "cpu_time"⟩

theorem summarizes_summary (table : ResultTable)
    (h : dissent? (Sample.ofRecords table.records) = none) :
    Summarizes table (summary table.header table.records) where
  sizes := by simp [summary]
  no_case := by
    intro hnil
    simp [summary, hnil]
  one_case := by
    intro sample hsample
    rw [dissent?_eq_none_iff] at h
    obtain ⟨first, others, hcons⟩ := List.exists_cons_of_ne_nil (List.ne_nil_of_mem hsample)
    have hfirst : first ∈ Sample.ofRecords table.records := by simp [hcons]
    rw [← h first hfirst sample hsample]
    simp [summary, hcons]
  names := by simp [summary, Header.metricFields, Function.comp_def]
  aligned := by simp [summary]
  values := by simp [summary]
  no_fit := by
    intro hnil
    simp [summary, lastOr, hnil]
  last_fit := by
    intro last hlast
    simp only [summary, lastOr, hlast]
    rfl
  no_deviation := by
    intro hnil
    simp [summary, lastOr, hnil]
  last_deviation := by
    intro last hlast
    simp only [summary, lastOr, hlast]
    rfl

/-- A series that is made is the summary of its table. -/
theorem summarizes_of_aggregate {table : ResultTable} {series : Series}
    (h : aggregate table = .ok series) : Summarizes table series := by
  unfold aggregate at h
  rw [foldlM_step] at h
  cases hdissent : dissent? (Sample.ofRecords table.records) with
  | none =>
      rw [hdissent] at h
      cases h
      exact summarizes_summary table hdissent
  | some found =>
      rw [hdissent] at h
      cases h

/-- **A series is made exactly when all samples name one case, and is then read off the table.**
Otherwise the error is about the first sample of another case than the first one. The sizes and
every column have one entry for each sample, in order; the fit and the deviation are those of
the last record of their kind. -/
theorem aggregate_exact (table : ResultTable) :
    ((∃ series, aggregate table = .ok series) ↔
      ∀ sample ∈ Sample.ofRecords table.records, ∀ other ∈ Sample.ofRecords table.records,
        sample.caseName = other.caseName) ∧
    (∀ e, aggregate table = .error e ↔
      ∃ first agreeing other rest,
        Sample.ofRecords table.records = first :: (agreeing ++ other :: rest) ∧
        (∀ sample ∈ agreeing, sample.caseName = first.caseName) ∧
        other.caseName ≠ first.caseName ∧
        e = .inconsistentCase other.record.line first.caseName other.caseName) ∧
    ∀ series, aggregate table = .ok series → Summarizes table series := by
  refine and_assoc.1 ⟨?_, fun series => summarizes_of_aggregate⟩
  rw [← dissent?_eq_none_iff]
  unfold aggregate
  rw [foldlM_step]
  cases hdissent : dissent? (Sample.ofRecords table.records) with
  | none =>
      refine ⟨by simp, ?_⟩
      intro e
      constructor
      · intro h
        cases h
      · rintro ⟨first, agreeing, other, rest, hsamples, hagree, hother, -⟩
        have hsome := dissent?_eq_some_iff.2 ⟨agreeing, rest, hsamples, hagree, hother⟩
        rw [hdissent] at hsome
        cases hsome
  | some found =>
      obtain ⟨first, other⟩ := found
      refine ⟨by simp, ?_⟩
      intro e
      constructor
      · intro h
        cases h
        obtain ⟨agreeing, rest, hsamples, hagree, hother⟩ := dissent?_eq_some_iff.1 hdissent
        exact ⟨first, agreeing, other, rest, hsamples, hagree, hother, rfl⟩
      · rintro ⟨first', agreeing, other', rest, hsamples, hagree, hother, rfl⟩
        have hsome := dissent?_eq_some_iff.2 ⟨agreeing, rest, hsamples, hagree, hother⟩
        rw [hdissent] at hsome
        cases hsome
        rfl

end Series

end BenchBoard
