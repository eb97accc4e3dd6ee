import BenchBoard.Series.Basic
/-!
# BenchBoard.Proofs.Series.Samples

**Which records are samples, and of what.** A sample is a record whose name ends in none of the
suffixes of summaries, together with the case and the size that its name is split into. The
split is part of the type (`Sample.splits`), and `classify_cases` says once how the kind of a
record hangs on the ends of its name; no later proof looks at a name again.
-/

namespace BenchBoard

variable {name : List Char}

/-! ### Splitting a name -/

/-- The name is split at its last slash. Without a slash it is all case. -/
def SplitsAtLastSlash (name : List Char) (caseName size : String) : Prop :=
  (name = caseName.toList ++ '/' :: size.toList ∧ '/' ∉ size.toList) ∨
    ('/' ∉ name ∧ caseName.toList = name ∧ size = "")

theorem splitsAtLastSlash_splitSize (name : List Char) :
    SplitsAtLastSlash name (RecordKind.splitSize name).1 (RecordKind.splitSize name).2 := by
  have hsplit : name.reverse.takeWhile (· != '/') ++ name.reverse.dropWhile (· != '/') =
      name.reverse := List.takeWhile_append_dropWhile
  have hsize : '/' ∉ name.reverse.takeWhile (· != '/') := by
    intro hmem
    have hslash := List.all_eq_true.1 List.all_takeWhile _ hmem
    simp at hslash
  unfold RecordKind.splitSize
  simp only
  split
  · rename_i hnone
    rw [hnone, List.append_nil] at hsplit
    rw [hsplit, List.mem_reverse] at hsize
    exact .inr ⟨hsize, by simp, rfl⟩
  · rename_i c caseName hsome
    -- The scan from the end stops at a slash.
    have hc : c = '/' := by
      have hhead := List.head?_dropWhile_not (· != '/') name.reverse
      rw [hsome] at hhead
      simpa using hhead
    subst hc
    rw [hsome] at hsplit
    refine .inl ⟨?_, by simpa using hsize⟩
    calc name = name.reverse.reverse := (List.reverse_reverse name).symm
      _ = (name.reverse.takeWhile (· != '/') ++ '/' :: caseName).reverse := by rw [hsplit]
      _ = _ := by simp

/-! ### Kinds of records -/

namespace Record

/-- The name of the record, without double quotes, ends in this. -/
def endsIn (record : Record) (ending : String) : Bool :=
  RecordKind.endsIn (RecordKind.withoutQuotes record.name.toList) ending

/-- The record holds a fit. -/
def isFit (record : Record) : Bool :=
  record.endsIn "_BigO"

/-- The record holds the deviation from a fit. -/
def isDeviation (record : Record) : Bool :=
  record.endsIn "_RMS"

/-- The record is no summary. -/
def isSample (record : Record) : Bool :=
  ["_BigO", "_RMS", "_mean", "_median", "_stddev", "_cv"].all fun ending =>
    !record.endsIn ending

end Record

/-- A record that is taken as a sample, with the case and the size of its name. -/
structure Sample where
  record : Record
  caseName : String
  size : String
  splits : SplitsAtLastSlash (RecordKind.withoutQuotes record.name.toList) caseName size

namespace Sample

def ofRecord (record : Record) : Sample where
  record := record
  caseName := (RecordKind.splitSize (RecordKind.withoutQuotes record.name.toList)).1
  size := (RecordKind.splitSize (RecordKind.withoutQuotes record.name.toList)).2
  splits := splitsAtLastSlash_splitSize _

/-- The samples among the records, in order. -/
def ofRecords (records : List Record) : List Sample :=
  (records.filter Record.isSample).map ofRecord

end Sample

/-- No name ends in both suffixes: the shorter one does not end the longer one. -/
theorem isDeviation_of_isFit {record : Record} (h : record.isFit = true) :
    record.isDeviation = false := by
  cases hd : record.isDeviation with
  | false => rfl
  | true =>
      have hfit := List.isSuffixOf_iff_suffix.1 h
      have hdeviation := List.isSuffixOf_iff_suffix.1 hd
      have hends : "_RMS".toList <:+ "_BigO".toList :=
        List.suffix_of_suffix_length_le hdeviation hfit (by decide)
      exact absurd hends (by decide)

theorem classify_eq (record : Record) :
    RecordKind.classify record.name =
      if record.isFit then .fit
      else if record.isDeviation then .deviation
      else if RecordKind.repetitionSuffixes.any record.endsIn then .repetition
      else .sized (Sample.ofRecord record).caseName (Sample.ofRecord record).size := rfl

theorem isSample_eq (record : Record) :
    record.isSample = (!record.isFit && !record.isDeviation &&
      !RecordKind.repetitionSuffixes.any record.endsIn) := by
  simp [Record.isSample, Record.isFit, Record.isDeviation, RecordKind.repetitionSuffixes,
    Bool.and_assoc]

/-- The kind of a record is decided by the end of its name. -/
theorem classify_cases (record : Record) :
    (RecordKind.classify record.name = .fit ∧ record.isFit = true ∧
      record.isDeviation = false ∧ record.isSample = false) ∨
    (RecordKind.classify record.name = .deviation ∧ record.isFit = false ∧
      record.isDeviation = true ∧ record.isSample = false) ∨
    (RecordKind.classify record.name = .repetition ∧ record.isFit = false ∧
      record.isDeviation = false ∧ record.isSample = false) ∨
    (RecordKind.classify record.name =
        .sized (Sample.ofRecord record).caseName (Sample.ofRecord record).size ∧
      record.isFit = false ∧ record.isDeviation = false ∧ record.isSample = true) := by
  rw [classify_eq, isSample_eq]
  cases hfit : record.isFit with
  | true => simp [isDeviation_of_isFit hfit]
  | false =>
      cases hdeviation : record.isDeviation with
      | true => simp
      | false => cases hrepetition : RecordKind.repetitionSuffixes.any record.endsIn <;> simp

theorem classify_of_isSample {record : Record} (h : record.isSample = true) :
    RecordKind.classify record.name =
        .sized (Sample.ofRecord record).caseName (Sample.ofRecord record).size ∧
      record.isFit = false ∧ record.isDeviation = false := by
  rcases classify_cases record with ⟨-, -, -, hnot⟩ | ⟨-, -, -, hnot⟩ | ⟨-, -, -, hnot⟩ |
    ⟨hkind, hfit, hdeviation, -⟩
  · exact absurd h (by simp [hnot])
  · exact absurd h (by simp [hnot])
  · exact absurd h (by simp [hnot])
  · exact ⟨hkind, hfit, hdeviation⟩

/-! ### Samples of more records -/

namespace Sample

variable {record : Record}

theorem ofRecords_append (records others : List Record) :
    ofRecords (records ++ others) = ofRecords records ++ ofRecords others := by
  simp [ofRecords]

theorem ofRecords_of_isSample (h : record.isSample = true) :
    ofRecords [record] = [ofRecord record] := by
  simp [ofRecords, h]

theorem ofRecords_of_not_isSample (h : record.isSample = false) : ofRecords [record] = [] := by
  simp [ofRecords, h]

end Sample

end BenchBoard
