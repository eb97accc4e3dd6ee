/-!
# BenchBoard.Series.RecordKind

**What a record contributes.** The name of a record follows the convention `case/size`.
Runs that fit a complexity add two summary records, named after the case with the suffix
`_BigO` (the fitted coefficients) and `_RMS` (how far the samples deviate from the fit).
Repeated runs add records with the suffixes `_mean`, `_median`, `_stddev` and `_cv`, which
summarise samples that are in the file already.

Double quotes in a name are not part of it. A name with several slashes is split at the
last; a name with none is all case and has the empty size.
-/

namespace BenchBoard

/-- What a record contributes to its series. -/
inductive RecordKind
  /-- A sample of `caseName` at `size`. -/
  | sized (caseName size : String)
  /-- The fitted complexity. -/
  | fit
  /-- The deviation from the fit. -/
  | deviation
  /-- A summary of repetitions. -/
  | repetition
  deriving DecidableEq, Repr

namespace RecordKind

/-- The suffix of a record that holds a fit. -/
def fitSuffix : String := "_BigO"

/-- The suffix of a record that holds a deviation. -/
def deviationSuffix : String := "_RMS"

/-- The suffixes of records that summarise repetitions. -/
def repetitionSuffixes : List String := ["_mean", "_median", "_stddev", "_cv"]

def endsIn (name : List Char) (ending : String) : Bool :=
  ending.toList.isSuffixOf name

/-- A name without its double quotes. -/
def withoutQuotes (name : List Char) : List Char :=
  name.filter (· != '"')

/-- A name split at its last slash into case and size. -/
def splitSize (name : List Char) : String × String :=
  let reversed := name.reverse
  match reversed.dropWhile (· != '/') with
  | [] => (String.ofList name, "")
  | _ :: caseName =>
      (String.ofList caseName.reverse,
        String.ofList (reversed.takeWhile (· != '/')).reverse)

/-- The kind of the record with this name. -/
def classify (name : String) : RecordKind :=
  let plain := withoutQuotes name.toList
  if endsIn plain fitSuffix then .fit
  else if endsIn plain deviationSuffix then .deviation
  else if repetitionSuffixes.any (endsIn plain) then .repetition
  else
    let (caseName, size) := splitSize plain
    .sized caseName size

end RecordKind

end BenchBoard
