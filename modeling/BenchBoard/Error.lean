import BenchBoard.Results.Error
import BenchBoard.Comparison.Basic
/-!
# BenchBoard.Error

**Why the dashboard refuses.** These are the causes that stop an operation on files, cases
and the registry. What is wrong with a single cell of a comparison is no error of this
kind; it stays in its cell.
-/

namespace BenchBoard

/-- Why an operation of the dashboard failed. -/
inductive BoardError
  /-- The text of a result file cannot be made into a series. -/
  | load (path : String) (cause : ResultError)
  /-- A file cannot be read; the message is the source's. -/
  | unreadable (path message : String)
  /-- A file has more bytes than the loader reads. -/
  | fileTooLarge (path : String) (actual bound : Nat)
  /-- The entries of a case were not measured at as many sizes. -/
  | misaligned (misalignment : Misalignment)
  /-- No topic has this name. -/
  | unknownTopic (topic : String)
  /-- The topic has fewer cases. -/
  | unknownCase (topic : String) (index count : Nat)
  /-- A case was selected while no topic is. -/
  | noTopicSelected
  /-- A case of the description compares nothing. -/
  | noEntries (caseName : String)
  /-- A case of the description has more than one baseline. -/
  | severalBaselines (caseName : String) (count : Nat)
  /-- The text is no description of cases. -/
  | notADescription
  deriving DecidableEq, Repr

namespace BoardError

def message : BoardError → String
  | load path cause => s!"failed to load '{path}': {cause.message}"
  | unreadable path message => s!"I/O error for '{path}': {message}"
  | fileTooLarge path actual bound =>
      s!"file '{path}' is too large ({actual} bytes, maximum {bound} bytes); " ++
        "set BMDASH_MAX_FILE_SIZE to raise the limit"
  | misaligned misalignment => misalignment.message
  | unknownTopic topic => s!"unknown topic '{topic}'"
  | unknownCase topic index count =>
      s!"topic '{topic}' has no case {index} ({count} cases)"
  | noTopicSelected => "no topic selected"
  | noEntries caseName => s!"invalid case description: case '{caseName}' has no entries"
  | severalBaselines caseName count =>
      s!"invalid case description: case '{caseName}' flags {count} baselines"
  | notADescription => "JSON error: the text is no case description"

/-- Does the error come from what a result file holds, not from reading it? -/
def isLoadError : BoardError → Bool
  | load _ _ => true
  | _ => false

/-- Does the error come from the text of a result file, not from the meaning of its
records? -/
def isParseError : BoardError → Bool
  | load _ cause => cause.isParseError
  | _ => false

end BoardError

end BenchBoard
