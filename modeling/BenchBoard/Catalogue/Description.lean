import BenchBoard.Catalogue.Topics
import BenchBoard.Json.Decode
import BenchBoard.Json.Parser
import BenchBoard.Json.Printer
/-!
# BenchBoard.Catalogue.Description

**What is to be compared, as it is written down.** A description maps each topic to its
cases. A case has a name, a free text, and entries, one of which may be marked as the
baseline. It is kept as JSON.

A description is only a text with a shape. Whether its cases make sense is found out when
they are built (`BenchBoard.Catalogue.Case`).
-/

namespace BenchBoard

open BenchBoard.Json

/-- An entry as it is described. -/
structure EntrySpec where
  name : String
  /-- The result file: an absolute path, or one that is relative to a root. -/
  file : String
  /-- Is the entry marked as the baseline? -/
  baseline : Bool
  deriving DecidableEq, Repr

/-- A case as it is described. -/
structure CaseSpec where
  name : String
  desc : String
  entries : List EntrySpec
  deriving DecidableEq, Repr

/-- The cases of each topic. -/
abbrev Description := Topics (List CaseSpec)

/-- An entry is its name, its file and its mark. The mark is written only when it is set. -/
def EntrySpec.toJson (spec : EntrySpec) : Value :=
  .record ([("name", .text spec.name), ("file", .text spec.file)] ++
    if spec.baseline then [("baseline", .bool true)] else [])

/-- Takes `EntrySpec.toJson` back. -/
def EntrySpec.ofJson? : Reader EntrySpec := fun v => do
  match ← fields? ["name", "file", "baseline"] 2 v with
  | [name, file, baseline] =>
      return ⟨← required readText name, ← required readText file,
        ← defaulted false readBool baseline⟩
  | _ => none

/-- A case is its name, its text and its entries. -/
def CaseSpec.toJson (spec : CaseSpec) : Value :=
  .record [("name", .text spec.name), ("desc", .text spec.desc),
    ("entries", .array (spec.entries.map EntrySpec.toJson))]

/-- Takes `CaseSpec.toJson` back. The text may be left out. -/
def CaseSpec.ofJson? : Reader CaseSpec := fun v => do
  match ← fields? ["name", "desc", "entries"] 3 v with
  | [name, desc, entries] =>
      return ⟨← required readText name, ← defaulted "" readText desc,
        ← required (readList EntrySpec.ofJson?) entries⟩
  | _ => none

namespace Description

/-- A description is an object with a member for each topic. -/
def toJson (description : Description) : Value :=
  .record (description.toList.map fun p => (p.1, .array (p.2.map CaseSpec.toJson)))

/-- One topic with its cases. -/
def readTopic : Option String × Value → Option (String × List CaseSpec)
  | (none, _) => none
  | (some name, v) => (readList CaseSpec.ofJson? v).map fun cases => (name, cases)

/-- Takes `toJson` back. Of several members for one topic the last counts, but all of them
have to be well-formed. -/
def ofJson? : Reader Description
  | .object members => (members.mapM readTopic).map Topics.ofList
  | _ => none

def parse (text : String) : Option Description :=
  (Json.parse text).bind ofJson?

end Description

end BenchBoard
