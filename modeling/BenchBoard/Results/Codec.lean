import BenchBoard.Results.Table
import BenchBoard.Json.Decode
/-!
# BenchBoard.Results.Codec

**Result tables as JSON.** Headers, records and tables have a JSON form each, with a writer
(`toJson`) and a reader (`ofJson?`) that takes it back. The readers check types only: a
stored table need not be one that a result file could have given.
-/

namespace BenchBoard

open BenchBoard.Json

/-- A header is a record of its fields. -/
def Header.toJson (header : Header) : Value :=
  .record [("fields", .texts header.fields)]

/-- Takes `Header.toJson` back. -/
def Header.ofJson? : Reader Header := fun v => do
  match ← fields? ["fields"] 1 v with
  | [fields] => return ⟨← required (readList readText) fields⟩
  | _ => none

/-- A name and a value are an array of two. -/
def Record.pairToJson (pair : String × String) : Value :=
  .array [.text pair.1, .text pair.2]

/-- Takes `Record.pairToJson` back. -/
def Record.readPair : Reader (String × String)
  | .array [name, value] => do return (← readText name, ← readText value)
  | _ => none

/-- A record is its line and its pairs. -/
def Record.toJson (record : Record) : Value :=
  .record [("line", .count record.line),
    ("fields", .array (record.fields.map pairToJson))]

/-- Takes `Record.toJson` back. -/
def Record.ofJson? : Reader Record := fun v => do
  match ← fields? ["line", "fields"] 2 v with
  | [line, fields] =>
      return ⟨← required readCount line, ← required (readList readPair) fields⟩
  | _ => none

/-- A table is its header, the line of that header and the records. -/
def ResultTable.toJson (table : ResultTable) : Value :=
  .record [("header", table.header.toJson), ("header_line", .count table.headerLine),
    ("records", .array (table.records.map Record.toJson))]

/-- Takes `ResultTable.toJson` back. -/
def ResultTable.ofJson? : Reader ResultTable := fun v => do
  match ← fields? ["header", "header_line", "records"] 3 v with
  | [header, headerLine, records] =>
      return ⟨← required Header.ofJson? header, ← required readCount headerLine,
        ← required (readList Record.ofJson?) records⟩
  | _ => none

end BenchBoard
