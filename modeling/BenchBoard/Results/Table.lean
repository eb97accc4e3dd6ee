import BenchBoard.Results.Record
import BenchBoard.Text.Lines
/-!
# BenchBoard.Results.Table

**From the text of a result file to its table.** The text begins with a preamble that
describes the machine. The first line that begins with `name` is the header, and every
line after it that is not blank is a record.

Design points:

* The table builder has two phases, one function each: `readHeader` passes over the
  preamble and stops at the header, `readRecords` reads everything after it. Neither
  looks at what the other reads.
* Lines are numbered from 1 over the whole text, blank lines and preamble included.
* Of two faults the one on the earlier line wins. On one line the limit on its length
  comes first, then the CSV grammar, then the meaning of the fields, then the limit on
  the number of columns or records.
-/

namespace BenchBoard

open BenchBoard.Text

/-- The header and the records of one result file. -/
structure ResultTable where
  header : Header
  /-- The line of the header, counted from 1. -/
  headerLine : Nat
  /-- The records in file order. -/
  records : List Record
  deriving DecidableEq, Repr

namespace ResultTable

/-- The fields of line `n`. -/
def parseLine (n : Nat) (raw : List Char) : Except ResultError (List String) :=
  match Csv.parseChars raw with
  | .ok texts => .ok (texts.map String.ofList)
  | .error e => .error (.malformedLine n e)

/-- Does the line begin with `name` after its blanks? -/
def opensTable (raw : List Char) : Bool :=
  nameField.toList.isPrefixOf (dropBlank raw)

/-! ### The header -/

/-- The header on line `n`. -/
def headerOfLine (limits : Limits) (n : Nat) (raw : List Char) :
    Except ResultError Header := do
  let header ← Header.ofFields (← parseLine n raw) n
  limits.check .columns header.size
  return header

/-- The header, its line and the lines after it, read from the lines `n`, `n + 1`, … -/
def readHeader (limits : Limits) (n : Nat) :
    List (List Char) → Except ResultError (Header × Nat × List (List Char))
  | [] => .error .schemaMissing
  | raw :: rest =>
      if allBlank raw then readHeader limits (n + 1) rest
      else do
        limits.check .lineLength (byteLength raw)
        if opensTable raw then
          return (← headerOfLine limits n raw, n, rest)
        else readHeader limits (n + 1) rest

/-! ### The records -/

/-- The record on line `n`, which is the `count`-th. -/
def recordOfLine (limits : Limits) (header : Header) (count n : Nat) (raw : List Char) :
    Except ResultError Record := do
  limits.check .lineLength (byteLength raw)
  let record ← Record.ofValues header (← parseLine n raw) n
  limits.check .records count
  return record

/-- The records on the lines `n`, `n + 1`, … when `count` have been read before them. -/
def readRecords (limits : Limits) (header : Header) (count n : Nat) :
    List (List Char) → Except ResultError (List Record)
  | [] => .ok []
  | raw :: rest =>
      if allBlank raw then readRecords limits header count (n + 1) rest
      else do
        let record ← recordOfLine limits header (count + 1) n raw
        return record :: (← readRecords limits header (count + 1) (n + 1) rest)

/-! ### The table -/

/-- The table of a text that is given by its lines. -/
def ofLines (limits : Limits) (ls : List (List Char)) : Except ResultError ResultTable := do
  let (header, headerLine, rest) ← readHeader limits 1 ls
  let records ← readRecords limits header 0 (headerLine + 1) rest
  return ⟨header, headerLine, records⟩

/-- The table of a result file's text. A byte order mark counts as part of the input but
not as part of its first line. -/
def parse (limits : Limits) (text : String) : Except ResultError ResultTable := do
  limits.check .inputSize (byteLength text.toList)
  ofLines limits (lines (withoutMark text.toList))

/-- The number of records. -/
def size (table : ResultTable) : Nat :=
  table.records.length

end ResultTable

end BenchBoard
