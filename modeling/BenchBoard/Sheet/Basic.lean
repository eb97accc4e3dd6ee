import BenchBoard.Sheet.Cell
import BenchBoard.Csv.Format
/-!
# BenchBoard.Sheet.Basic

**A titled sheet of cells.** Every product of the dashboard that is not a plot is a sheet:
a title, a header for each column, and rows. A sheet is written as CSV for programs and as
aligned text for people.

Design points:

* Rows are appended through `push`, which gives them the width of the headers: cells that
  are missing are empty, and cells that are too many are dropped. A sheet that is read
  back from JSON may have rows of any width.
* Text columns are as wide as their widest text, counted in characters. Columns are parted
  by a bar, and a line ends with its last character that is not blank.
-/

namespace BenchBoard

open BenchBoard.Json BenchBoard.Text

/-- A titled table of cells. -/
structure Sheet where
  title : String
  headers : List String
  rows : List (List Cell)
  deriving DecidableEq

namespace Sheet

/-- The row with exactly `width` cells. -/
def resize (width : Nat) (row : List Cell) : List Cell :=
  row.take width ++ List.replicate (width - row.length) .empty

/-- A resized row has the width that was asked for. -/
@[simp] theorem length_resize (width : Nat) (row : List Cell) :
    (resize width row).length = width := by
  simp [resize]; omega

/-- A row that is as wide already stays as it is. -/
@[simp] theorem resize_length (row : List Cell) : resize row.length row = row := by
  simp [resize]

theorem resize_of_length {width : Nat} {row : List Cell} (h : row.length = width) :
    resize width row = row := by
  rw [← h, resize_length]

/-- A sheet without rows. -/
def new (title : String) (headers : List String) : Sheet :=
  ⟨title, headers, []⟩

/-- The sheet with one more row, as wide as the headers. -/
def push (sheet : Sheet) (row : List Cell) : Sheet :=
  { sheet with rows := sheet.rows ++ [resize sheet.headers.length row] }

/-- The sheet with one more row of empty cells. -/
def pushBlank (sheet : Sheet) : Sheet :=
  sheet.push []

def pushAll (sheet : Sheet) (rows : List (List Cell)) : Sheet :=
  { sheet with rows := sheet.rows ++ rows.map (resize sheet.headers.length) }

/-- Rows that are as wide as the headers of a new sheet are its rows. -/
theorem rows_pushAll_new (title : String) {headers : List String} {rows : List (List Cell)}
    (h : ∀ row ∈ rows, row.length = headers.length) :
    ((new title headers).pushAll rows).rows = rows := by
  have hkept : ∀ row ∈ rows, resize headers.length row = id row :=
    fun row hrow => resize_of_length (h row hrow)
  simp only [pushAll, new, List.nil_append, List.map_congr_left hkept, List.map_id]

/-- The cell in a row and a column, if there is one. -/
def cell? (sheet : Sheet) (row column : Nat) : Option Cell :=
  sheet.rows[row]?.bind (·[column]?)

/-- The first column with this header. -/
def column? (sheet : Sheet) (header : String) : Option Nat :=
  sheet.headers.findIdx? (· == header)

/-! ### CSV -/

/-- The sheet as CSV: the headers, then a line for each row. The title is left out. -/
def toCsv (sheet : Sheet) : String :=
  String.join ((sheet.headers :: sheet.rows.map (·.map Cell.exact)).map
    fun line => Csv.format line ++ "\n")

/-! ### Aligned text -/

/-- The widths of the columns when a row is added to them. Cells without a header have no
column. -/
def widen : List Nat → List String → List Nat
  | [], _ => []
  | widths, [] => widths
  | width :: widths, text :: texts => max width text.length :: widen widths texts

/-- The text, filled up with spaces. -/
def padEnd (width : Nat) (text : String) : String :=
  text ++ String.ofList (List.replicate (width - text.length) ' ')

/-- The texts in their columns, without the blanks at the end. -/
def alignLine (widths : List Nat) (texts : List String) : String :=
  trimEnd (String.intercalate " | " (texts.zipWith (fun text width => padEnd width text) widths))

/-- How long the line under the headers is: the columns and the bars between them. -/
def ruleLength (widths : List Nat) : Nat :=
  widths.foldr (· + ·) 0 + 3 * (widths.length - 1)

/-- The sheet as aligned text under its title. -/
def toText (sheet : Sheet) : String :=
  let rows := sheet.rows.map (·.map Cell.shown)
  let widths := rows.foldl widen (sheet.headers.map String.length)
  let rule := String.ofList (List.replicate (ruleLength widths) '-')
  let body := alignLine widths sheet.headers :: rule :: rows.map (alignLine widths)
  "## " ++ sheet.title ++ "\n\n" ++ String.join (body.map (· ++ "\n"))

/-! ### JSON -/

/-- A sheet is its title, its headers and its rows. -/
def toJson (sheet : Sheet) : Value :=
  .record [("title", .text sheet.title), ("headers", .texts sheet.headers),
    ("rows", .array (sheet.rows.map fun row => .array (row.map Cell.toJson)))]

/-- Takes `toJson` back, up to the last places of the numbers. -/
def ofJson? : Reader Sheet := fun v => do
  match ← fields? ["title", "headers", "rows"] 3 v with
  | [title, headers, rows] =>
      return ⟨← required readText title, ← required (readList readText) headers,
        ← required (readList (readList Cell.ofJson?)) rows⟩
  | _ => none

end Sheet

/-! ### Forms

What a command shows can be had as text for people, as CSV for tables, and as JSON for
programs. -/

/-- A form in which products are written. -/
inductive Format
  /-- Aligned text for people. -/
  | text
  /-- A CSV block for each sheet. -/
  | csv
  /-- Pretty JSON. -/
  | json
  deriving DecidableEq, Repr

namespace Format

/-- The name of a form on the command line. -/
def name : Format → String
  | text => "text"
  | csv => "csv"
  | json => "json"

def all : List Format := [text, csv, json]

/-- The form of this name. The letter case counts. -/
def ofName? (name : String) : Option Format :=
  all.find? (·.name == name)

/-- The name of a form leads back to it. -/
@[simp] theorem ofName?_name (format : Format) : ofName? format.name = some format := by
  cases format <;> decide

end Format

end BenchBoard
