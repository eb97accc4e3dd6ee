import BenchBoard.Text.Blank
import BenchBoard.Decimal.Fixed
import BenchBoard.Json.Decode
/-!
# BenchBoard.Sheet.Cell

**A cell of a sheet.** A cell shows a text of a result file as it is, a number that was
computed, or nothing.

A number has two written forms: with two places for people, and in full for programs.
-/

namespace BenchBoard

open BenchBoard.Json

/-- A cell. -/
inductive Cell
  /-- A text, shown as it is. -/
  | text (s : String)
  /-- A computed number. -/
  | number (x : Float)
  /-- Nothing to show. -/
  | empty
  deriving DecidableEq

namespace Cell

/-- The cell of a text of a result file. An empty text shows nothing. -/
def ofText (s : String) : Cell :=
  if s.isEmpty then .empty else .text s

/-- The cell with its number, if it is one, to this many places. -/
def withPlaces (places : Nat) : Cell → String
  | .text s => s
  | .number x => Decimal.fixed places x
  | .empty => ""

/-- The cell as people read it. -/
def shown (cell : Cell) : String :=
  cell.withPlaces 2

/-- The cell as programs read it. -/
def exact : Cell → String
  | .number x => Decimal.exact x
  | cell => cell.shown

/-- The number that the cell holds or spells. -/
def toFloat? : Cell → Option Float
  | .number x => some x
  | .text s => Decimal.read? (Text.trim s)
  | .empty => none

/-- Is there nothing to show? An empty text is something. -/
def isEmpty : Cell → Bool
  | .empty => true
  | _ => false

/-- A cell is written as a string, a number or `null`. -/
def toJson : Cell → Value
  | .text s => .text s
  | .number x => .float x
  | .empty => .null

/-- Takes `toJson` back, up to the last place of a number. -/
def ofJson? : Reader Cell
  | .string content => content.map .text
  | .number literal => (floatOfLiteral? literal).map .number
  | .null => some .empty
  | _ => none

end Cell

end BenchBoard
