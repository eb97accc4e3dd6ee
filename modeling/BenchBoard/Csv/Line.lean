import BenchBoard.Csv.Field
/-!
# BenchBoard.Csv.Line

**Reading a whole line.** A line is a sequence of fields with a comma between each two. A
comma at the end of the line is followed by one more, empty, field. A line of blanks has
no fields at all, so a blank line and a line with one empty field are different things.

A line is read completely or not at all: `parse` gives every field or one `LineError`
with the column at which reading could not go on.
-/

namespace BenchBoard.Csv

open BenchBoard.Text

/-- A line that cannot be read. -/
structure LineError where
  /-- The column of the offending character, counted in characters from 1. For a quote
  that is never closed this is the column of that quote. -/
  column : Nat
  /-- What is wrong. -/
  fault : Fault
  deriving DecidableEq, Repr

def LineError.message (e : LineError) : String :=
  s!"column {e.column}: {e.fault.message}"

/-- The fields of a line that has at least one. -/
def fields (cs : List Char) : Except Stop (List (List Char)) :=
  match _h : field cs with
  | .error stop => .error stop
  | .ok (text, []) => .ok [text]
  | .ok (text, c :: rest) =>
      if c = ',' then (fields rest).map (text :: ·)
      else .error ⟨c :: rest, .commaExpected c⟩
  termination_by cs.length
  decreasing_by
    have hlen := length_rest_of_field _h
    simp only [List.length_cons] at hlen
    omega

def parseChars (cs : List Char) : Except LineError (List (List Char)) :=
  if allBlank cs then .ok []
  else
    match fields cs with
    | .ok texts => .ok texts
    | .error stop => .error ⟨cs.length - stop.rest.length + 1, stop.fault⟩

/-- The fields of a line. -/
def parse (line : String) : Except LineError (List String) :=
  (parseChars line.toList).map (·.map String.ofList)

end BenchBoard.Csv
