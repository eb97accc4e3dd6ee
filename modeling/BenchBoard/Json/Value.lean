/-!
# BenchBoard.Json.Value

**JSON values as they are written.** A value keeps what its text says, not what a reader
makes of it: a number is its literal, so that a reader can still tell `1` from `1.0`, and
an object keeps its members in order, repeated names included.

Design points:

* A string literal may spell half of a surrogate pair with an escape. Such a literal is
  valid JSON and no text; it is kept as `none`. It does no harm in a place that nobody
  reads, and every reader of a text refuses it.
* Which numbers and texts a type accepts is decided by the readers in
  `BenchBoard.Json.Decode`.
* A record is written in the order of its fields. A map is kept in the order of its names, so a
  value that is made of maps has the members of all its objects in that order (`Value.sorted`).
-/

namespace BenchBoard.Json

/-- A JSON value. -/
inductive Value
  | null
  | bool (b : Bool)
  | number (literal : List Char)
  /-- A string; `none` if its escapes spell no text. -/
  | string (text : Option String)
  | array (items : List Value)
  /-- The members in the order of the text, repeated names included. -/
  | object (members : List (Option String × Value))

namespace Value

def text (s : String) : Value :=
  .string (some s)

/-- The string that holds a text, or `null`. -/
def optionalText : Option String → Value
  | none => .null
  | some s => .text s

/-- The object with these members. -/
def record (members : List (String × Value)) : Value :=
  .object (members.map fun (name, value) => (some name, value))

/-- The array of these texts. -/
def texts (items : List String) : Value :=
  .array (items.map .text)

/-- The number that a natural number is written as. -/
def count (n : Nat) : Value :=
  .number (Nat.toDigits 10 n)

end Value

/-! ### Maps -/

/-- The members in the order of their names. Members of one name keep theirs. -/
def sortMembers (members : List (Option String × Value)) : List (Option String × Value) :=
  members.mergeSort fun a b => decide (a.1.getD "" ≤ b.1.getD "")

mutual

/-- The value with the members of all its objects in the order of their names. -/
def Value.sorted : Value → Value
  | .array items => .array (sortedItems items)
  | .object members => .object (sortMembers (sortedMembers members))
  | v => v

/-- The items, each with its objects in order. -/
def sortedItems : List Value → List Value
  | [] => []
  | item :: items => item.sorted :: sortedItems items

/-- The members in place, each with the objects of its value in order. -/
def sortedMembers : List (Option String × Value) → List (Option String × Value)
  | [] => []
  | (name, value) :: members => (name, value.sorted) :: sortedMembers members

end

end BenchBoard.Json
