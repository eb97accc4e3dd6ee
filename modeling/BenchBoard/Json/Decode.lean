import BenchBoard.Json.Number
/-!
# BenchBoard.Json.Decode

**Readers of typed values.** A `Reader α` makes an `α` of a JSON value or refuses it. The
readers of this module are the parts that the readers of the domain types are made of.

Design points:

* A record is read by the names of its fields (`fields?`). Members with other names are
  ignored, a repeated field is refused. A record may also be written as the array of its
  fields in order; fields at its end may then be left out if they have a default.
* A field is *required*, *optional* (absent and `null` both mean none) or has a *default*
  (absent means the default, `null` is refused).
-/

namespace BenchBoard.Json

abbrev Reader (α : Type) := Value → Option α

/-! ### Scalars and lists -/

def readText : Reader String
  | .string text => text
  | _ => none

/-- Reads a truth value. -/
def readBool : Reader Bool
  | .bool b => some b
  | _ => none

/-- Reads a natural number below `2 ^ 64`. -/
def readCount : Reader Nat
  | .number literal => countOfLiteral? literal
  | _ => none

def readFloat : Reader Float
  | .number literal => floatOfLiteral? literal
  | _ => none

/-- Reads `null` as none. -/
def readOptional {α : Type} (read : Reader α) : Reader (Option α)
  | .null => some none
  | v => (read v).map some

/-- Reads an array, item by item. -/
def readList {α : Type} (read : Reader α) : Reader (List α)
  | .array items => items.mapM read
  | _ => none

/-! ### Records -/

/-- The only value with this name; `none` inside stands for no such member, `none` outside
for several. -/
def uniqueMember? (name : String) (members : List (Option String × Value)) :
    Option (Option Value) :=
  match members.filter fun member => member.1 == some name with
  | [] => some none
  | [member] => some (some member.2)
  | _ => none

/-- The first `width` items, with none for those that are not there. -/
def padItems : Nat → List Value → List (Option Value)
  | 0, _ => []
  | width + 1, [] => none :: padItems width []
  | width + 1, item :: items => some item :: padItems width items

/-- The values of the fields with these names, in the order of the names. In the array form
the first `least` of them have to be there. -/
def fields? (names : List String) (least : Nat) : Reader (List (Option Value))
  | .object members =>
      if members.any fun member => member.1.isNone then none
      else names.mapM fun name => uniqueMember? name members
  | .array items =>
      if least ≤ items.length ∧ items.length ≤ names.length then
        some (padItems names.length items)
      else none
  | _ => none

/-- A field that has to be there. -/
def required {α : Type} (read : Reader α) : Option Value → Option α
  | none => none
  | some v => read v

/-- A field that may be absent or `null`. -/
def optional {α : Type} (read : Reader α) : Option Value → Option (Option α)
  | none => some none
  | some v => readOptional read v

/-- A field that may be absent. -/
def defaulted {α : Type} (otherwise : α) (read : Reader α) : Option Value → Option α
  | none => some otherwise
  | some v => read v

end BenchBoard.Json
