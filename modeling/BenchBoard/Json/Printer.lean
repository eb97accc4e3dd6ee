import BenchBoard.Json.Value
/-!
# BenchBoard.Json.Printer

**Writing JSON text.** A value has two written forms. The *compact* form has no blanks at
all. The *pretty* form puts each item and member on a line of its own, indented by two
spaces a level; empty arrays and objects stay on one line.

Inside strings the quote, the backslash and the control characters below U+0020 are
escaped, the latter by their short names where they have one; everything else stands for
itself.
-/

namespace BenchBoard.Json

/-- A lower-case hexadecimal digit. -/
def hexDigit (n : Nat) : Char :=
  (Nat.toDigits 16 n).head?.getD '0'

/-- A character as it is written inside a string. -/
def escapeChar (c : Char) : List Char :=
  if c = '"' then ['\\', '"']
  else if c = '\\' then ['\\', '\\']
  else if c = '\x08' then ['\\', 'b']
  else if c = '\x0C' then ['\\', 'f']
  else if c = '\n' then ['\\', 'n']
  else if c = '\r' then ['\\', 'r']
  else if c = '\t' then ['\\', 't']
  else if c.toNat < 0x20 then
    ['\\', 'u', '0', '0', hexDigit (c.toNat / 16), hexDigit (c.toNat % 16)]
  else [c]

/-- A string literal. What is no text is written as the empty one. -/
def stringLiteral (text : Option String) : List Char :=
  '"' :: (text.getD "").toList.flatMap escapeChar ++ ['"']

/-! ### The compact form -/

mutual

def compactChars : Value → List Char
  | .null => ['n', 'u', 'l', 'l']
  | .bool true => ['t', 'r', 'u', 'e']
  | .bool false => ['f', 'a', 'l', 's', 'e']
  | .number literal => literal
  | .string text => stringLiteral text
  | .array items => '[' :: compactItems items ++ [']']
  | .object members => '\x7b' :: compactMembers members ++ ['\x7d']

/-- The compact items of an array, with commas between them. -/
def compactItems : List Value → List Char
  | [] => []
  | [item] => compactChars item
  | item :: items => compactChars item ++ ',' :: compactItems items

/-- The compact members of an object, with commas between them. -/
def compactMembers : List (Option String × Value) → List Char
  | [] => []
  | [(name, value)] => stringLiteral name ++ ':' :: compactChars value
  | (name, value) :: members =>
      stringLiteral name ++ ':' :: compactChars value ++ ',' :: compactMembers members

end

/-! ### The pretty form -/

/-- A line feed and the indentation of a level. -/
def newline (level : Nat) : List Char :=
  '\n' :: List.replicate (2 * level) ' '

mutual

/-- The pretty form of a value that stands on a line of this level. -/
def prettyChars (level : Nat) : Value → List Char
  | .null => ['n', 'u', 'l', 'l']
  | .bool true => ['t', 'r', 'u', 'e']
  | .bool false => ['f', 'a', 'l', 's', 'e']
  | .number literal => literal
  | .string text => stringLiteral text
  | .array [] => ['[', ']']
  | .array (item :: items) =>
      '[' :: prettyItems (level + 1) (item :: items) ++ newline level ++ [']']
  | .object [] => ['\x7b', '\x7d']
  | .object (member :: members) =>
      '\x7b' :: prettyMembers (level + 1) (member :: members) ++ newline level ++ ['\x7d']

/-- The pretty items of an array, each on a line of this level. -/
def prettyItems (level : Nat) : List Value → List Char
  | [] => []
  | [item] => newline level ++ prettyChars level item
  | item :: items =>
      newline level ++ prettyChars level item ++ ',' :: prettyItems level items

/-- The pretty members of an object, each on a line of this level. -/
def prettyMembers (level : Nat) : List (Option String × Value) → List Char
  | [] => []
  | [(name, value)] =>
      newline level ++ stringLiteral name ++ ':' :: ' ' :: prettyChars level value
  | (name, value) :: members =>
      newline level ++ stringLiteral name ++ ':' :: ' ' :: prettyChars level value ++
        ',' :: prettyMembers level members

end

def Value.compact (v : Value) : String :=
  String.ofList (compactChars v)

def Value.pretty (v : Value) : String :=
  String.ofList (prettyChars 0 v)

end BenchBoard.Json
