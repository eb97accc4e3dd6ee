import BenchBoard.Json.Value
import BenchBoard.Decimal.Reading
/-!
# BenchBoard.Json.Parser

**Reading JSON text.** The grammar is the strict one: no comments, no trailing commas, no
text after the value, no byte order mark, no control character inside a string, and no
leading zero in a number.

Design points:

* Every reader takes the characters and gives a value with the rest, or `none`. Why a text
  is refused is not reported: a caller only learns that it is no JSON.
* Strings are read in two steps. `pieces` splits a literal into characters and halves of
  surrogate pairs, which is a matter of syntax; `joinPieces` pairs the halves up, which is
  what makes it a text.
* Values nest without a bound. Readers of values recurse on a fuel that starts at the
  number of characters; each value, item and member takes at least one of them, so the
  fuel never runs out on its own.
-/

namespace BenchBoard.Json

open BenchBoard.Decimal (isDigit)

/-- The text without the blanks that JSON admits between its tokens. -/
def skipBlank : List Char → List Char :=
  List.dropWhile fun c => c == ' ' || c == '\n' || c == '\t' || c == '\r'

/-! ### Strings -/

/-- A part of a string literal: a character, or an escaped half of a surrogate pair. -/
inductive Piece
  | char (c : Char)
  | half (unit : Nat)
  deriving DecidableEq, Repr

/-- The value of a hexadecimal digit. -/
def hexDigit? (c : Char) : Option Nat :=
  if '0' ≤ c ∧ c ≤ '9' then some (c.toNat - '0'.toNat)
  else if 'a' ≤ c ∧ c ≤ 'f' then some (c.toNat - 'a'.toNat + 10)
  else if 'A' ≤ c ∧ c ≤ 'F' then some (c.toNat - 'A'.toNat + 10)
  else none

/-- The code unit that four hexadecimal digits spell. -/
def hexUnit? (a b c d : Char) : Option Nat := do
  return (((← hexDigit? a) * 16 + (← hexDigit? b)) * 16 + (← hexDigit? c)) * 16 +
    (← hexDigit? d)

/-- The piece that a code unit stands for. -/
def Piece.ofUnit (unit : Nat) : Piece :=
  if 0xD800 ≤ unit ∧ unit ≤ 0xDFFF then .half unit else .char (Char.ofNat unit)

/-- The character that a backslash and this character stand for. -/
def shortEscape? : Char → Option Char
  | '"' => some '"'
  | '\\' => some '\\'
  | '/' => some '/'
  | 'b' => some '\x08'
  | 'f' => some '\x0C'
  | 'n' => some '\n'
  | 'r' => some '\r'
  | 't' => some '\t'
  | _ => none

/-- The pieces of a string literal whose opening quote has been read, and the text after
its closing quote. -/
def pieces : List Char → Option (List Piece × List Char)
  | [] => none
  | c :: cs =>
      if c = '"' then some ([], cs)
      else if c = '\\' then
        match cs with
        | 'u' :: h₁ :: h₂ :: h₃ :: h₄ :: cs =>
            match hexUnit? h₁ h₂ h₃ h₄ with
            | none => none
            | some unit =>
                (pieces cs).map fun (ps, rest) => (Piece.ofUnit unit :: ps, rest)
        | e :: cs =>
            match shortEscape? e with
            | none => none
            | some e => (pieces cs).map fun (ps, rest) => (.char e :: ps, rest)
        | [] => none
      else if c.toNat < 0x20 then none
      else (pieces cs).map fun (ps, rest) => (.char c :: ps, rest)

/-- The characters that the pieces stand for. A half without its partner stands for none. -/
def joinPieces : List Piece → Option (List Char)
  | [] => some []
  | .char c :: ps => (joinPieces ps).map (c :: ·)
  | .half high :: .half low :: ps =>
      if high < 0xDC00 ∧ 0xDC00 ≤ low then
        (joinPieces ps).map
          (Char.ofNat (0x10000 + (high - 0xD800) * 0x400 + (low - 0xDC00)) :: ·)
      else none
  | .half _ :: _ => none

/-- A string literal whose opening quote has been read. -/
def parseString (cs : List Char) : Option (Option String × List Char) :=
  (pieces cs).map fun (ps, rest) => ((joinPieces ps).map String.ofList, rest)

/-! ### Numbers -/

/-- The digits in front of a text, at least one. -/
def someDigits (cs : List Char) : Option (List Char × List Char) :=
  let digits := cs.takeWhile isDigit
  if digits.isEmpty then none else some (digits, cs.dropWhile isDigit)

/-- The whole part of a number: one zero, or digits that begin with no zero. -/
def wholePart : List Char → Option (List Char × List Char)
  | '0' :: cs => some (['0'], cs)
  | cs => someDigits cs

/-- The fraction of a number with its point, or nothing. -/
def fractionPart : List Char → Option (List Char × List Char)
  | '.' :: cs => (someDigits cs).map fun (digits, rest) => ('.' :: digits, rest)
  | cs => some ([], cs)

/-- The power of ten of a number with its mark and sign, or nothing. -/
def powerPart : List Char → Option (List Char × List Char)
  | [] => some ([], [])
  | c :: cs =>
      if c = 'e' ∨ c = 'E' then
        match cs with
        | [] => none
        | s :: rest =>
            if s = '+' ∨ s = '-' then
              (someDigits rest).map fun (digits, rest) => (c :: s :: digits, rest)
            else (someDigits cs).map fun (digits, rest) => (c :: digits, rest)
      else some ([], c :: cs)

/-- The literal of a number without its sign. -/
def magnitudeLiteral (cs : List Char) : Option (List Char × List Char) := do
  let (whole, cs) ← wholePart cs
  match whole, cs with
  | ['0'], c :: _ => if isDigit c then none
  | _, _ => pure ()
  let (fraction, cs) ← fractionPart cs
  let (power, cs) ← powerPart cs
  return (whole ++ fraction ++ power, cs)

def numberLiteral : List Char → Option (List Char × List Char)
  | '-' :: cs => (magnitudeLiteral cs).map fun (literal, rest) => ('-' :: literal, rest)
  | cs => magnitudeLiteral cs

/-! ### Values -/

/-- Strips an expected text off. -/
def expect? : List Char → List Char → Option (List Char)
  | [], cs => some cs
  | _ :: _, [] => none
  | e :: es, c :: cs => if e = c then expect? es cs else none

mutual

/-- A value, with blanks in front of it or not. -/
def parseValue : Nat → List Char → Option (Value × List Char)
  | 0, _ => none
  | fuel + 1, cs =>
      match skipBlank cs with
      | [] => none
      | c :: cs =>
          if c = '"' then
            (parseString cs).map fun (text, rest) => (.string text, rest)
          else if c = '[' then
            match skipBlank cs with
            | ']' :: rest => some (.array [], rest)
            | rest => (parseItems fuel rest).map fun (items, rest) => (.array items, rest)
          else if c = '\x7b' then
            match skipBlank cs with
            | '\x7d' :: rest => some (.object [], rest)
            | rest =>
                (parseMembers fuel rest).map fun (members, rest) => (.object members, rest)
          else if c = 'n' then
            (expect? ['u', 'l', 'l'] cs).map fun rest => (.null, rest)
          else if c = 't' then
            (expect? ['r', 'u', 'e'] cs).map fun rest => (.bool true, rest)
          else if c = 'f' then
            (expect? ['a', 'l', 's', 'e'] cs).map fun rest => (.bool false, rest)
          else
            (numberLiteral (c :: cs)).map fun (literal, rest) => (.number literal, rest)

/-- The items of an array, at least one, up to its closing bracket. -/
def parseItems : Nat → List Char → Option (List Value × List Char)
  | 0, _ => none
  | fuel + 1, cs =>
      match parseValue fuel cs with
      | none => none
      | some (item, rest) =>
          match skipBlank rest with
          | [] => none
          | c :: rest =>
              if c = ',' then
                (parseItems fuel rest).map fun (items, rest) => (item :: items, rest)
              else if c = ']' then some ([item], rest)
              else none

/-- The members of an object, at least one, up to its closing brace. -/
def parseMembers :
    Nat → List Char → Option (List (Option String × Value) × List Char)
  | 0, _ => none
  | fuel + 1, cs =>
      match expect? ['"'] (skipBlank cs) with
      | none => none
      | some rest =>
          match parseString rest with
          | none => none
          | some (name, rest) =>
              match expect? [':'] (skipBlank rest) with
              | none => none
              | some rest =>
                  match parseValue fuel rest with
                  | none => none
                  | some (value, rest) =>
                      match skipBlank rest with
                      | [] => none
                      | c :: rest =>
                          if c = ',' then
                            (parseMembers fuel rest).map fun (members, rest) =>
                              ((name, value) :: members, rest)
                          else if c = '\x7d' then some ([(name, value)], rest)
                          else none

end

def parseChars (cs : List Char) : Option Value :=
  match parseValue (cs.length + 1) cs with
  | some (value, rest) => if (skipBlank rest).isEmpty then some value else none
  | none => none

def parse (text : String) : Option Value :=
  parseChars text.toList

end BenchBoard.Json
