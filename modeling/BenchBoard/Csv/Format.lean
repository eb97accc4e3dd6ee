import BenchBoard.Csv.Field
/-!
# BenchBoard.Csv.Format

**Writing a line.** Fields are joined by commas, and a field is quoted only when it has
to be: when it holds a comma, a quote character or a backslash, when a blank stands at one
of its ends, or when it is empty and the only field, for then it would vanish.

Design points:

* Inside quotes the active quote character is written with a backslash in front of it;
  everything else is written as it is. Backslashes are not doubled, because the reader
  keeps every pair that is not an escaped quote.
* So a run of backslashes of odd length directly before the active quote, or at the end of
  the field, would swallow that quote. `escapable` is the parity automaton that finds
  such a run. The double quote is used wherever it can be, else the single quote; a field
  that neither can hold is written in double quotes, and does not read back.
-/

namespace BenchBoard.Csv

open BenchBoard.Text

/-- Is there no run of backslashes of odd length directly before a `quote` or at the end of
the text? `odd` says whether such a run of odd length has just been read. -/
def escapableFrom (quote : Char) (odd : Bool) : List Char → Bool
  | [] => !odd
  | c :: cs =>
      if c = '\\' then escapableFrom quote (!odd) cs
      else if c = quote ∧ odd then false
      else escapableFrom quote false cs

/-- Can the text be written between two `quote` characters? -/
def escapable (quote : Char) (text : List Char) : Bool :=
  escapableFrom quote false text

/-- The text with a backslash in front of every `quote`. -/
def escape (quote : Char) : List Char → List Char
  | [] => []
  | c :: cs => if c = quote then '\\' :: c :: escape quote cs else c :: escape quote cs

@[simp] theorem escape_nil (quote : Char) : escape quote [] = [] := rfl

/-- The quote character that a field is written in. -/
def quoteFor (text : List Char) : Char :=
  if escapable '"' text || !escapable '\'' text then '"' else '\''

/-- The field between quotes. -/
def quoted (text : List Char) : List Char :=
  let quote := quoteFor text
  quote :: escape quote text ++ [quote]

/-- Has a field to be quoted? `lone` says that it is the only field of its line. -/
def needsQuotes (lone : Bool) (text : List Char) : Bool :=
  (lone && text.isEmpty) || !text.all isBare ||
    (text.head?.any isBlank) || (text.getLast?.any isBlank)

/-- One field as it stands in a line. -/
def formatField (lone : Bool) (text : List Char) : List Char :=
  if needsQuotes lone text then quoted text else text

/-- A line given by the characters of its fields. -/
def formatChars (texts : List (List Char)) : List Char :=
  [','].intercalate (texts.map (formatField (texts.length == 1)))

/-- The line that holds the given fields. -/
def format (texts : List String) : String :=
  String.ofList (formatChars (texts.map String.toList))

end BenchBoard.Csv
