/-!
# BenchBoard.Text.Blank

**Blank characters and trimming.** A character is *blank* when it has the Unicode
property `White_Space`. Every place that skips, trims or ignores blanks uses this one
class, so a no-break space around a field is as invisible as an ordinary one.

Design points:

* The class is a table of code points, not core's `Char.isWhitespace`, which knows four
  ASCII characters only (`isBlank_of_isWhitespace` says that it is contained in ours).
* Zero-width characters (U+200B, U+FEFF) and the ASCII separators U+001C to U+001F are
  *not* blank.
* The functions are stated over `List Char`; `trim` is their form for a `String`.
-/

namespace BenchBoard.Text

/-- Has the character the Unicode property `White_Space`? -/
def isBlank (c : Char) : Bool :=
  let n := c.toNat
  (0x09 ≤ n && n ≤ 0x0D) || n == 0x20 || n == 0x85 || n == 0xA0 || n == 0x1680 ||
    (0x2000 ≤ n && n ≤ 0x200A) || n == 0x2028 || n == 0x2029 || n == 0x202F ||
    n == 0x205F || n == 0x3000

/-- Core's four blanks are blank. -/
theorem isBlank_of_isWhitespace {c : Char} (h : c.isWhitespace = true) :
    isBlank c = true := by
  simp only [Char.isWhitespace, Bool.or_eq_true, decide_eq_true_eq] at h
  rcases h with ((rfl | rfl) | rfl) | rfl <;> rfl

/-- The characters without the blanks in front of them. -/
def dropBlank (cs : List Char) : List Char :=
  cs.dropWhile isBlank

@[simp] theorem dropBlank_nil : dropBlank [] = [] := rfl

/-- Skipping blanks never lengthens the text. -/
theorem length_dropBlank_le (cs : List Char) : (dropBlank cs).length ≤ cs.length :=
  (List.dropWhile_sublist isBlank).length_le

/-- The characters without the blanks after them. -/
def dropBlankEnd (cs : List Char) : List Char :=
  (cs.reverse.dropWhile isBlank).reverse

@[simp] theorem dropBlankEnd_nil : dropBlankEnd [] = [] := rfl

/-- The characters without the blanks at either end. -/
def trimChars (cs : List Char) : List Char :=
  dropBlankEnd (dropBlank cs)

@[simp] theorem trimChars_nil : trimChars [] = [] := rfl

/-- The text without the blanks at either end. -/
def trim (text : String) : String :=
  String.ofList (trimChars text.toList)

/-- The text without the blanks at its end. -/
def trimEnd (text : String) : String :=
  String.ofList (dropBlankEnd text.toList)

/-- Does the text consist of blanks only? The empty text does. -/
def allBlank (cs : List Char) : Bool :=
  cs.all isBlank

@[simp] theorem allBlank_nil : allBlank [] = true := rfl

@[simp] theorem allBlank_cons (c : Char) (cs : List Char) :
    allBlank (c :: cs) = (isBlank c && allBlank cs) := rfl

end BenchBoard.Text
