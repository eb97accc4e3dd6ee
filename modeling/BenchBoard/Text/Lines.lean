/-!
# BenchBoard.Text.Lines

**From a text to its lines.** A line ends at a line feed. One carriage return directly
before that line feed belongs to the line end; any other carriage return, also one at
the end of the text, is part of the line. A final line feed opens no further line.

Design points:

* `lines` is structural on the characters, with the line under construction held in
  reverse, so a long line costs one pass and no stack.
* A byte order mark may stand in front of the whole text. `withoutMark` removes one, and
  only one: a second mark is text.
-/

namespace BenchBoard.Text

/-- Removes one carriage return from the end of a line held in reverse. -/
def dropReturn : List Char → List Char
  | '\r' :: cs => cs
  | cs => cs

/-- The lines of `cs` when `held`, in reverse, has already been read of the first one. -/
def linesFrom (held : List Char) : List Char → List (List Char)
  | [] => if held.isEmpty then [] else [held.reverse]
  | '\n' :: cs => (dropReturn held).reverse :: linesFrom [] cs
  | c :: cs => linesFrom (c :: held) cs

/-- The lines of a text, without their ends. -/
def lines (cs : List Char) : List (List Char) :=
  linesFrom [] cs

@[simp] theorem lines_nil : lines [] = [] := rfl

def byteOrderMark : Char := '\uFEFF'

/-- The text without the byte order mark in front of it, if there is one. -/
def withoutMark : List Char → List Char
  | [] => []
  | c :: cs => if c = byteOrderMark then cs else c :: cs

/-- The number of bytes that the characters take in UTF-8. -/
def byteLength (cs : List Char) : Nat :=
  cs.foldr (fun c n => c.utf8Size + n) 0

@[simp] theorem byteLength_nil : byteLength [] = 0 := rfl

@[simp] theorem byteLength_cons (c : Char) (cs : List Char) :
    byteLength (c :: cs) = c.utf8Size + byteLength cs := rfl

/-- The bytes of two texts side by side. -/
@[simp] theorem byteLength_append (a b : List Char) :
    byteLength (a ++ b) = byteLength a + byteLength b := by
  induction a with
  | nil => simp
  | cons c cs ih => simp [ih, Nat.add_assoc]

end BenchBoard.Text
