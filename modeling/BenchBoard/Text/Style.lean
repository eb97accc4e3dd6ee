/-!
# BenchBoard.Text.Style

**Texts that stand out on a terminal.** A style is switched on by a control sequence in
front of a text and everything is switched off by a reset behind it.

A text may itself hold a reset, for example because a part of it has a style of its own.
The outer style is then switched on again behind that reset, so it reaches to the end of
the text.
-/

namespace BenchBoard.Text

/-- A way to set a text off, by the codes that switch it on. -/
structure Style where
  codes : List Nat
  deriving DecidableEq, Repr

namespace Style

def bold : Style := ⟨[1]⟩

def underlined : Style := ⟨[4]⟩

def green : Style := ⟨[32]⟩

def yellow : Style := ⟨[33]⟩

def cyan : Style := ⟨[36]⟩

/-- Both styles at once. -/
def and (first second : Style) : Style :=
  ⟨first.codes ++ second.codes⟩

/-- The sequence that switches a style on. -/
def start (style : Style) : List Char :=
  '\x1b' :: '[' :: (String.intercalate ";" (style.codes.map toString)).toList ++ ['m']

/-- The sequence that switches every style off. -/
def reset : List Char := ['\x1b', '[', '0', 'm']

/-- The characters with the style switched on again behind every reset. -/
def resume (style : Style) : List Char → List Char
  | '\x1b' :: '[' :: '0' :: 'm' :: cs => reset ++ start style ++ resume style cs
  | c :: cs => c :: resume style cs
  | [] => []

/-- The text in a style, if there is to be any colour. -/
def paint (style : Style) (color : Bool) (text : String) : String :=
  if color then
    String.ofList (start style ++ resume style text.toList ++ reset)
  else text

end Style

end BenchBoard.Text
