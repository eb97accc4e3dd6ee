import BenchBoard.File.Source
import BenchBoard.Text.Lines
/-!
# BenchBoard.File.Script

**A source that follows a script.** For each path the script lists the answers to the
questions about its size and those about its text. Every question takes the next answer of
its list, and the last answer is given for ever. A path without a script does not exist.

A script that lists texts only answers questions about the size with the bytes of its last
text.
-/

namespace BenchBoard

/-- The answers for one path that are still to be given. -/
structure Script where
  sizes : List (Except Failure Nat)
  texts : List (Except Failure String)

namespace Script

/-- The bytes of the last text among the answers. -/
def lastSize (texts : List (Except Failure String)) : Nat :=
  match texts.reverse.findSome? Except.toOption with
  | none => 0
  | some text => text.utf8ByteSize

/-- The script that gives these answers about the text, and sizes to match. -/
def ofTexts (texts : List (Except Failure String)) : Script where
  sizes := [.ok (lastSize texts)]
  texts := texts

/-- The failure for a path without a script. -/
def missing : Failure :=
  ⟨.notFound, "no such file"⟩

/-- The next answer of a list, and what is left: never less than the last answer. -/
def next {α : Type} : List (Except Failure α) → Except Failure α × List (Except Failure α)
  | [] => (.error missing, [])
  | [answer] => (answer, [answer])
  | answer :: answers => (answer, answers)

/-- The script of a path, if there is one. -/
def find? (path : String) (scripts : List (String × Script)) : Option Script :=
  scripts.lookup path

/-- The scripts with a new one for this path. -/
def replace (path : String) (script : Script) :
    List (String × Script) → List (String × Script)
  | [] => [(path, script)]
  | (p, s) :: scripts =>
      if p = path then (path, script) :: scripts else (p, s) :: replace path script scripts

def source : Source (List (String × Script)) where
  size := fun path scripts =>
    match find? path scripts with
    | none => (.error missing, scripts)
    | some script =>
        let (answer, sizes) := next script.sizes
        (answer, replace path { script with sizes := sizes } scripts)
  read := fun path scripts =>
    match find? path scripts with
    | none => (.error missing, scripts)
    | some script =>
        let (answer, texts) := next script.texts
        (answer, replace path { script with texts := texts } scripts)

end Script

end BenchBoard
