/-!
# BenchBoard.File.Path

**Paths as texts.** A path is kept as it was written; it is not normalised, so messages
show what a description or a user said. Two operations are needed: where a relative path
of a description points (`join`), and the directory that a description lies in (`parent`).
-/

namespace BenchBoard.Path

/-- Does the path start at the root of the file system? -/
def isAbsolute (path : String) : Bool :=
  path.toList.head? == some '/'

/-- The path of `file` below `root`. An absolute file stands for itself. A slash is put
between the two unless the root is empty or ends in one. -/
def join (root file : String) : String :=
  if isAbsolute file then file
  else if root.isEmpty || root.toList.getLast? == some '/' then root ++ file
  else root ++ "/" ++ file

/-- The text up to the first slash, and the parts after it. -/
def cut : List Char → List Char × List (List Char)
  | [] => ([], [])
  | c :: cs =>
      let (part, parts) := cut cs
      if c = '/' then ([], part :: parts) else (c :: part, parts)

/-- The parts of a path between its slashes, empty ones included. -/
def segments (cs : List Char) : List (List Char) :=
  (cut cs).1 :: (cut cs).2

/-- Does a part name no step? An empty part and a dot stay where they are. -/
def isIdle (part : List Char) : Bool :=
  part.isEmpty || part == ['.']

/-- The start of a path that is no step: the root, or a dot for the working directory. -/
def anchor (cs : List Char) : List Char × List Char :=
  match cs with
  | '/' :: rest => (['/'], rest)
  | ['.'] => (['.'], [])
  | '.' :: '/' :: rest => (['.'], '/' :: rest)
  | _ => ([], cs)

/-- The directory that a path lies in: the path without its last step, and without the
slashes and dots that stood in front of that step. It is empty for a path of one step. -/
def parent (path : String) : String :=
  let (start, body) := anchor path.toList
  match (segments body).reverse.dropWhile isIdle with
  | [] => ""
  | _ :: before =>
      let kept := before.dropWhile isIdle
      String.ofList (start ++ ['/'].intercalate kept.reverse)

end BenchBoard.Path
