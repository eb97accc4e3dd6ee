import BenchBoard.File.Source
import BenchBoard.File.Path
/-!
# BenchBoard.File.Tree

**A tree of files held in memory.** The tree is a working directory with files and
directories below it, and it answers as a file system does: a path is followed part by
part, a missing part is not found, and a file that is followed further is no directory.

Design points:

* The tree is a flat list of full names. A directory exists when it is listed or when
  something is listed below it, so there is nothing to keep consistent.
* A file knows the number of its bytes and, when they are text, the text.
* Of what lies outside the working directory only the directories above it are known, and
  nothing that they hold.
* The answers do not depend on what was asked before: the source has no state of its own
  beyond the tree.
-/

namespace BenchBoard

/-- A name below the working directory, part by part. -/
abbrev TreeName := List (List Char)

/-- What is listed under a name. -/
inductive TreeNode
  /-- A file of so many bytes; without a text if they are no text. -/
  | file (size : Nat) (text : Option String)
  | directory
  deriving DecidableEq, Repr

/-- The files and directories below the working directory. -/
abbrev FileTree := List (TreeName × TreeNode)

namespace FileTree

/-- The bytes that a directory itself is said to take. -/
def directorySize : Nat := 4096

/-- No such file or directory. -/
def notFound : Failure :=
  ⟨.notFound, "No such file or directory (os error 2)"⟩

/-- A part of the path that is followed further is a file. -/
def notADirectory : Failure :=
  ⟨.other, "Not a directory (os error 20)"⟩

/-- The text of a directory was asked for. -/
def isADirectory : Failure :=
  ⟨.other, "Is a directory (os error 21)"⟩

/-- The bytes of the file are no text. -/
def notText : Failure :=
  ⟨.invalidData, "stream did not contain valid UTF-8"⟩

/-- No file name holds a NUL character. -/
def nulInName : Failure :=
  ⟨.other, "file name contained an unexpected NUL byte"⟩

/-- The name that a path spells below the working directory. -/
def nameOf (path : String) : TreeName :=
  (Path.segments path.toList).filter fun part => !Path.isIdle part

/-- What is at a name. A name in front of a listed one is a directory. -/
def node? (tree : FileTree) (name : TreeName) : Option TreeNode :=
  match tree.lookup name with
  | some node => some node
  | none =>
      if name.isEmpty || tree.any fun entry => name.isPrefixOf entry.1 then some .directory
      else none

/-- Follows the parts of a path from a directory above the working directory. They can only
lead further up. -/
def followAbove : TreeName → Except Failure TreeNode
  | [] => .ok .directory
  | part :: parts =>
      if Path.isIdle part || part == ['.', '.'] then followAbove parts else .error notFound

/-- Follows the parts of a path from a directory, whose name is held in reverse. -/
def follow (tree : FileTree) (here : TreeName) : TreeName → Except Failure TreeNode
  | [] => .ok .directory
  | part :: parts =>
      if Path.isIdle part then follow tree here parts
      else if part = ['.', '.'] then
        match here with
        | [] => followAbove parts
        | _ :: up => follow tree up parts
      else
        match node? tree (part :: here).reverse with
        | none => .error notFound
        | some .directory => follow tree (part :: here) parts
        | some (.file size text) =>
            if parts.isEmpty then .ok (.file size text) else .error notADirectory

/-- What a path leads to. The empty path leads nowhere. -/
def resolve (tree : FileTree) (path : String) : Except Failure TreeNode :=
  let cs := path.toList
  if cs.contains '\x00' then .error nulInName
  else if cs.isEmpty then .error notFound
  else if Path.isAbsolute path then followAbove (Path.segments cs)
  else follow tree [] (Path.segments cs)

def source : Source FileTree where
  size := fun path tree =>
    ((resolve tree path).map fun
      | .file size _ => size
      | .directory => directorySize, tree)
  read := fun path tree =>
    (match resolve tree path with
      | .error failure => .error failure
      | .ok .directory => .error isADirectory
      | .ok (.file _ none) => .error notText
      | .ok (.file _ (some text)) => .ok text, tree)

end FileTree

end BenchBoard
