import BenchBoard.Sheet.Basic
/-!
# BenchBoard.Command.Param

**What may be written on the command line.** Each command has parameters: some by their
place, the others as options with a long name and mostly a letter too.

Design points:

* `Arity` says how often a parameter may be given and whether a value belongs to it. The
  reader of command lines (`BenchBoard.Command.Line`) knows nothing else about parameters.
* The count of `verbose` may stand in front of the command or behind it, so every command
  has it too.
-/

namespace BenchBoard.Command

/-- The parameters of all commands. -/
inductive Param
  /-- More log lines. -/
  | verbose
  | help
  | version
  /-- The result file to inspect. -/
  | file
  /-- The description of the cases. -/
  | cases
  /-- The topic of the case to compare. -/
  | topic
  /-- The case to compare, by its place or its name. -/
  | chosen
  /-- A metric to compare. -/
  | metric
  | format
  /-- Whether to show the full results. -/
  | full
  /-- Where relative result files lie. -/
  | root
  | shell
  /-- Whether to tell how a completion script is installed. -/
  | install
  deriving DecidableEq, Repr

/-- What a value has to be. -/
inductive ValueKind
  /-- Any text. -/
  | text
  /-- A path: any text but the empty one. -/
  | path
  /-- The name of a format. -/
  | format
  deriving DecidableEq, Repr

/-- How a parameter is given. -/
inductive Arity
  /-- Without a value; nothing else is looked at any more. -/
  | halt
  /-- Without a value, at most once. -/
  | flag
  /-- Without a value, any number of times. -/
  | counter
  /-- With a value, at most once. -/
  | single (kind : ValueKind)
  /-- With a value each time. -/
  | several (kind : ValueKind)
  deriving DecidableEq, Repr

/-- Does a value belong to the parameter? -/
def Arity.takesValue : Arity → Bool
  | halt | flag | counter => false
  | single _ | several _ => true

/-- May a parameter of this kind have this value? -/
def ValueKind.accepts : ValueKind → String → Bool
  | text, _ => true
  | path, value => !value.isEmpty
  | format, value => (Format.ofName? value).isSome

namespace Param

def arity : Param → Arity
  | help | version => .halt
  | full | install => .flag
  | verbose => .counter
  | file | cases | root => .single .path
  | topic | chosen | shell => .single .text
  | format => .single .format
  | metric => .several .text

/-- The long name of an option; a name for people of any other parameter. -/
def name : Param → String
  | verbose => "verbose"
  | help => "help"
  | version => "version"
  | file => "FILE"
  | cases => "CASES"
  | topic => "topic"
  | chosen => "case"
  | metric => "metric"
  | format => "format"
  | full => "full"
  | root => "root"
  | shell => "SHELL"
  | install => "install"

def letter? : Param → Option Char
  | verbose => some 'v'
  | help => some 'h'
  | version => some 'V'
  | topic => some 't'
  | chosen => some 'c'
  | metric => some 'm'
  | format => some 'f'
  | install => some 'i'
  | full | root | file | cases | shell => none

/-- Is the parameter given by its place? -/
def isPositional : Param → Bool
  | file | cases | shell => true
  | _ => false

/-- The parameter as it is named in messages. -/
def shown (param : Param) : String :=
  if param.isPositional then s!"<{param.name}>" else s!"--{param.name}"

end Param

/-- The commands. -/
inductive Verb
  /-- Summarises a result file. -/
  | inspect
  /-- Lists the cases of a description. -/
  | topics
  /-- Compares the entries of a case. -/
  | compare
  /-- Prints a completion script for a shell. -/
  | completion
  deriving DecidableEq, Repr

namespace Verb

/-- The word of a command. -/
def name : Verb → String
  | inspect => "inspect"
  | topics => "topics"
  | compare => "compare"
  | completion => "completion"

/-- All commands. -/
def all : List Verb := [inspect, topics, compare, completion]

/-- The command of this word. -/
def ofName? (name : String) : Option Verb :=
  all.find? (·.name == name)

/-- The parameters that are given by their place, in order. -/
def positionals : Verb → List Param
  | inspect => [.file]
  | topics | compare => [.cases]
  | completion => [.shell]

/-- The options of a command. -/
def options : Verb → List Param
  | inspect | topics => [.format, .verbose, .help]
  | compare => [.topic, .chosen, .metric, .format, .full, .root, .verbose, .help]
  | completion => [.install, .verbose, .help]

end Verb

/-- The word that asks for the help of a command. -/
def helpWord : String := "help"

def commonOptions : List Param := [.verbose, .help, .version]

end BenchBoard.Command
