import BenchBoard.Command.Param
/-!
# BenchBoard.Command.Basic

**Commands and command lines that make no sense.** A command is what a user wants to be
done, with all its parameters. A `Usage` is why a list of arguments is no command, or asks
for something about the program itself.

The help lists the commands with their parameters. It is made from the same tables as the
reader of command lines.
-/

namespace BenchBoard

open BenchBoard.Command

/-- What the comparison of a case is asked to do. -/
structure CompareRequest where
  /-- The path of the description. -/
  cases : String
  topic : String
  /-- The place of the case in its topic, or its name. -/
  chosen : String
  /-- The fields to compare; the standard ones if there are none. -/
  metrics : List String
  format : Format
  /-- Are the full results to be shown? -/
  full : Bool
  /-- Where relative result files lie. -/
  root : Option String
  deriving DecidableEq, Repr

/-- What is to be done. -/
inductive Command
  | inspect (file : String) (format : Format)
  | topics (cases : String) (format : Format)
  | compare (request : CompareRequest)
  | completion (shell : String) (install : Bool)
  deriving DecidableEq, Repr

/-- A command with how much the log is to say. -/
structure CommandLine where
  /-- How often more was asked for. -/
  verbosity : Nat
  command : Command
  deriving DecidableEq, Repr

/-- The filter of the log. -/
def CommandLine.logDirective (line : CommandLine) : String :=
  match line.verbosity with
  | 0 => "bmdash=warn"
  | 1 => "bmdash=info"
  | 2 => "bmdash=debug"
  | _ => "bmdash=trace"

/-- Why a command line leads to no command. -/
inductive Usage
  /-- Nothing was asked for. -/
  | nothingAsked
  /-- There are options, but no command. -/
  | missingCommand
  | unknownCommand (word : String)
  | unknownArgument (argument : String)
  /-- A value was left out. -/
  | missingValue (param : Param)
  /-- The parameter cannot have this value. -/
  | invalidValue (param : Param) (value : String)
  /-- A value was written to a parameter that has none. -/
  | surplusValue (param : Param)
  /-- A parameter was given once more than it may be. -/
  | repeated (param : Param)
  /-- The command cannot do without the parameter. -/
  | missingParam (param : Param)
  /-- The help was asked for. -/
  | help
  /-- The version was asked for. -/
  | version
  deriving DecidableEq, Repr

namespace Usage

/-- The wording for people. -/
def message : Usage → String
  | nothingAsked | missingCommand => "a command is required"
  | unknownCommand word => s!"unrecognized command '{word}'"
  | unknownArgument argument => s!"unexpected argument '{argument}'"
  | missingValue param => s!"a value is required for '{param.shown}'"
  | invalidValue param value => s!"invalid value '{value}' for '{param.shown}'"
  | surplusValue param => s!"'{param.shown}' takes no value"
  | repeated param => s!"'{param.shown}' cannot be given more than once"
  | missingParam param => s!"'{param.shown}' is required"
  | help => "help was asked for"
  | version => "the version was asked for"

end Usage

/-! ### What the program says of itself -/

namespace Command

/-- What a command does, in a line. -/
def Verb.summary : Verb → String
  | .inspect => "Summarize a single result file"
  | .topics => "List the topics and cases of a case description"
  | .compare => "Compare the entries of one case against its baseline"
  | .completion => "Generate shell completion scripts"

/-- An option with its letter and its value. -/
def Param.synopsis (param : Param) : String :=
  let letter := param.letter?.elim "" fun c => s!"-{c}, "
  let value := if param.arity.takesValue then s!" <{param.name.toUpper}>" else ""
  s!"{letter}{param.shown}{value}"

/-- The lines of a command: how it is called, and what it does. -/
def Verb.help (verb : Verb) : String :=
  let positionals := String.join (verb.positionals.map fun param => s!" {param.shown}")
  s!"  bmdash {verb.name}{positionals}\n      {verb.summary}\n" ++
    String.join (verb.options.map fun param => s!"      {param.synopsis}\n")

/-- The help of the program. -/
def helpText : String :=
  "bmdash - benchmark result dashboard\n\nCommands:\n" ++
    String.join (Verb.all.map Verb.help) ++ "\nOptions:\n" ++
    String.join (commonOptions.map fun param => s!"  {param.synopsis}\n")

/-- The version of the program. -/
def versionText : String := "bmdash 1.0.0\n"

end Command

end BenchBoard
