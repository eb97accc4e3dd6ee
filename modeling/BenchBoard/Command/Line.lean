import BenchBoard.Command.Basic
/-!
# BenchBoard.Command.Line

**Reading a command line.** The arguments are read from left to right. Options in front of
the command are the common ones; behind the command its own parameters follow.

Design points:

* What has been read so far is a `Reading`. A value that was taken from an argument of its
  own is *pending*: it is checked when the next parameter begins or the line ends. A value
  that is attached to its option is checked at once. So of two faults the earlier one is
  usually reported, but an argument that no parameter knows wins over a pending value.
* An option that waits for its value does not take an argument that looks like an option,
  but it takes a single dash.
* Behind `--` every argument is a positional one.
-/

namespace BenchBoard.Command

/-- What has been read of the arguments of a command. -/
structure Reading where
  /-- The options that are known. -/
  options : List Param
  /-- The positional parameters that are still to come. -/
  positionals : List Param
  /-- The parameters that were given, with their values, in order. Without a value the text
  is empty. -/
  given : List (Param × String) := []
  /-- The parameter whose value is not there yet or not checked yet. -/
  pending : Option (Param × Option String) := none

namespace Reading

def has (reading : Reading) (param : Param) : Bool :=
  reading.given.any (·.1 == param)

/-- The first value of a parameter. -/
def value? (reading : Reading) (param : Param) : Option String :=
  reading.given.lookup param

def values (reading : Reading) (param : Param) : List String :=
  (reading.given.filter (·.1 == param)).map (·.2)

def enter (reading : Reading) (param : Param) (value : String) : Reading :=
  { reading with given := reading.given ++ [(param, value)] }

/-- Enters a parameter with a value that has to be of this kind. -/
def enterValue (reading : Reading) (param : Param) (kind : ValueKind) (value : String) :
    Except Usage Reading :=
  if kind.accepts value then .ok (reading.enter param value)
  else .error (.invalidValue param value)

/-- Enters a parameter if it may be given here, with or without a value. -/
def accept (reading : Reading) (param : Param) (value : Option String) :
    Except Usage Reading :=
  match param.arity, value with
  | .halt, _ => .error (if param = .version then .version else .help)
  | .flag, _ =>
      if reading.has param then .error (.repeated param) else .ok (reading.enter param "")
  | .counter, _ => .ok (reading.enter param "")
  | .single _, none | .several _, none => .error (.missingValue param)
  | .single kind, some value =>
      if reading.has param then .error (.repeated param)
      else reading.enterValue param kind value
  | .several kind, some value => reading.enterValue param kind value

/-- Enters what is pending. -/
def settle (reading : Reading) : Except Usage Reading :=
  match reading.pending with
  | none => .ok reading
  | some (param, value) => { reading with pending := none }.accept param value

/-- Begins a parameter whose value is pending. -/
def await (reading : Reading) (param : Param) (value : Option String) :
    Except Usage Reading :=
  return { ← reading.settle with pending := some (param, value) }

/-- Enters what is pending and then a parameter. -/
def settleWith (reading : Reading) (param : Param) (value : Option String) :
    Except Usage Reading := do
  (← reading.settle).accept param value

/-! ### Single arguments -/

/-- Reads an option by its long name, perhaps with a value behind an equals sign. -/
def long (reading : Reading) (text : List Char) : Except Usage Reading :=
  let name := String.ofList (text.takeWhile (· != '='))
  match reading.options.find? (·.name == name) with
  | none => .error (.unknownArgument s!"--{name}")
  | some param =>
    match text.dropWhile (· != '='), param.arity.takesValue with
    | [], true => reading.await param none
    | [], false => reading.settleWith param none
    | _ :: value, true => reading.settleWith param (some (String.ofList value))
    | _ :: _, false => .error (.surplusValue param)

/-- Reads options by their letters. The first one that takes a value takes the rest, with
or without an equals sign in between. -/
def letters (reading : Reading) : List Char → Except Usage Reading
  | [] => .ok reading
  | c :: cs =>
    match reading.options.find? (·.letter? == some c) with
    | none => .error (.unknownArgument (String.ofList ['-', c]))
    | some param =>
      match param.arity.takesValue, cs with
      | true, [] => reading.await param none
      | true, '=' :: value => reading.settleWith param (some (String.ofList value))
      | true, value => reading.settleWith param (some (String.ofList value))
      | false, _ => do (← reading.settleWith param none).letters cs

/-- Reads an argument by its place. -/
def positional (reading : Reading) (argument : String) : Except Usage Reading :=
  match reading.positionals with
  | [] => .error (.unknownArgument argument)
  | param :: positionals =>
      { reading with positionals := positionals }.await param (some argument)

/-- Reads an argument that is no option: the value that an option waits for, or else a
positional one. -/
def word (reading : Reading) (argument : String) : Except Usage Reading :=
  match reading.pending with
  | some (param, none) => .ok { reading with pending := some (param, some argument) }
  | _ => reading.positional argument

/-! ### All arguments -/

/-- Reads the arguments to the end of the line. -/
def all (reading : Reading) : List String → Except Usage Reading
  | [] => reading.settle
  | argument :: arguments =>
      if argument = "--" then do (← arguments.foldlM positional reading).settle
      else
        match argument.toList with
        | '-' :: '-' :: text => do (← reading.long text).all arguments
        | '-' :: c :: cs => do (← reading.letters (c :: cs)).all arguments
        | _ => do (← reading.word argument).all arguments

/-- The value of a parameter that is required. -/
def require (reading : Reading) (param : Param) : Except Usage String :=
  match reading.value? param with
  | some value => .ok value
  | none => .error (.missingParam param)

/-- The format that was asked for; text if none was. -/
def format (reading : Reading) : Format :=
  ((reading.value? .format).bind Format.ofName?).getD .text

/-- The command of this verb with the parameters that were given. -/
def command (reading : Reading) : Verb → Except Usage Command
  | .inspect => return .inspect (← reading.require .file) reading.format
  | .topics => return .topics (← reading.require .cases) reading.format
  | .compare => return .compare {
      cases := ← reading.require .cases
      topic := ← reading.require .topic
      chosen := ← reading.require .chosen
      metrics := reading.values .metric
      format := reading.format
      full := reading.has .full
      root := reading.value? .root }
  | .completion => return .completion (← reading.require .shell) (reading.has .install)

/-- How often more log lines were asked for. -/
def verbosity (reading : Reading) : Nat :=
  (reading.values .verbose).length

end Reading

/-! ### The whole line -/

/-- Nothing is read yet of the arguments of a command. -/
def Verb.start (verb : Verb) : Reading where
  options := verb.options
  positionals := verb.positionals

/-- Reads the arguments behind a command. A verbosity given there replaces the one given in
front of the command. -/
def Verb.line (verb : Verb) (verbosity : Nat) (arguments : List String) :
    Except Usage CommandLine := do
  let reading ← verb.start.all arguments
  let command ← reading.command verb
  return ⟨if reading.verbosity = 0 then verbosity else reading.verbosity, command⟩

/-- Is this a word that a command line can begin with? -/
def isVerb (word : String) : Bool :=
  word == helpWord || (Verb.ofName? word).isSome

/-- What the words behind `help` ask for: the help of a command. A command has no commands
of its own. -/
def helpUsage : List String → Usage
  | [] => .help
  | [word] => if isVerb word then .help else .unknownCommand word
  | word :: next :: _ => .unknownCommand (if isVerb word then next else word)

/-- What the words behind a `--` are that stands in front of the command. -/
def escapedUsage (isEmpty : Bool) : List String → Usage
  | [] => if isEmpty then .nothingAsked else .missingCommand
  | word :: _ => if isVerb word then .unknownArgument word else .unknownCommand word

/-- Reads the arguments from the common options on. -/
def readFrom (reading : Reading) : List String → Except Usage CommandLine
  | [] => .error (escapedUsage reading.given.isEmpty [])
  | argument :: arguments =>
    match Verb.ofName? argument with
    | some verb => verb.line reading.verbosity arguments
    | none =>
      if argument = helpWord then .error (helpUsage arguments)
      else if argument = "--" then .error (escapedUsage reading.given.isEmpty arguments)
      else
        match argument.toList with
        | '-' :: '-' :: text => do readFrom (← reading.long text) arguments
        | '-' :: c :: cs => do readFrom (← reading.letters (c :: cs)) arguments
        | _ => .error (.unknownCommand argument)

end BenchBoard.Command

namespace BenchBoard

/-- Reads the arguments of the program, its own name left out. -/
def CommandLine.parse (arguments : List String) : Except Usage CommandLine :=
  Command.readFrom ⟨Command.commonOptions, [], [], none⟩ arguments

end BenchBoard
