import BenchBoard.Command.Line
import BenchBoard.Command.Run
import BenchBoard.File.Replay
import BenchBoard.File.Tree
/-!
# BenchBoard.Main

**The program.** It reads its arguments, carries out the command on the files of the machine,
and prints the outcome: what was asked for on standard output, warnings and errors on
standard error. It ends with 0 if all went well, with 1 if the command failed, and with 2 if
the arguments make no sense.

The command itself is a pure computation. Its questions about files are answered one by one
(`BenchBoard.File.Replay`).
-/

namespace BenchBoard.Main

/-- The failure that a system error stands for. -/
def failureOf : IO.Error → Failure
  | .noFileOrDirectory .. => FileTree.notFound
  | .interrupted _ code details => ⟨.interrupted, s!"{details} (os error {code})"⟩
  | .timeExpired code details => ⟨.timedOut, s!"{details} (os error {code})"⟩
  | .permissionDenied _ code details => ⟨.permissionDenied, s!"{details} (os error {code})"⟩
  | .inappropriateType _ code details => ⟨.other, s!"{details} (os error {code})"⟩
  | e => ⟨.other, toString e⟩

/-- The outcome of an action, with a system error as a failure. -/
def attempt {α : Type} (action : IO α) : IO (Except Failure α) := do
  match ← action.toBaseIO with
  | .ok a => return .ok a
  | .error e => return .error (failureOf e)

/-- Counts the bytes that are still to be read. -/
partial def countBytes (handle : IO.FS.Handle) (count : Nat) : IO Nat := do
  let chunk ← handle.read 65536
  if chunk.isEmpty then return count else countBytes handle (count + chunk.size)

/-- Looks for the answer to a question. -/
def lookUp : Question → IO Reply
  | .size path => do
      return .size (← attempt do countBytes (← IO.FS.Handle.mk path .read) 0)
  | .text path => do
      let bytes ← attempt (IO.FS.readBinFile path)
      return .text (bytes.bind fun bytes =>
        match String.fromUTF8? bytes with
        | some text => .ok text
        | none => .error FileTree.notText)

/-- Runs a command until all its questions are answered. -/
partial def converse (surroundings : Surroundings) (command : Command)
    (replies : Array Reply) : IO (Except CommandError String × Array Event) := do
  let (outcome, session) :=
    Command.run surroundings Replay.source { state := ⟨replies.toList, none⟩ } command
  match session.state.unanswered with
  | none => return (outcome, session.journal)
  | some question =>
      if Replay.isRetry session.journal then
        IO.sleep surroundings.config.policy.retryDelay.toUInt32
      converse surroundings command (replies.push (← lookUp question))

def warningLine : Event → Option String
  | .retrying path number reason =>
      some s!"WARN transient read failure, retrying path={path} attempt={number} error={reason}"
  | .relabelled entry => some s!"WARN size labels differ from the baseline entry={entry}"
  | _ => none

/-- Carries out a command. -/
def execute (command : Command) : IO UInt32 := do
  let output ← IO.getStdout
  let surroundings : Surroundings :=
    { maxFileSize := ← IO.getEnv Config.maxFileSizeVariable
      color := ← output.isTty }
  let (outcome, journal) ← converse surroundings command #[]
  for line in journal.toList.filterMap warningLine do
    IO.eprintln line
  match outcome with
  | .ok text =>
      output.putStr text
      output.flush
      return 0
  | .error e =>
      IO.eprintln s!"Error: {e.message}"
      return 1

/-- Says why there is no command to carry out. -/
def explain : Usage → IO UInt32
  | .help => do
      IO.print Command.helpText
      return 0
  | .version => do
      IO.print Command.versionText
      return 0
  | usage => do
      IO.eprintln s!"error: {usage.message}\n"
      IO.eprint Command.helpText
      return 2

end BenchBoard.Main

def main (arguments : List String) : IO UInt32 :=
  match BenchBoard.CommandLine.parse arguments with
  | .ok line => BenchBoard.Main.execute line.command
  | .error usage => BenchBoard.Main.explain usage
