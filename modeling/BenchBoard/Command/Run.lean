import BenchBoard.Catalogue.Listing
import BenchBoard.Catalogue.Registry
import BenchBoard.Command.Basic
import BenchBoard.Command.Shell
import BenchBoard.Report.Case
import BenchBoard.Report.Inspection
/-!
# BenchBoard.Command.Run

**Carrying out a command.** A command yields the text that it prints, or the reason why it
cannot. It prints nothing before it is known to succeed.

What a run depends on besides its command are its `Surroundings` and the source of the files;
the configuration is the standard one except for what these say.
-/

namespace BenchBoard

open BenchBoard.Command

/-- Why a command failed. -/
inductive CommandError
  /-- The dashboard refused. -/
  | board (cause : BoardError)
  /-- No case of the topic has this name. -/
  | noSuchCase (topic name : String)
  /-- There is nothing to report on. -/
  | nothingSelected
  /-- There is no completion script for this shell. -/
  | unsupportedShell (name : String)
  deriving DecidableEq, Repr

def CommandError.message : CommandError → String
  | board cause => cause.message
  | noSuchCase topic name => s!"Invalid input: topic '{topic}' has no case named '{name}'"
  | nothingSelected => "Invalid input: no case selected"
  | unsupportedShell name => Shell.unsupported name

/-- What a run depends on besides its command and the files. -/
structure Surroundings where
  /-- The value of the variable for the greatest size of a file. -/
  maxFileSize : Option String
  /-- Are texts to be set off by colours? -/
  color : Bool
  deriving DecidableEq, Repr

def Surroundings.config (surroundings : Surroundings) : Config :=
  Config.ofEnvironment surroundings.maxFileSize

/-! ### Requests to compare a case -/

namespace CompareRequest

variable {σ : Type}

def config (request : CompareRequest) (surroundings : Surroundings) : Config :=
  let config := surroundings.config
  { config with
    root := request.root
    metrics := if request.metrics.isEmpty then config.metrics
      else request.metrics.map Metric.forField }

/-- The place of the case that a request asks for: a number is a place, whether there is
such a case or not; every other text is a name. -/
def place (request : CompareRequest) (registry : Registry) : Except CommandError Nat :=
  match Decimal.readCount? (Text.trim request.chosen) with
  | some place => .ok place
  | none =>
      let cases := (registry.cases? request.topic).getD []
      match cases.findIdx? (·.name == request.chosen) with
      | some place => .ok place
      | none => .error (.noSuchCase request.topic request.chosen)

/-- The report of the case that a request asks for, from a registry without a selection. -/
def report (request : CompareRequest) (registry : Registry) (source : Source σ)
    (session : Session σ) : Except CommandError CaseReport × Session σ :=
  match registry.selectTopic (some request.topic) with
  | (.error e, _) => (.error (.board e), session)
  | (.ok _, registry) =>
    match request.place registry with
    | .error e => (.error e, session)
    | .ok place =>
      match registry.selectCase source (some place) session with
      | (.error e, _, session) => (.error (.board e), session)
      | (.ok _, registry, session) =>
        match registry.view? with
        | none => (.error .nothingSelected, session)
        | some view => (.ok (CaseReport.ofView view request.full), session)

end CompareRequest

/-! ### The commands -/

namespace Command

variable {σ : Type}

/-- Shows what a result file holds. -/
def inspectFile (surroundings : Surroundings) (file : String) (format : Format)
    (source : Source σ) (session : Session σ) : Except CommandError String × Session σ :=
  match (Loader.ofConfig surroundings.config).load source file session with
  | (.error e, session) => (.error (.board e), session)
  | (.ok results, session) =>
      (.ok (Inspection.render format surroundings.color results), session)

/-- Lists what a description has to compare. -/
def listTopics (surroundings : Surroundings) (cases : String) (format : Format)
    (source : Source σ) (session : Session σ) : Except CommandError String × Session σ :=
  match Registry.ofFile surroundings.config source cases session with
  | (.error e, session) => (.error (.board e), session)
  | (.ok registry, session) =>
      (.ok (Listing.render format surroundings.color registry.topics), session)

def compareCase (surroundings : Surroundings) (request : CompareRequest)
    (source : Source σ) (session : Session σ) : Except CommandError String × Session σ :=
  match Registry.ofFile (request.config surroundings) source request.cases session with
  | (.error e, session) => (.error (.board e), session)
  | (.ok registry, session) =>
    match request.report registry source session with
    | (.error e, session) => (.error e, session)
    | (.ok report, session) => (.ok (report.render request.format), session)

/-- Prints the completion script of a shell, or how to install it. -/
def complete (shell : String) (install : Bool) : Except CommandError String :=
  if install then .ok (Shell.installation shell)
  else
    match Shell.ofName? shell with
    | some shell => .ok shell.script
    | none => .error (.unsupportedShell shell)

/-- What a command prints. -/
def run (surroundings : Surroundings) (source : Source σ) (session : Session σ) :
    Command → Except CommandError String × Session σ
  | .inspect file format => inspectFile surroundings file format source session
  | .topics cases format => listTopics surroundings cases format source session
  | .compare request => compareCase surroundings request source session
  | .completion shell install => (complete shell install, session)

end Command

end BenchBoard
