import BenchBoard.Config
import BenchBoard.Decimal.Fixed
import BenchBoard.Error
import BenchBoard.File.Source
/-!
# BenchBoard.Loader

**Getting result files.** A loader asks a source for the size of a file and, if that is not
too large, for its text, and makes a table and a series of it. Loading is atomic: the
caller gets the complete results or an error.

Design points:

* A transient failure is followed by another attempt as long as the policy allows one. The
  size and the text have a budget of attempts each.
* Each further attempt enters a warning with the number of the attempt that failed. The
  warning is entered before the next question is asked, so a run of questions of one kind
  with warnings between them is exactly what the policy allowed.
* Whatever the source answers, a file takes at most twice the attempts of the policy.
-/

namespace BenchBoard

/-- How files are loaded. -/
structure Loader where
  policy : Policy
  limits : Limits
  /-- The bytes of a file that is read at most. -/
  maxFileSize : Nat
  deriving DecidableEq, Repr

namespace Loader

variable {σ α : Type}

def ofConfig (config : Config) : Loader where
  policy := config.policy
  limits := config.limits
  maxFileSize := config.maxFileSize

/-- Asks, and asks again after a transient failure, at most `retries` times. `attempt` is the
number of the first attempt. -/
def persist (ask : Session σ → Except Failure α × Session σ) (path : String) :
    (retries attempt : Nat) → Session σ → Except Failure α × Session σ
  | 0, _, session => ask session
  | retries + 1, attempt, session =>
      match ask session with
      | (.ok answer, session) => (.ok answer, session)
      | (.error failure, session) =>
          if failure.isTransient then
            persist ask path retries (attempt + 1)
              (session.note (.retrying path attempt failure.message))
          else (.error failure, session)

/-- Asks with the attempts that the policy allows; the last failure is the error. -/
def insist (loader : Loader) (ask : Session σ → Except Failure α × Session σ)
    (path : String) (session : Session σ) : Except BoardError α × Session σ :=
  match persist ask path loader.policy.retries 1 session with
  | (.ok answer, session) => (.ok answer, session)
  | (.error failure, session) => (.error (.unreadable path failure.message), session)

/-- The text of a file that is not too large. -/
def readText (loader : Loader) (source : Source σ) (path : String) (session : Session σ) :
    Except BoardError String × Session σ :=
  match loader.insist (source.askSize path) path session with
  | (.error e, session) => (.error e, session)
  | (.ok size, session) =>
      if loader.maxFileSize < size then
        (.error (.fileTooLarge path size loader.maxFileSize), session)
      else loader.insist (source.askText path) path session

/-- The table and the series of a file's text. -/
def parse (loader : Loader) (path text : String) : Except BoardError Results :=
  (Results.ofText loader.limits text).mapError (.load path)

/-- The table and the series of a file. -/
def load (loader : Loader) (source : Source σ) (path : String) (session : Session σ) :
    Except BoardError Results × Session σ :=
  match loader.readText source path session with
  | (.error e, session) => (.error e, session)
  | (.ok text, session) => (loader.parse path text, session)

/-! ### The settings of a loader as a text -/

/-- A time in milliseconds, in the largest unit that it fills. -/
def durationText (milliseconds : Nat) : String :=
  if milliseconds = 0 then "0ns"
  else if milliseconds < 1000 then s!"{milliseconds}ms"
  else
    let fraction := Decimal.padZeros 3 (Decimal.digitsOf (milliseconds % 1000))
    let shown := (fraction.reverse.dropWhile (· == '0')).reverse
    s!"{milliseconds / 1000}" ++ (if shown.isEmpty then "" else "." ++ String.ofList shown)
      ++ "s"

/-- The settings, for people who look into a loader. -/
def describe (loader : Loader) : String :=
  let policy := s!"LoadPolicy \x7b max_attempts: {loader.policy.maxAttempts}, " ++
    s!"retry_delay: {durationText loader.policy.retryDelay} \x7d"
  let limits := s!"Limits \x7b max_input_size: {Limits.shown loader.limits.maxInputSize}, " ++
    s!"max_line_length: {Limits.shown loader.limits.maxLineLength}, " ++
    s!"max_columns: {Limits.shown loader.limits.maxColumns}, " ++
    s!"max_records: {Limits.shown loader.limits.maxRecords} \x7d"
  s!"ResultLoader \x7b policy: {policy}, limits: {limits}, " ++
    s!"max_file_size: {loader.maxFileSize}, .. \x7d"

end Loader

end BenchBoard
