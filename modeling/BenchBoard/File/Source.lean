/-!
# BenchBoard.File.Source

**Where texts come from.** A source answers two questions about a path: how many bytes the
file has, and what its text is. Each answer can be a failure, and asking again can give
another answer, so a source carries a state.

Design points:

* The state `σ` is the source's own: a script that is used up, a tree of files, the record
  of a conversation with a file system. Everything above works for every source.
* A `Session` is that state together with a journal of what happened. Each question is
  entered, so "the source was not asked" is a statement about the journal. Warnings are
  entered too, in the order in which they arose.
-/

namespace BenchBoard

/-- The kind of a failure to read a file. -/
inductive FailureKind
  | interrupted
  | wouldBlock
  | timedOut
  | notFound
  | permissionDenied
  | invalidData
  | unexpectedEnd
  | other
  deriving DecidableEq, Repr

/-- Why a file could not be read. -/
structure Failure where
  kind : FailureKind
  message : String
  deriving DecidableEq, Repr

/-- May the failure be gone at the next attempt? -/
def Failure.isTransient (failure : Failure) : Bool :=
  match failure.kind with
  | .interrupted | .wouldBlock | .timedOut => true
  | _ => false

/-- A source of texts with a state. -/
structure Source (σ : Type) where
  /-- The number of bytes of a file. -/
  size : String → σ → Except Failure Nat × σ
  /-- The text of a file. -/
  read : String → σ → Except Failure String × σ

/-- What happens while files are loaded and compared. -/
inductive Event
  | sizeAsked (path : String)
  | textAsked (path : String)
  /-- A transient failure is followed by another attempt. Attempts are counted from 1. -/
  | retrying (path : String) (attempt : Nat) (reason : String)
  /-- The size labels of this entry differ from the baseline's. -/
  | relabelled (entry : String)
  deriving DecidableEq, Repr

/-- Is the event one that a user is warned of? -/
def Event.isWarning : Event → Bool
  | .sizeAsked _ | .textAsked _ => false
  | .retrying _ _ _ | .relabelled _ => true

/-- The state of a source and the journal of what happened, oldest first. -/
structure Session (σ : Type) where
  state : σ
  journal : Array Event := #[]

namespace Session

variable {σ : Type}

/-- Enters an event. -/
def note (session : Session σ) (event : Event) : Session σ :=
  { session with journal := session.journal.push event }

/-- Enters several events. -/
def noteAll (session : Session σ) (events : List Event) : Session σ :=
  { session with journal := session.journal ++ events.toArray }

/-- How often sizes were asked for. -/
def sizeCalls (session : Session σ) : Nat :=
  session.journal.countP fun
    | .sizeAsked _ => true
    | _ => false

/-- How often texts were asked for. -/
def readCalls (session : Session σ) : Nat :=
  session.journal.countP fun
    | .textAsked _ => true
    | _ => false

end Session

namespace Source

variable {σ : Type}

def askSize (source : Source σ) (path : String) (session : Session σ) :
    Except Failure Nat × Session σ :=
  let (answer, state) := source.size path session.state
  (answer, { session with state := state }.note (.sizeAsked path))

def askText (source : Source σ) (path : String) (session : Session σ) :
    Except Failure String × Session σ :=
  let (answer, state) := source.read path session.state
  (answer, { session with state := state }.note (.textAsked path))

end Source

end BenchBoard
