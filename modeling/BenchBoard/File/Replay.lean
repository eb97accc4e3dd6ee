import BenchBoard.File.Source
/-!
# BenchBoard.File.Replay

**A source that repeats a conversation.** The answers that were given so far are given again,
in order. The first question without an answer is kept, and it is answered by a failure
that is not transient, so that whoever asked gives up.

In this way a computation that asks questions can be run by someone who can only look for
one answer at a time: run it, look for the answer to the question that was kept, and run it
again with that answer added, until no question is left open.
-/

namespace BenchBoard

/-- A question to a source. -/
inductive Question
  | size (path : String)
  | text (path : String)
  deriving DecidableEq, Repr

/-- The answer to a question. -/
inductive Reply
  | size (answer : Except Failure Nat)
  | text (answer : Except Failure String)

/-- The answers still to be repeated, and the first question that had none. -/
structure Replay where
  replies : List Reply
  unanswered : Option Question := none

namespace Replay

/-- The failure that stands for an answer that is not known yet. -/
def unknownYet : Failure :=
  ⟨.other, "not answered yet"⟩

/-- The state after a question without an answer. -/
def keep (replay : Replay) (question : Question) : Replay :=
  { replay with unanswered := replay.unanswered.or (some question) }

/-- The source that repeats the answers. -/
def source : Source Replay where
  size := fun path replay =>
    match replay.replies with
    | .size answer :: replies => (answer, { replay with replies := replies })
    | _ => (.error unknownYet, replay.keep (.size path))
  read := fun path replay =>
    match replay.replies with
    | .text answer :: replies => (answer, { replay with replies := replies })
    | _ => (.error unknownYet, replay.keep (.text path))

/-- Is the last question of a journal one more attempt at the question before? -/
def isRetry (journal : Array Event) : Bool :=
  match journal.back?, journal.pop.back? with
  | some (.sizeAsked _), some (.retrying ..) | some (.textAsked _), some (.retrying ..) => true
  | _, _ => false

end Replay

end BenchBoard
