import BenchBoard.Loader
import Mathlib.Data.List.Range
/-!
# BenchBoard.Proofs.Loader.Retrying

**What a loader asks, how often, and what it makes of the answers.** A source that is asked one
question again and again gives a stream of answers (`answers`). `Asked` says where in the stream
a loader stops, and what stands in the journal then. Loading is that twice, for the size and
for the text, with a budget of attempts each; `LoadRun` has one constructor for each way in
which it can end.

The budget is a number of attempts and not of repetitions, so it is never below one.
-/

namespace BenchBoard

variable {σ α : Type}

/-! ### Streams of answers -/

/-- The answers when one question is asked again and again. -/
def answers (question : σ → Except Failure α × σ) (state : σ) : Nat → Except Failure α
  | 0 => (question state).1
  | n + 1 => answers question (question state).2 n

/-- The state of the source after one question was asked this many times. -/
def stateAfter (question : σ → Except Failure α × σ) (state : σ) : Nat → σ
  | 0 => state
  | n + 1 => stateAfter question (question state).2 n

/-- Every answer of the stream is given in some state of the source. -/
theorem exists_state_of_answers (question : σ → Except Failure α × σ) (state : σ) (n : Nat) :
    ∃ reached, answers question state n = (question reached).1 := by
  induction n generalizing state with
  | zero => exact ⟨state, rfl⟩
  | succ n ih => exact ih _

/-- May another attempt give another answer? -/
def isTransient : Except Failure α → Bool
  | .ok _ => false
  | .error failure => failure.isTransient

/-- The reason that a warning gives for an answer. -/
def reason : Except Failure α → String
  | .ok _ => ""
  | .error failure => failure.message

/-- The source that gives the answers of two streams, and counts how many of each it gave. -/
def Source.ofStreams (sizes : Nat → Except Failure Nat) (texts : Nat → Except Failure String) :
    Source (Nat × Nat) where
  size _ state := (sizes state.1, (state.1 + 1, state.2))
  read _ state := (texts state.2, (state.1, state.2 + 1))

/-- Whatever the two streams are, there is a source with these answers. -/
theorem answers_ofStreams (sizes : Nat → Except Failure Nat) (texts : Nat → Except Failure String)
    (path : String) (i j n : Nat) :
    answers ((Source.ofStreams sizes texts).size path) (i, j) n = sizes (i + n) ∧
      answers ((Source.ofStreams sizes texts).read path) (i, j) n = texts (j + n) := by
  induction n generalizing i j with
  | zero => exact ⟨rfl, rfl⟩
  | succ n ih =>
      have hsizes := (ih (i + 1) j).1
      have htexts := (ih i (j + 1)).2
      rw [Nat.add_right_comm] at hsizes htexts
      exact ⟨hsizes, htexts⟩

/-! ### One question -/

/-- How often one thing is asked for at most. -/
def Policy.attempts (policy : Policy) : Nat :=
  max 1 policy.maxAttempts

theorem Policy.retries_add_one (policy : Policy) : policy.retries + 1 = policy.attempts := by
  unfold retries attempts
  omega

/-- A question whose attempt to be answered is entered in the journal as `asking`. -/
def Session.ask (question : σ → Except Failure α × σ) (asking : Event) (session : Session σ) :
    Except Failure α × Session σ :=
  ((question session.state).1,
    ⟨(question session.state).2, session.journal.push asking⟩)

/-- The events of one attempt and `again` more, of which the first has the number `first`: a
warning stands between each two of them. -/
def rounds (asking : Event) (path : String) (first : Nat) (given : Nat → Except Failure α)
    (again : Nat) : List Event :=
  (List.range again).flatMap (fun n =>
    [asking, .retrying path (first + n) (reason (given n))]) ++ [asking]

/-- The question is asked, and asked `again` times more, up to the first answer that is no
transient failure or as often as it may be. -/
structure Asked (question : σ → Except Failure α × σ) (asking : Event) (path : String)
    (first attempts : Nat) (start : σ) (answer : Except Failure α) (finish : σ) (again : Nat)
    (events : List Event) : Prop where
  lt : again < attempts
  /-- All answers but the last are transient failures. -/
  passed : ∀ n < again, isTransient (answers question start n) = true
  /-- The last one is none, or there are no attempts left. -/
  final : isTransient answer = true → again + 1 = attempts
  answer_eq : answer = answers question start again
  finish_eq : finish = stateAfter question start (again + 1)
  events_eq : events = rounds asking path first (answers question start) again

variable {question : σ → Except Failure α × σ} {asking : Event} {path : String}
  {first attempts again : Nat} {start finish : σ} {answer : Except Failure α}
  {events : List Event}

theorem rounds_succ (asking : Event) (path : String) (first : Nat)
    (given : Nat → Except Failure α) (again : Nat) :
    rounds asking path first given (again + 1) =
      asking :: .retrying path first (reason (given 0)) ::
        rounds asking path (first + 1) (fun n => given (n + 1)) again := by
  simp [rounds, List.range_succ_eq_map, List.flatMap_map, Nat.add_assoc, Nat.add_comm 1]

/-- One attempt is enough, or is all there may be. -/
theorem Asked.once {after : σ} (hasked : question start = (answer, after))
    (hattempts : 0 < attempts) (hfinal : isTransient answer = true → attempts = 1) :
    Asked question asking path first attempts start answer after 0 [asking] where
  lt := hattempts
  passed := by
    intro n hn
    omega
  final := fun htransient => (hfinal htransient).symm
  answer_eq := (congrArg Prod.fst hasked).symm
  finish_eq := (congrArg Prod.snd hasked).symm
  events_eq := rfl

/-- A transient failure is followed by the attempts that are left. -/
theorem Asked.more {failure : Failure} {after : σ}
    (hasked : question start = (.error failure, after)) (htransient : failure.isTransient = true)
    (h : Asked question asking path (first + 1) attempts after answer finish again events) :
    Asked question asking path first (attempts + 1) start answer finish (again + 1)
      (asking :: .retrying path first failure.message :: events) where
  lt := Nat.succ_lt_succ h.lt
  passed := by
    intro n hn
    cases n with
    | zero =>
        rw [answers, hasked]
        exact htransient
    | succ n =>
        rw [answers, hasked]
        exact h.passed n (Nat.lt_of_succ_lt_succ hn)
  final := fun hlast => congrArg (· + 1) (h.final hlast)
  answer_eq := by
    rw [answers, hasked]
    exact h.answer_eq
  finish_eq := by
    rw [stateAfter, hasked]
    exact h.finish_eq
  events_eq := by
    simp only [rounds_succ, answers, hasked, h.events_eq, reason]

namespace Loader

/-- Asking with retries is asking as often as the attempts allow. -/
theorem exists_asked_of_persist (question : σ → Except Failure α × σ) (asking : Event)
    (path : String) (retries first : Nat) (session : Session σ) :
    ∃ answer finish again events,
      Asked question asking path first (retries + 1) session.state answer finish again events ∧
      persist (Session.ask question asking) path retries first session =
        (answer, ⟨finish, session.journal ++ events.toArray⟩) := by
  induction retries generalizing first session with
  | zero =>
      refine ⟨_, _, _, _, .once rfl Nat.one_pos (fun _ => rfl), ?_⟩
      simp [persist, Session.ask]
  | succ retries ih =>
      rcases hasked : question session.state with ⟨given, after⟩
      cases given with
      | ok found =>
          refine ⟨_, _, _, _, .once hasked (Nat.succ_pos _) nofun, ?_⟩
          simp [persist, Session.ask, hasked]
      | error failure =>
          by_cases htransient : failure.isTransient = true
          · -- The failure is entered in the journal before the next attempt is made.
            obtain ⟨answer, finish, again, events, hrest, hpersist⟩ := ih (first + 1)
              ⟨after, (session.journal.push asking).push (.retrying path first failure.message)⟩
            refine ⟨_, _, _, _, .more hasked htransient hrest, ?_⟩
            simp only [persist, Session.ask, hasked, htransient, if_true, Session.note, hpersist]
            simp
          · refine ⟨_, _, _, _, .once hasked (Nat.succ_pos _) (absurd · htransient), ?_⟩
            simp [persist, Session.ask, hasked, htransient]

/-- What insisting on an answer gives is what it was asked for, or the last failure as an
error. -/
theorem exists_asked_of_insist (loader : Loader) (question : σ → Except Failure α × σ)
    (asking : Event) (path : String) (session : Session σ) :
    ∃ answer finish again events,
      Asked question asking path 1 loader.policy.attempts session.state answer finish again
        events ∧
      loader.insist (Session.ask question asking) path session =
        (answer.mapError fun failure => .unreadable path failure.message,
          ⟨finish, session.journal ++ events.toArray⟩) := by
  obtain ⟨answer, finish, again, events, hasked, hpersist⟩ :=
    exists_asked_of_persist question asking path loader.policy.retries 1 session
  rw [Policy.retries_add_one] at hasked
  refine ⟨answer, finish, again, events, hasked, ?_⟩
  rw [insist, hpersist]
  cases answer <;> rfl

/-! ### A whole file -/

/-- The size of the file is asked for, as often as the policy has it. -/
abbrev AsksSize (loader : Loader) (source : Source σ) (path : String) :
    σ → Except Failure Nat → σ → Nat → List Event → Prop :=
  Asked (source.size path) (.sizeAsked path) path 1 loader.policy.attempts

/-- The text of the file is asked for, as often as the policy has it. -/
abbrev AsksText (loader : Loader) (source : Source σ) (path : String) :
    σ → Except Failure String → σ → Nat → List Event → Prop :=
  Asked (source.read path) (.textAsked path) path 1 loader.policy.attempts

/-- How the loading of a file can go from a state of the source: what is given, the state of the
source afterwards, how often the size and the text were asked for, and what happened. -/
inductive LoadRun (loader : Loader) (source : Source σ) (path : String) (start : σ) :
    Except BoardError Results → σ → Nat → Nat → List Event → Prop
  /-- The size cannot be had. -/
  | sizeFailed {failure between again events} :
      loader.AsksSize source path start (.error failure) between again events →
      LoadRun loader source path start (.error (.unreadable path failure.message)) between
        (again + 1) 0 events
  /-- The file is too large, and its text is not asked for. -/
  | tooLarge {size between again events} :
      loader.AsksSize source path start (.ok size) between again events →
      loader.maxFileSize < size →
      LoadRun loader source path start (.error (.fileTooLarge path size loader.maxFileSize))
        between (again + 1) 0 events
  /-- The text cannot be had. -/
  | textFailed {size failure between finish again again' events events'} :
      loader.AsksSize source path start (.ok size) between again events →
      size ≤ loader.maxFileSize →
      loader.AsksText source path between (.error failure) finish again' events' →
      LoadRun loader source path start (.error (.unreadable path failure.message)) finish
        (again + 1) (again' + 1) (events ++ events')
  /-- The text holds no results. -/
  | unparsed {size text cause between finish again again' events events'} :
      loader.AsksSize source path start (.ok size) between again events →
      size ≤ loader.maxFileSize →
      loader.AsksText source path between (.ok text) finish again' events' →
      Results.ofText loader.limits text = .error cause →
      LoadRun loader source path start (.error (.load path cause)) finish
        (again + 1) (again' + 1) (events ++ events')
  /-- The results of the text are given as a whole. -/
  | parsed {size text results between finish again again' events events'} :
      loader.AsksSize source path start (.ok size) between again events →
      size ≤ loader.maxFileSize →
      loader.AsksText source path between (.ok text) finish again' events' →
      Results.ofText loader.limits text = .ok results →
      LoadRun loader source path start (.ok results) finish
        (again + 1) (again' + 1) (events ++ events')

/-- Every loading is one of these runs. -/
theorem exists_loadRun (loader : Loader) (source : Source σ) (path : String)
    (session : Session σ) :
    ∃ outcome finish sizeCalls readCalls events,
      LoadRun loader source path session.state outcome finish sizeCalls readCalls events ∧
      loader.load source path session =
        (outcome, ⟨finish, session.journal ++ events.toArray⟩) := by
  have hsizeAsk : source.askSize path = Session.ask (source.size path) (.sizeAsked path) := rfl
  have htextAsk : source.askText path = Session.ask (source.read path) (.textAsked path) := rfl
  unfold load readText
  rw [hsizeAsk, htextAsk]
  obtain ⟨given, between, again, events, hsize, hinsist⟩ :=
    loader.exists_asked_of_insist (source.size path) (.sizeAsked path) path session
  rw [hinsist]
  cases given with
  | error failure => exact ⟨_, _, _, _, _, .sizeFailed hsize, rfl⟩
  | ok size =>
      simp only [Except.mapError]
      by_cases hlarge : loader.maxFileSize < size
      · rw [if_pos hlarge]
        exact ⟨_, _, _, _, _, .tooLarge hsize hlarge, rfl⟩
      · rw [if_neg hlarge]
        have hsmall : size ≤ loader.maxFileSize := Nat.le_of_not_lt hlarge
        -- The text has a budget of its own.
        obtain ⟨given', finish, again', events', htext, hinsist'⟩ :=
          loader.exists_asked_of_insist (source.read path) (.textAsked path) path
            ⟨between, session.journal ++ events.toArray⟩
        have hjournal : session.journal ++ events.toArray ++ events'.toArray =
            session.journal ++ (events ++ events').toArray := by
          simp
        rw [hinsist', hjournal]
        cases given' with
        | error failure => exact ⟨_, _, _, _, _, .textFailed hsize hsmall htext, rfl⟩
        | ok text =>
            simp only [Except.mapError, parse]
            cases hresults : Results.ofText loader.limits text with
            | error cause => exact ⟨_, _, _, _, _, .unparsed hsize hsmall htext hresults, rfl⟩
            | ok results => exact ⟨_, _, _, _, _, .parsed hsize hsmall htext hresults, rfl⟩

end Loader

/-! ### Counting -/

/-- Is a size asked for? -/
def Event.asksSize : Event → Bool
  | .sizeAsked _ => true
  | _ => false

/-- Is a text asked for? -/
def Event.asksText : Event → Bool
  | .textAsked _ => true
  | _ => false

/-- The number in a warning of a retry. -/
def Event.attempt? : Event → Option Nat
  | .retrying _ attempt _ => some attempt
  | _ => none

theorem countP_rounds {p : Event → Bool} (hretrying : ∀ n why, p (.retrying path n why) = false)
    (given : Nat → Except Failure α) :
    (rounds asking path first given again).countP p = if p asking then again + 1 else 0 := by
  induction again generalizing first given with
  | zero => simp [rounds, List.countP_cons]
  | succ again ih =>
      rw [rounds_succ, List.countP_cons, List.countP_cons, ih, hretrying]
      split <;> simp

theorem attempts_rounds (hasking : asking.attempt? = none) (given : Nat → Except Failure α) :
    (rounds asking path first given again).filterMap Event.attempt? =
      List.range' first again := by
  induction again generalizing first given with
  | zero => simp [rounds, hasking]
  | succ again ih =>
      rw [rounds_succ, List.filterMap_cons_none hasking, List.range'_succ, ← ih]
      rfl

/-- The events are those of so many questions, within the attempts for each, and of a warning
with its number between each two questions of a kind. -/
structure WithinBudget (attempts sizeCalls readCalls : Nat) (events : List Event) : Prop where
  sizes : events.countP Event.asksSize = sizeCalls
  texts : events.countP Event.asksText = readCalls
  pos : 0 < sizeCalls
  sizes_le : sizeCalls ≤ attempts
  texts_le : readCalls ≤ attempts
  warned : events.filterMap Event.attempt? =
    List.range' 1 (sizeCalls - 1) ++ List.range' 1 (readCalls - 1)

variable {loader : Loader} {source : Source σ} {between : σ} {again' : Nat}
  {events' : List Event}

theorem WithinBudget.size {answer : Except Failure Nat}
    (h : loader.AsksSize source path start answer finish again events) :
    WithinBudget loader.policy.attempts (again + 1) 0 events where
  sizes := by
    rw [h.events_eq, countP_rounds (fun _ _ => rfl)]
    rfl
  texts := by
    rw [h.events_eq, countP_rounds (fun _ _ => rfl)]
    rfl
  pos := Nat.succ_pos again
  sizes_le := h.lt
  texts_le := Nat.zero_le _
  warned := by
    rw [h.events_eq, attempts_rounds rfl]
    simp

theorem WithinBudget.text {size : Except Failure Nat} {text : Except Failure String}
    (h : loader.AsksSize source path start size between again events)
    (h' : loader.AsksText source path between text finish again' events') :
    WithinBudget loader.policy.attempts (again + 1) (again' + 1) (events ++ events') where
  sizes := by
    rw [List.countP_append, (WithinBudget.size h).sizes, h'.events_eq,
      countP_rounds (fun _ _ => rfl)]
    rfl
  texts := by
    rw [List.countP_append, (WithinBudget.size h).texts, h'.events_eq,
      countP_rounds (fun _ _ => rfl), Nat.zero_add]
    rfl
  pos := Nat.succ_pos again
  sizes_le := h.lt
  texts_le := h'.lt
  warned := by
    rw [List.filterMap_append, h.events_eq, h'.events_eq, attempts_rounds rfl,
      attempts_rounds rfl]
    rfl

theorem Loader.LoadRun.withinBudget {outcome : Except BoardError Results} {sizeCalls readCalls : Nat}
    (h : LoadRun loader source path start outcome finish sizeCalls readCalls events) :
    WithinBudget loader.policy.attempts sizeCalls readCalls events := by
  cases h with
  | sizeFailed hsize => exact .size hsize
  | tooLarge hsize hlarge => exact .size hsize
  | textFailed hsize hsmall htext => exact .text hsize htext
  | unparsed hsize hsmall htext hresults => exact .text hsize htext
  | parsed hsize hsmall htext hresults => exact .text hsize htext

/-- **Loading keeps to the policy, whatever the source answers.** The size is asked for up to the
first answer that is no transient failure, and never more often than the policy has it; then, if
the size was given and is not too large, the text by the same rule and with a new budget. What
is given is the failure that was met last, or that the file is too large, or what its text
holds. The journal has the questions in this order with a warning between each two of a kind,
numbered from one, and nothing else. -/
theorem Loader.load_keeps_policy (loader : Loader) (source : Source σ) (path : String)
    (session : Session σ) :
    ∃ outcome after sizeCalls readCalls events,
      loader.load source path session = (outcome, after) ∧
      LoadRun loader source path session.state outcome after.state sizeCalls readCalls events ∧
      after.journal = session.journal ++ events.toArray ∧
      after.sizeCalls = session.sizeCalls + sizeCalls ∧
      after.readCalls = session.readCalls + readCalls ∧
      WithinBudget (max 1 loader.policy.maxAttempts) sizeCalls readCalls events := by
  obtain ⟨outcome, finish, sizeCalls, readCalls, events, hrun, hload⟩ :=
    loader.exists_loadRun source path session
  have hbudget := hrun.withinBudget
  refine ⟨outcome, _, sizeCalls, readCalls, events, hload, hrun, rfl, ?_, ?_, hbudget⟩
  · rw [← hbudget.sizes]
    simp only [Session.sizeCalls, Array.countP_append, List.countP_toArray]
    rfl
  · rw [← hbudget.texts]
    simp only [Session.readCalls, Array.countP_append, List.countP_toArray]
    rfl

end BenchBoard
