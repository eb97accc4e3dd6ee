import BenchBoard.Proofs.Catalogue.Selecting
/-!
# BenchBoard.Proofs.Catalogue.Runs

**Requests and runs.** A registry is asked to select topics and cases, one request after the
other. `Reachable` leaves open which source answers a request and in which state, so it also
covers sources that change their mind and files that change between two requests. `run` and
`trace` ask one source all the time; they serve every machine that answers requests.
-/

namespace BenchBoard

/-- What can be asked for: a topic or none, a case of the selected topic or none. -/
inductive Request
  | topic (name : Option String)
  | case (index : Option Nat)
  deriving DecidableEq, Repr

namespace Registry

variable {σ : Type}

/-- The answer to a request. Selecting a topic asks the source nothing. -/
def answer (registry : Registry) (source : Source σ) (request : Request) (session : Session σ) :
    Except BoardError Change × Registry × Session σ :=
  match request with
  | .topic name => ((registry.selectTopic name).1, (registry.selectTopic name).2, session)
  | .case index => registry.selectCase source index session

/-- The registries that are built from a description and those that answer requests, whatever
the sources say. -/
inductive Reachable : Registry → Prop
  | built {description : Description} {root : String} {metrics : List Metric} {loader : Loader}
      {registry : Registry} :
      ofDescription description root metrics loader = .ok registry → Reachable registry
  | asked {σ : Type} {registry : Registry} (source : Source σ) (request : Request)
      (session : Session σ) :
      Reachable registry → Reachable (registry.answer source request session).2.1

end Registry

/-! ### Runs of a machine that answers requests -/

section Machine

variable {σ S T O : Type}
  (answer : S → Request → Session σ → Except BoardError Change × S × Session σ)
  (answer' : T → Request → Session σ → Except BoardError Change × T × Session σ)
  (observe : S → O) (observe' : T → O)

/-- The state after all requests. -/
def run : List Request → S → Session σ → S
  | [], state, _ => state
  | request :: requests, state, session =>
      let (_, state, session) := answer state request session
      run requests state session

/-- The answer to each request and what can be seen after it. -/
def trace : List Request → S → Session σ → List (Except BoardError Change × O)
  | [], _, _ => []
  | request :: requests, state, session =>
      let (outcome, state, session) := answer state request session
      (outcome, observe state) :: trace requests state session

/-- Related states give the same answers and stay related, whatever the sessions are. -/
def Simulates (R : S → T → Prop) : Prop :=
  ∀ state state' request session session', R state state' →
    (answer state request session).1 = (answer' state' request session').1 ∧
    R (answer state request session).2.1 (answer' state' request session').2.1

variable {answer answer' observe observe'} {R : S → T → Prop} {state : S} {state' : T}

theorem Simulates.run (h : Simulates answer answer' R) (hR : R state state')
    (requests : List Request) (session session' : Session σ) :
    R (run answer requests state session) (run answer' requests state' session') := by
  induction requests generalizing state state' session session' with
  | nil => exact hR
  | cons request requests ih => exact ih (h _ _ request session session' hR).2 _ _

/-- What can be seen is the same all the way when it is the same of related states. -/
theorem Simulates.trace (h : Simulates answer answer' R)
    (hobserve : ∀ state state', R state state' → observe state = observe' state')
    (hR : R state state') (requests : List Request) (session session' : Session σ) :
    trace answer observe requests state session =
      trace answer' observe' requests state' session' := by
  induction requests generalizing state state' session session' with
  | nil => rfl
  | cons request requests ih =>
      obtain ⟨houtcome, hnext⟩ := h _ _ request session session' hR
      unfold BenchBoard.trace
      simp only
      rw [houtcome, hobserve _ _ hnext, ih hnext]

end Machine

namespace Registry

variable {σ : Type}

/-- The registry after all requests. -/
def runFrom (registry : Registry) (source : Source σ) (requests : List Request)
    (session : Session σ) : Registry :=
  run (fun registry => registry.answer source) requests registry session

/-- A registry that is built from a file is built from the description in it. -/
theorem Reachable.ofFile {config : Config} {path : String} {session : Session σ}
    {registry : Registry} (source : Source σ)
    (h : (ofFile config source path session).1 = .ok registry) : Reachable registry := by
  simp only [Registry.ofFile] at h
  split at h
  · cases h
  · split at h
    · cases h
    · exact .built h

/-- A run leads from reachable registries to reachable ones. -/
theorem Reachable.runFrom {registry : Registry} (h : Reachable registry) (source : Source σ)
    (requests : List Request) (session : Session σ) :
    Reachable (registry.runFrom source requests session) := by
  unfold Registry.runFrom
  induction requests generalizing registry session with
  | nil => exact h
  | cons request requests ih => exact ih (.asked source request session h) _

end Registry

end BenchBoard
