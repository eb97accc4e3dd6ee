import BenchBoard.Loader
/-!
# BenchBoard.Proofs.Loader.Steady

**Loading from a source that always answers alike.** The answers of a steady source depend
on the path only. Then so does what a loader makes of them, in whatever session it asks and
whatever was asked before: attempts that fail fail again, and the attempt that succeeds
succeeds again.
-/

namespace BenchBoard

variable {σ : Type} {source : Source σ}

/-- The answers about a path do not depend on what was asked before. -/
def Source.Steady (source : Source σ) : Prop :=
  ∀ path state state',
    (source.size path state).1 = (source.size path state').1 ∧
    (source.read path state).1 = (source.read path state').1

namespace Loader

variable {α : Type}

/-- Insisting on an answer that is always the same gives the same, in whatever session. -/
theorem persist_fst {ask : Session σ → Except Failure α × Session σ}
    (hask : ∀ session session', (ask session).1 = (ask session').1) (path : String)
    (retries attempt attempt' : Nat) (session session' : Session σ) :
    (persist ask path retries attempt session).1 =
      (persist ask path retries attempt' session').1 := by
  -- The number of the attempt only goes into the journal, and it differs after a retry.
  induction retries generalizing attempt attempt' session session' with
  | zero => exact hask session session'
  | succ retries ih =>
      have h := hask session session'
      unfold persist
      rcases hs : ask session with ⟨answer, after⟩
      rcases hs' : ask session' with ⟨answer', after'⟩
      rw [hs, hs'] at h
      obtain rfl : answer = answer' := h
      cases answer with
      | ok answer => rfl
      | error failure =>
          simp only
          split
          · exact ih _ _ _ _
          · rfl

theorem insist_fst (loader : Loader) {ask : Session σ → Except Failure α × Session σ}
    (hask : ∀ session session', (ask session).1 = (ask session').1) (path : String)
    (session session' : Session σ) :
    (loader.insist ask path session).1 = (loader.insist ask path session').1 := by
  have h := persist_fst hask path loader.policy.retries 1 1 session session'
  unfold insist
  rcases hs : persist ask path loader.policy.retries 1 session with ⟨answer, after⟩
  rcases hs' : persist ask path loader.policy.retries 1 session' with ⟨answer', after'⟩
  rw [hs, hs'] at h
  obtain rfl : answer = answer' := h
  cases answer <;> rfl

theorem readText_fst (loader : Loader) (steady : source.Steady) (path : String)
    (session session' : Session σ) :
    (loader.readText source path session).1 = (loader.readText source path session').1 := by
  have hask : ∀ s s', (source.askSize path s).1 = (source.askSize path s').1 :=
    fun s s' => (steady path s.state s'.state).1
  have hsize := loader.insist_fst hask path session session'
  unfold readText
  rcases hs : loader.insist (source.askSize path) path session with ⟨answer, after⟩
  rcases hs' : loader.insist (source.askSize path) path session' with ⟨answer', after'⟩
  rw [hs, hs'] at hsize
  obtain rfl : answer = answer' := hsize
  cases answer with
  | error e => rfl
  | ok size =>
      simp only
      split
      · rfl
      · exact loader.insist_fst (fun s s' => (steady path s.state s'.state).2) path after after'

/-- A steady source gives the same results of a file in every session. -/
theorem load_fst (loader : Loader) (steady : source.Steady) (path : String)
    (session session' : Session σ) :
    (loader.load source path session).1 = (loader.load source path session').1 := by
  have htext := loader.readText_fst steady path session session'
  unfold load
  rcases hs : loader.readText source path session with ⟨answer, after⟩
  rcases hs' : loader.readText source path session' with ⟨answer', after'⟩
  rw [hs, hs'] at htext
  obtain rfl : answer = answer' := htext
  cases answer <;> rfl

end Loader

end BenchBoard
