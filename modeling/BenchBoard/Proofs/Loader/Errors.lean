import BenchBoard.Loader
/-!
# BenchBoard.Proofs.Loader.Errors

**What can go wrong with a file.** A loader refuses a file for one of three causes, and each of its
errors names the file (`BoardError.OfFile`). None of them is an error of a request that makes no
sense (`BoardError.isRefusal`).
-/

namespace BenchBoard

/-- The file of this path cannot be read, is too large, or holds no series. -/
inductive BoardError.OfFile (path : String) : BoardError → Prop
  | load (cause : ResultError) : OfFile path (.load path cause)
  | unreadable (message : String) : OfFile path (.unreadable path message)
  | fileTooLarge (actual bound : Nat) : OfFile path (.fileTooLarge path actual bound)

/-- It is the request that makes no sense, whatever the files hold. -/
def BoardError.isRefusal : BoardError → Bool
  | unknownTopic _ | unknownCase _ _ _ | noTopicSelected => true
  | _ => false

theorem BoardError.OfFile.isRefusal {path : String} {e : BoardError} (h : e.OfFile path) :
    e.isRefusal = false := by
  cases h <;> rfl

namespace Loader

variable {σ α : Type} {loader : Loader} {source : Source σ} {path text : String}
  {session : Session σ} {e : BoardError}

theorem ofFile_of_insist {ask : Session σ → Except Failure α × Session σ}
    (h : (loader.insist ask path session).1 = .error e) : e.OfFile path := by
  unfold insist at h
  split at h
  · cases h
  · cases h
    exact .unreadable _

theorem ofFile_of_readText (h : (loader.readText source path session).1 = .error e) :
    e.OfFile path := by
  unfold readText at h
  split at h
  · rename_i hsize
    cases h
    exact ofFile_of_insist (congrArg Prod.fst hsize)
  · split at h
    · cases h
      exact .fileTooLarge _ _
    · exact ofFile_of_insist h

theorem ofFile_of_parse (h : loader.parse path text = .error e) : e.OfFile path := by
  unfold parse at h
  cases hresults : Results.ofText loader.limits text with
  | error cause =>
      rw [hresults] at h
      cases h
      exact .load cause
  | ok results =>
      rw [hresults] at h
      cases h

/-- Every error of loading a file is about that file. -/
theorem ofFile_of_load (h : (loader.load source path session).1 = .error e) :
    e.OfFile path := by
  unfold load at h
  split at h
  · rename_i htext
    cases h
    exact ofFile_of_readText (congrArg Prod.fst htext)
  · exact ofFile_of_parse h

end Loader

end BenchBoard
