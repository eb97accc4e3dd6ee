import BenchBoard.Loader
import BenchBoard.Proofs.Decimal.Digits
import BenchBoard.Proofs.Results.Errors
import BenchBoard.Proofs.Series.Aggregation
/-!
# BenchBoard.Proofs.Loader.FileSize

**When a file is too large.** Two bounds are set on one file: the loader's, which the environment
variable overrides, and that of the reader of texts, which it does not. A file whose reported
size is the size of its text passes only when it is within both (`load_of_holds`). So the
override can lower the bound below 64 MiB, but it cannot raise it above.
-/

namespace BenchBoard

open BenchBoard.Text

variable {σ α : Type} {source : Source σ} {path text : String} {loader : Loader}
  {session : Session σ}

/-- Whenever the source answers a question about the path, the file has this text and as many
bytes. It may also fail to answer. -/
structure Source.Holds (source : Source σ) (path text : String) : Prop where
  size : ∀ state bytes, (source.size path state).1 = .ok bytes → bytes = byteLength text.toList
  read : ∀ state answer, (source.read path state).1 = .ok answer → answer = text

/-! ### Getting the text -/

/-- An answer that was insisted on is one that was given. -/
theorem Loader.exists_of_persist_ok {ask : Session σ → Except Failure α × Session σ} {answer : α}
    {retries attempt : Nat} (h : (persist ask path retries attempt session).1 = .ok answer) :
    ∃ session, (ask session).1 = .ok answer := by
  induction retries generalizing attempt session with
  | zero => exact ⟨session, h⟩
  | succ retries ih =>
      unfold persist at h
      rcases hask : ask session with ⟨given, after⟩
      rw [hask] at h
      cases given with
      | ok found => exact ⟨session, by rw [hask]; exact h⟩
      | error failure =>
          simp only at h
          split at h
          · exact ih h
          · cases h

/-- Insisting gives an answer that was given, or ends in an error of reading. -/
theorem Loader.insist_cases (loader : Loader) (ask : Session σ → Except Failure α × Session σ)
    (path : String) (session : Session σ) :
    (∃ message, (loader.insist ask path session).1 = .error (.unreadable path message)) ∨
      ∃ answer session', (loader.insist ask path session).1 = .ok answer ∧
        (ask session').1 = .ok answer := by
  unfold insist
  rcases hpersist : persist ask path loader.policy.retries 1 session with ⟨given, after⟩
  cases given with
  | error failure => exact .inl ⟨failure.message, rfl⟩
  | ok answer =>
      obtain ⟨session', hgiven⟩ := exists_of_persist_ok (congrArg Prod.fst hpersist)
      exact .inr ⟨answer, session', rfl, hgiven⟩

/-- A file that can be read is refused when it is too large for the loader, and parsed
otherwise. -/
theorem Loader.load_of_holds (loader : Loader) (h : source.Holds path text)
    (session : Session σ) :
    (∃ message, (loader.load source path session).1 = .error (.unreadable path message)) ∨
      (loader.load source path session).1 =
        if loader.maxFileSize < byteLength text.toList then
          .error (.fileTooLarge path (byteLength text.toList) loader.maxFileSize)
        else loader.parse path text := by
  unfold load readText
  have hsizes := loader.insist_cases (source.askSize path) path session
  rcases hsize : loader.insist (source.askSize path) path session with ⟨size, after⟩
  rw [hsize] at hsizes
  rcases hsizes with ⟨message, rfl⟩ | ⟨bytes, asked, rfl, hasked⟩
  · exact .inl ⟨message, rfl⟩
  obtain rfl : bytes = byteLength text.toList := h.size asked.state bytes hasked
  simp only
  by_cases hlarge : loader.maxFileSize < byteLength text.toList
  · right
    rw [if_pos hlarge, if_pos hlarge]
  · rw [if_neg hlarge, if_neg hlarge]
    have htexts := loader.insist_cases (source.askText path) path after
    rcases htext : loader.insist (source.askText path) path after with ⟨found, done⟩
    rw [htext] at htexts
    rcases htexts with ⟨message, rfl⟩ | ⟨answer, asked', rfl, hasked'⟩
    · exact .inl ⟨message, rfl⟩
    · obtain rfl : answer = text := h.read asked'.state answer hasked'
      exact .inr rfl

/-! ### Parsing the text -/

/-- What is wrong with the records of a table is never a limit. -/
theorem Series.exceeded?_of_aggregate {table : ResultTable} {e : ResultError}
    (h : aggregate table = .error e) : e.exceeded? = none := by
  unfold aggregate at h
  rw [foldlM_step] at h
  cases hdissent : dissent? (Sample.ofRecords table.records) with
  | none =>
      rw [hdissent] at h
      cases h
  | some found =>
      rw [hdissent] at h
      cases h
      rfl

/-- The results of a text are refused for its size exactly when its table is. -/
theorem Results.ofText_eq_inputSize_iff {limits : Limits} {bound actual : Nat} :
    ofText limits text = .error (.limitExceeded .inputSize bound actual) ↔
      limits.maxInputSize = some bound ∧ bound < actual ∧ actual = byteLength text.toList := by
  rw [← ResultTable.parse_eq_inputSize_iff]
  unfold ofText
  rw [bind_eq_error_iff]
  constructor
  · rintro (h | ⟨table, -, h⟩)
    · exact h
    · rcases bind_eq_error_iff.1 h with h | ⟨series, -, h⟩
      · exact absurd (Series.exceeded?_of_aggregate h) (by simp [ResultError.exceeded?])
      · cases h
  · exact .inl

/-- Only the text itself is wrong when it cannot be parsed. -/
theorem Loader.parse_eq_error_iff {e : BoardError} :
    loader.parse path text = .error e ↔
      ∃ cause, Results.ofText loader.limits text = .error cause ∧ e = .load path cause := by
  unfold parse
  cases Results.ofText loader.limits text with
  | ok results => simp [Except.mapError]
  | error cause => simp [Except.mapError, eq_comm]

/-! ### The override -/

/-- A variable that holds a number sets the greatest size of a file, and nothing else. -/
theorem Config.ofEnvironment_toString {n : Nat} (h : n < UInt64.size) :
    ofEnvironment (some (toString n)) = { maxFileSize := n } := by
  have htrim : trim (toString n) = toString n :=
    Decimal.trim_of_isPlain fun _ hc => Decimal.isPlain_of_mem_toString hc
  have hn : maxFileSizeFrom (some (toString n)) = n := by
    rw [maxFileSizeFrom, Option.map_some, htrim, Option.bind_some, Decimal.readCount?_toString h,
      Option.getD_some]
  rw [ofEnvironment, hn]

/-- Loading failed because of the size of the whole file. -/
def FailsForSize (path : String) (outcome : Except BoardError Results) : Prop :=
  ∃ actual bound, outcome = .error (.fileTooLarge path actual bound) ∨
    outcome = .error (.load path (.limitExceeded .inputSize bound actual))

/-- **The override alone does not decide.** Let the variable hold any number, and let a source
report of a file the size of its text. If the file can be read, then it is refused for its size
if and only if it is greater than the override or greater than 64 MiB; in the first case by the
loader, otherwise by the reader of texts. So the override decides alone exactly about the files
that are not greater than 64 MiB or are greater than the override. -/
theorem Loader.failsForSize_iff {n : Nat} (hn : n < UInt64.size) (h : source.Holds path text)
    (session : Session σ)
    (hreadable : ∀ message,
      ((ofConfig (.ofEnvironment (some (toString n)))).load source path session).1 ≠
        .error (.unreadable path message)) :
    let outcome := ((ofConfig (.ofEnvironment (some (toString n)))).load source path session).1
    let size := byteLength text.toList
    let greatest := 64 * 1024 * 1024
    (FailsForSize path outcome ↔ n < size ∨ greatest < size) ∧
      (n < size → outcome = .error (.fileTooLarge path size n)) ∧
      (size ≤ n → greatest < size →
        outcome = .error (.load path (.limitExceeded .inputSize greatest size))) ∧
      ((FailsForSize path outcome ↔ n < size) ↔ size ≤ greatest ∨ n < size) := by
  intro outcome size greatest
  have houtcome : outcome = if n < size then .error (.fileTooLarge path size n)
      else (ofConfig { maxFileSize := n }).parse path text := by
    rw [Config.ofEnvironment_toString hn] at hreadable
    show ((ofConfig (.ofEnvironment (some (toString n)))).load source path session).1 = _
    rw [Config.ofEnvironment_toString hn]
    rcases load_of_holds (ofConfig { maxFileSize := n }) h session with ⟨message, hfailed⟩ | hload
    · exact absurd hfailed (hreadable message)
    · exact hload
  have hloader : n < size → outcome = .error (.fileTooLarge path size n) := by
    intro hlarge
    rw [houtcome, if_pos hlarge]
  have hreader : size ≤ n → greatest < size →
      outcome = .error (.load path (.limitExceeded .inputSize greatest size)) := by
    intro hsmall hlarge
    rw [houtcome, if_neg (by omega)]
    exact parse_eq_error_iff.2
      ⟨_, Results.ofText_eq_inputSize_iff.2 ⟨rfl, hlarge, rfl⟩, rfl⟩
  have hfails : FailsForSize path outcome ↔ n < size ∨ greatest < size := by
    constructor
    · rintro ⟨actual, bound, hfailed⟩
      by_cases hlarge : n < size
      · exact .inl hlarge
      · -- The loader lets the file pass, so the text is to blame.
        rw [houtcome, if_neg hlarge, parse_eq_error_iff, parse_eq_error_iff] at hfailed
        rcases hfailed with ⟨cause, -, hcause⟩ | ⟨cause, hcause, heq⟩
        · cases hcause
        · cases heq
          obtain ⟨hbound, hlt, rfl⟩ := Results.ofText_eq_inputSize_iff.1 hcause
          cases hbound
          exact .inr hlt
    · intro hlarge
      by_cases hloaded : n < size
      · exact ⟨size, n, .inl (hloader hloaded)⟩
      · exact ⟨size, greatest, .inr (hreader (by omega) (hlarge.resolve_left hloaded))⟩
  exact ⟨hfails, hloader, hreader, by rw [hfails]; omega⟩

/-! ### One text for every path -/

/-- The source that always answers with this text and its size. -/
def Source.ofText (text : String) : Source Unit where
  size _ state := (.ok (byteLength text.toList), state)
  read _ state := (.ok text, state)

theorem Source.holds_ofText (text path : String) : (ofText text).Holds path text where
  size := by
    intro state bytes h
    cases h
    rfl
  read := by
    intro state answer h
    cases h
    rfl

/-- What is answered at once is not asked for again. -/
theorem Loader.insist_of_ok {ask : Session σ → Except Failure α × Session σ} {answer : α}
    {after : Session σ} (h : ask session = (.ok answer, after)) (loader : Loader) (path : String) :
    loader.insist ask path session = (.ok answer, after) := by
  have hpersist : ∀ retries, persist ask path retries 1 session = (.ok answer, after) := by
    intro retries
    cases retries with
    | zero => exact h
    | succ retries => rw [persist, h]
  rw [insist, hpersist]

/-- A source that always answers can be read. -/
theorem Loader.load_ofText (loader : Loader) (text path : String) (session : Session Unit) :
    (loader.load (.ofText text) path session).1 =
      if loader.maxFileSize < byteLength text.toList then
        .error (.fileTooLarge path (byteLength text.toList) loader.maxFileSize)
      else loader.parse path text := by
  have hsize : ∀ session : Session Unit, (Source.ofText text).askSize path session =
      (.ok (byteLength text.toList), session.note (.sizeAsked path)) := fun _ => rfl
  have htext : ∀ session : Session Unit, (Source.ofText text).askText path session =
      (.ok text, session.note (.textAsked path)) := fun _ => rfl
  rw [load, readText, insist_of_ok (hsize session)]
  by_cases hlarge : loader.maxFileSize < byteLength text.toList
  · simp only [if_pos hlarge]
  · simp only [if_neg hlarge, insist_of_ok (htext _)]

/-- A file of eight bytes is refused for its size when the override is three. -/
theorem Loader.failsForSize_iff_of_three :
    FailsForSize "short.csv" ((ofConfig (.ofEnvironment (some (toString 3)))).load
        (.ofText "name\nA/1") "short.csv" ⟨(), #[]⟩).1 ∧
      ((ofConfig (.ofEnvironment (some (toString 3)))).load
        (.ofText "name\nA/1") "short.csv" ⟨(), #[]⟩).1 =
          .error (.fileTooLarge "short.csv" 8 3) := by
  have hsize : byteLength "name\nA/1".toList = 8 := by decide
  have hload := load_ofText (ofConfig (.ofEnvironment (some (toString 3)))) "name\nA/1"
    "short.csv" ⟨(), #[]⟩
  rw [Config.ofEnvironment_toString (by decide), if_pos (by rw [hsize]; decide)] at hload
  have hexact := failsForSize_iff (n := 3) (by decide)
    (Source.holds_ofText "name\nA/1" "short.csv") ⟨(), #[]⟩ (by
      intro message
      rw [Config.ofEnvironment_toString (by decide), hload]
      simp)
  simp only [hsize] at hexact
  exact ⟨hexact.1.2 (by decide), hexact.2.1 (by decide)⟩

theorem byteLength_replicate (k : Nat) (c : Char) :
    byteLength (List.replicate k c) = k * c.utf8Size := by
  induction k with
  | zero => simp
  | succ k ih =>
      rw [List.replicate_succ, byteLength_cons, ih, Nat.succ_mul, Nat.add_comm]

/-- A file with one byte more than 64 MiB is refused for its size although the override is twice
as much: it is within the only limit that can be raised. -/
theorem Loader.not_failsForSize_iff_override :
    let text := String.ofList (List.replicate 67108865 'a')
    let outcome := ((ofConfig (.ofEnvironment (some (toString 134217728)))).load (.ofText text)
      "long.csv" ⟨(), #[]⟩).1
    (Source.ofText text).Holds "long.csv" text ∧ byteLength text.toList = 67108865 ∧
      outcome = .error (.load "long.csv" (.limitExceeded .inputSize 67108864 67108865)) ∧
      ¬ (FailsForSize "long.csv" outcome ↔ 134217728 < byteLength text.toList) := by
  intro text outcome
  have hsize : byteLength text.toList = 67108865 := by
    rw [String.toList_ofList, byteLength_replicate]
    rfl
  have houtcome :
      outcome = .error (.load "long.csv" (.limitExceeded .inputSize 67108864 67108865)) := by
    show ((ofConfig (.ofEnvironment (some (toString 134217728)))).load (.ofText text)
      "long.csv" ⟨(), #[]⟩).1 = _
    rw [Config.ofEnvironment_toString (by decide), load_ofText, if_neg (by rw [hsize]; decide),
      parse_eq_error_iff]
    exact ⟨_, Results.ofText_eq_inputSize_iff.2 ⟨rfl, by decide, hsize.symm⟩, rfl⟩
  refine ⟨Source.holds_ofText text "long.csv", hsize, houtcome, ?_⟩
  intro hiff
  have hlarge := hiff.1 ⟨_, _, .inr houtcome⟩
  omega

end BenchBoard
