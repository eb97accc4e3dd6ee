import BenchBoard.Proofs.Results.Errors
/-!
# BenchBoard.Proofs.Results.CutOff

**Limits only cut off.** Two runs of the reader over one text under different limits go side by
side: every step gives the same under both, or the tighter limits end it there (`CutOff`). No
limit can hide another fault, bring one forward or change what is read, so a result that is
not a limit's own error does not depend on the limits at all.

The relation is kept by each reader of the pipeline, one lemma for each; the loops over the
lines are inductions whose step is the lemma for one line. What a table has to be for the
limits to let it pass is read off `parse_eq_ok_iff_describes`.
-/

namespace BenchBoard

open BenchBoard.Text

namespace Limits

variable {limits raised : Limits} {quantity : Quantity} {actual : Nat}

/-- Every bound is kept, raised or taken away. -/
def RaisedTo (limits raised : Limits) : Prop :=
  ∀ quantity, ∀ bound ∈ raised.bound quantity, ∃ own ∈ limits.bound quantity, own ≤ bound

theorem RaisedTo.admits (h : limits.RaisedTo raised) (hadmits : limits.Admits quantity actual) :
    raised.Admits quantity actual := by
  intro bound hbound
  obtain ⟨own, hown, hle⟩ := h quantity bound hbound
  have hactual : actual ≤ own := hadmits own hown
  omega

/-- Without limits every quantity is admitted. -/
theorem admits_unlimited (quantity : Quantity) (actual : Nat) :
    unlimited.Admits quantity actual :=
  check_eq_ok_iff_admits.1 (check_unlimited quantity actual)

theorem raisedTo_unlimited (limits : Limits) : limits.RaisedTo unlimited := by
  intro quantity bound hbound
  cases quantity <;> cases hbound

end Limits

/-! ### Runs side by side -/

/-- The second run gives what the first one gives, unless a limit has ended the first one. -/
inductive CutOff {α : Type} : Except ResultError α → Except ResultError α → Prop
  | same (x) : CutOff x x
  | ended (e) (hlimit : e.exceeded? ≠ none) (y) : CutOff (.error e) y

namespace CutOff

variable {α β : Type} {x y : Except ResultError α} {f g : α → Except ResultError β}

theorem bind (h : CutOff x y) (hnext : ∀ a, CutOff (f a) (g a)) : CutOff (x >>= f) (y >>= g) := by
  cases h with
  | same =>
      cases x with
      | error e => exact .same _
      | ok a => exact hnext a
  | ended e hlimit => exact .ended e hlimit _

/-- Whatever is not the error of a limit is what the second run gives too. -/
theorem eq_of_not_limit (h : CutOff x y) (hx : ∀ e, x = .error e → e.exceeded? = none) :
    y = x := by
  cases h with
  | same => rfl
  | ended e hlimit => exact absurd (hx e rfl) hlimit

end CutOff

/-- A check passes under both limits, or the tighter ones end the run. -/
theorem Limits.RaisedTo.cutOff_check {limits raised : Limits} (h : limits.RaisedTo raised)
    (quantity : Quantity) (actual : Nat) :
    CutOff (limits.check quantity actual) (raised.check quantity actual) := by
  cases hcheck : limits.check quantity actual with
  | ok done =>
      have hadmits : limits.Admits quantity actual := check_eq_ok_iff_admits.1 hcheck
      have hraised : raised.check quantity actual = .ok done :=
        check_eq_ok_iff_admits.2 (h.admits hadmits)
      rw [hraised]
      exact .same _
  | error e =>
      obtain ⟨bound, -, -, rfl⟩ := check_eq_error_iff.1 hcheck
      exact .ended _ (by simp [ResultError.exceeded?]) _

namespace ResultTable

variable {limits raised : Limits}

theorem cutOff_headerOfLine (h : limits.RaisedTo raised) (n : Nat) (raw : List Char) :
    CutOff (headerOfLine limits n raw) (headerOfLine raised n raw) := by
  unfold headerOfLine
  refine .bind (.same _) fun texts => .bind (.same _) fun header => ?_
  exact .bind (h.cutOff_check _ _) fun _ => .same _

theorem cutOff_readHeader (h : limits.RaisedTo raised) (n : Nat) (ls : List (List Char)) :
    CutOff (readHeader limits n ls) (readHeader raised n ls) := by
  induction ls generalizing n with
  | nil => exact .same _
  | cons raw rest ih =>
      unfold readHeader
      split
      · exact ih (n + 1)
      · refine .bind (h.cutOff_check _ _) fun _ => ?_
        split
        · exact .bind (cutOff_headerOfLine h n raw) fun _ => .same _
        · exact ih (n + 1)

theorem cutOff_recordOfLine (h : limits.RaisedTo raised) (header : Header) (count n : Nat)
    (raw : List Char) :
    CutOff (recordOfLine limits header count n raw) (recordOfLine raised header count n raw) := by
  unfold recordOfLine
  refine .bind (h.cutOff_check _ _) fun _ => ?_
  refine .bind (.same _) fun texts => .bind (.same _) fun record => ?_
  exact .bind (h.cutOff_check _ _) fun _ => .same _

theorem cutOff_readRecords (h : limits.RaisedTo raised) (header : Header) (count n : Nat)
    (ls : List (List Char)) :
    CutOff (readRecords limits header count n ls) (readRecords raised header count n ls) := by
  induction ls generalizing count n with
  | nil => exact .same _
  | cons raw rest ih =>
      unfold readRecords
      split
      · exact ih count (n + 1)
      · refine .bind (cutOff_recordOfLine h header (count + 1) n raw) fun record => ?_
        exact .bind (ih (count + 1) (n + 1)) fun _ => .same _

/-- A text is read alike under limits and under raised ones, as far as the limits let it. -/
theorem cutOff_parse (h : limits.RaisedTo raised) (text : String) :
    CutOff (parse limits text) (parse raised text) := by
  unfold parse ofLines
  refine .bind (h.cutOff_check _ _) fun _ => ?_
  refine .bind (cutOff_readHeader h 1 _) fun found => ?_
  exact .bind (cutOff_readRecords h found.1 0 _ found.2.2) fun _ => .same _

/-! ### What the limits let pass -/

theorem withinLimits_unlimited (text : String) (lines : List NumberedLine)
    (columns records : Nat) : WithinLimits .unlimited text lines columns records where
  text := Limits.admits_unlimited _ _
  lines := fun _ _ => Limits.admits_unlimited _ _
  columns := Limits.admits_unlimited _ _
  records := Limits.admits_unlimited _ _

theorem forall_numbered_iff {P : List Char → Prop} {n : Nat} {ls : List (List Char)} :
    (∀ line ∈ numbered n ls, P line.1) ↔ ∀ raw ∈ ls, allBlank raw = false → P raw := by
  induction ls generalizing n with
  | nil => simp
  | cons raw rest ih =>
      rw [List.forall_mem_cons]
      cases hb : allBlank raw with
      | true =>
          rw [numbered_cons_of_blank hb, ih]
          simp
      | false =>
          rw [numbered_cons_of_not_blank hb, List.forall_mem_cons, ih]
          simp

/-- **Limits only cut off.** A text has a table under limits if and only if it has the same table
without limits and the limits admit the bytes of the text, those of each line that is not
blank, the fields of the header and the number of records. An error that is not the error of a
limit is the error without limits; and whatever is not the error of a limit stays the same
when limits are raised. -/
theorem parse_eq_of_not_limit (limits : Limits) (text : String) :
    ∃ ls, Lined (withoutMark text.toList) ls ∧
      (∀ table, parse limits text = .ok table ↔
        parse .unlimited text = .ok table ∧
          limits.Admits .inputSize (byteLength text.toList) ∧
          (∀ raw ∈ ls, allBlank raw = false → limits.Admits .lineLength (byteLength raw)) ∧
          limits.Admits .columns table.header.fields.length ∧
          limits.Admits .records table.records.length) ∧
      (∀ e, parse limits text = .error e → e.exceeded? = none →
        parse .unlimited text = .error e) ∧
      ∀ raised, limits.RaisedTo raised →
        (∀ e, parse limits text = .error e → e.exceeded? = none) →
          parse raised text = parse limits text := by
  refine ⟨lines (withoutMark text.toList), lined_iff.2 rfl, ?_, ?_, ?_⟩
  · intro table
    rw [parse_eq_ok_iff_describes, parse_eq_ok_iff_describes]
    constructor
    · rintro ⟨hdescribes, hwithin⟩
      exact ⟨⟨hdescribes, withinLimits_unlimited _ _ _ _⟩, hwithin.text,
        forall_numbered_iff.1 hwithin.lines, hwithin.columns, hwithin.records⟩
    · rintro ⟨⟨hdescribes, -⟩, htext, hlines, hcolumns, hrecords⟩
      exact ⟨hdescribes, htext, forall_numbered_iff.2 hlines, hcolumns, hrecords⟩
  · intro e he hlimit
    have hcut := cutOff_parse (Limits.raisedTo_unlimited limits) text
    have hsame : parse .unlimited text = parse limits text := by
      refine hcut.eq_of_not_limit fun other hother => ?_
      rw [he] at hother
      cases hother
      exact hlimit
    rw [hsame, he]
  · intro raised hraised hnot
    exact (cutOff_parse hraised text).eq_of_not_limit hnot

end ResultTable

end BenchBoard
