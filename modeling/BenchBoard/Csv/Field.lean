import BenchBoard.Text.Blank
/-!
# BenchBoard.Csv.Field

**One field at the front of a line.** A field is either *quoted*, and then its content
stands between two quote characters of one kind, or *bare*, and then it is everything up
to the next comma. Blanks around either form do not belong to the field; blanks between
quotes do.

Design points:

* Both quote characters `"` and `'` open a field; the other one is ordinary inside it.
* Inside quotes a backslash and the character after it are read as one pair. A pair of a
  backslash and the *active* quote stands for that quote; every other pair stands for
  both of its characters, so a backslash is not lost in front of a letter.
* A bare field holds no quote character and no backslash: such a text has to be quoted.
* A reader returns the field and the rest of the line. A failure keeps the rest of the
  line at which it was noticed (`Stop`), so no position is threaded through the readers;
  the column is computed once, at the end, from the length of that rest.
-/

namespace BenchBoard.Csv

open BenchBoard.Text

/-- What can be wrong with a line. -/
inductive Fault
  /-- A field opens with this quote character and the line ends inside it. -/
  | unclosedQuote (quote : Char)
  /-- This quote character stands inside a bare field. -/
  | quoteInBareField (quote : Char)
  /-- A backslash stands inside a bare field. -/
  | backslashInBareField
  /-- This character follows a quoted field, where only a comma may. -/
  | commaExpected (found : Char)
  deriving DecidableEq, Repr

def Fault.message : Fault → String
  | unclosedQuote q => s!"unclosed quote ({q}) at end of line"
  | quoteInBareField q => s!"quote character '{q}' found in unquoted field"
  | backslashInBareField => "backslash found in unquoted field"
  | commaExpected c => s!"expected comma or end of line, got '{c}'"

/-- A fault together with the rest of the line where it was noticed. -/
structure Stop where
  /-- The line from the offending character on. -/
  rest : List Char
  /-- What is wrong there. -/
  fault : Fault
  deriving DecidableEq, Repr

/-- Does the character open and close quoted fields? -/
def isQuote (c : Char) : Bool :=
  c == '"' || c == '\''

/-- May the character stand in a bare field? -/
def isBare (c : Char) : Bool :=
  !(c == ',' || isQuote c || c == '\\')

/-! ### Quoted fields -/

/-- The content of a field that was opened by `quote`, and the line after its closing
quote; `none` when the line ends first. A backslash that is the last character of the
line has nothing to pair with and is an ordinary character. -/
def quotedBody (quote : Char) : List Char → Option (List Char × List Char)
  | [] => none
  | '\\' :: c :: cs =>
      (quotedBody quote cs).map fun (text, rest) =>
        (if c = quote then (c :: text, rest) else ('\\' :: c :: text, rest))
  | c :: cs =>
      if c = quote then some ([], cs)
      else (quotedBody quote cs).map fun (text, rest) => (c :: text, rest)

/-- What follows a quoted field is shorter than what its content was read from. -/
theorem length_rest_of_quotedBody {quote : Char} {cs text rest : List Char}
    (h : quotedBody quote cs = some (text, rest)) : rest.length < cs.length := by
  fun_induction quotedBody quote cs generalizing text rest with
  | case1 => simp at h
  | case2 c cs ih =>
      obtain ⟨⟨t, r⟩, hr, heq⟩ := Option.map_eq_some_iff.1 h
      have hlt := ih hr
      have : r = rest := by
        simp only at heq
        split at heq <;> exact (Prod.mk.inj heq).2
      subst this
      simp only [List.length_cons]; omega
  | case3 cs _ =>
      simp only [Option.some.injEq, Prod.mk.injEq] at h
      simp [h.2]
  | case4 c cs _ _ ih =>
      obtain ⟨⟨t, r⟩, hr, heq⟩ := Option.map_eq_some_iff.1 h
      have hlt := ih hr
      have : r = rest := (Prod.mk.inj heq).2
      subst this
      simp only [List.length_cons]; omega

/-! ### Bare fields -/

/-- A bare field, trimmed at its end, and the line from the comma after it on. -/
def bareField (cs : List Char) : Except Stop (List Char × List Char) :=
  let text := dropBlankEnd (cs.takeWhile isBare)
  match cs.dropWhile isBare with
  | [] => .ok (text, [])
  | c :: rest =>
      if c = ',' then .ok (text, c :: rest)
      else if isQuote c then .error ⟨c :: rest, .quoteInBareField c⟩
      else .error ⟨c :: rest, .backslashInBareField⟩

/-! ### Either form -/

/-- The field at the front of a line, and the line from the first character after it that
is not blank. -/
def field (cs : List Char) : Except Stop (List Char × List Char) :=
  match dropBlank cs with
  | [] => .ok ([], [])
  | c :: body =>
      if isQuote c then
        match quotedBody c body with
        | none => .error ⟨c :: body, .unclosedQuote c⟩
        | some (text, rest) => .ok (text, dropBlank rest)
      else bareField (c :: body)

/-- Reading a bare field never lengthens the line. -/
theorem length_rest_of_bareField {cs text rest : List Char}
    (h : bareField cs = .ok (text, rest)) : rest.length ≤ cs.length := by
  have hle : (cs.dropWhile isBare).length ≤ cs.length :=
    (List.dropWhile_sublist isBare).length_le
  unfold bareField at h
  split at h
  · simp only [Except.ok.injEq, Prod.mk.injEq] at h
    simp [← h.2]
  · rename_i c r heq
    split at h
    · simp only [Except.ok.injEq, Prod.mk.injEq] at h
      rw [← h.2, ← heq]; exact hle
    · split at h <;> cases h

/-- Reading a field never lengthens the line. -/
theorem length_rest_of_field {cs text rest : List Char}
    (h : field cs = .ok (text, rest)) : rest.length ≤ cs.length := by
  have hle := length_dropBlank_le cs
  unfold field at h
  split at h
  · simp only [Except.ok.injEq, Prod.mk.injEq] at h
    simp [← h.2]
  · rename_i c body heq
    rw [heq] at hle
    split at h
    · split at h
      · cases h
      · rename_i t r hb
        have hr := length_rest_of_quotedBody hb
        have hd := length_dropBlank_le r
        simp only [Except.ok.injEq, Prod.mk.injEq] at h
        rw [← h.2]
        simp only [List.length_cons] at hle
        omega
    · exact Nat.le_trans (length_rest_of_bareField h) hle

end BenchBoard.Csv
