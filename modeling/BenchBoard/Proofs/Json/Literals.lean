import BenchBoard.Json.Number
import BenchBoard.Json.Parser
import BenchBoard.Json.Printer
import BenchBoard.Proofs.Decimal.Digits
import Mathlib.Data.List.Basic
import Mathlib.Data.List.TakeWhile
/-!
# BenchBoard.Proofs.Json.Literals

**Strings and numbers are read back.** A text of any characters is read back from its literal
(`parseString_escaped`), and a number from its own (`numberLiteral_append`).

A string literal ends with its quote. The literal of a number has no end of its own: where it
stops is decided by what stands behind it. Every reader of a part of a number is *stable*, that
is, it reads the same part whatever follows, unless what follows continues a number.
-/

namespace BenchBoard.Json

open BenchBoard.Decimal

variable {c : Char} {cs rest literal : List Char} {n : Nat}

/-! ### Strings -/

theorem hexDigit?_hexDigit (h : n < 16) : hexDigit? (hexDigit n) = some n := by
  revert n
  decide

/-- The escape of a control character spells its code. -/
theorem hexUnit?_hexDigits (h : n < 0x20) :
    hexUnit? '0' '0' (hexDigit (n / 16)) (hexDigit (n % 16)) = some n := by
  have hhigh : hexDigit? (hexDigit (n / 16)) = some (n / 16) := hexDigit?_hexDigit (by omega)
  have hlow : hexDigit? (hexDigit (n % 16)) = some (n % 16) := hexDigit?_hexDigit (by omega)
  have hzero : hexDigit? '0' = some 0 := by decide
  simp only [hexUnit?, hhigh, hlow, hzero, Option.bind_eq_bind, Option.bind_some, Option.pure_def,
    Option.some.injEq]
  omega

/-- Each character is one piece, however it is written. -/
theorem pieces_escapeChar (c : Char) (cs : List Char) :
    pieces (escapeChar c ++ cs) = (pieces cs).map fun (ps, rest) => (.char c :: ps, rest) := by
  unfold escapeChar
  split
  · subst_vars; simp [pieces, shortEscape?]
  split
  · subst_vars; simp [pieces, shortEscape?]
  split
  · subst_vars; simp [pieces, shortEscape?]
  split
  · subst_vars; simp [pieces, shortEscape?]
  split
  · subst_vars; simp [pieces, shortEscape?]
  split
  · subst_vars; simp [pieces, shortEscape?]
  split
  · subst_vars; simp [pieces, shortEscape?]
  split
  · -- A control character without a short name is written by its code.
    rename_i hcontrol
    have hunit : Piece.ofUnit c.toNat = .char c := by
      rw [Piece.ofUnit, if_neg (by omega), Char.ofNat_toNat]
    simp [pieces, hexUnit?_hexDigits hcontrol, hunit]
  · rename_i hquote hbackslash _ _ _ _ _ hcontrol
    rw [List.singleton_append, pieces.eq_def]
    simp [hquote, hbackslash, hcontrol]

theorem pieces_escaped (cs rest : List Char) :
    pieces (cs.flatMap escapeChar ++ '"' :: rest) = some (cs.map .char, rest) := by
  induction cs with
  | nil =>
      rw [pieces.eq_def]
      rfl
  | cons c cs ih => simp [pieces_escapeChar, ih]

theorem joinPieces_map_char (cs : List Char) : joinPieces (cs.map .char) = some cs := by
  induction cs with
  | nil => rfl
  | cons c cs ih => simp [joinPieces, ih]

/-- A text of any characters is read back from its literal. -/
theorem parseString_escaped (text : String) (rest : List Char) :
    parseString (text.toList.flatMap escapeChar ++ '"' :: rest) = some (some text, rest) := by
  simp [parseString, pieces_escaped, joinPieces_map_char]

/-! ### Numbers -/

/-- The text does not continue a number. -/
def EndsNumber (rest : List Char) : Prop :=
  ∀ c ∈ rest.head?, isDigit c = false ∧ c ≠ '.' ∧ c ≠ 'e' ∧ c ≠ 'E'

/-- What the reader reads does not depend on what follows. -/
def Stable (read : List Char → Option (List Char × List Char)) : Prop :=
  ∀ {cs part left rest}, EndsNumber rest → read cs = some (part, left) →
    read (cs ++ rest) = some (part, left ++ rest)

/-- A stable reader stays stable when something is made of what it read. -/
theorem Stable.map {read : List Char → Option (List Char × List Char)} (hread : Stable read)
    {g : List Char → List Char} {part left : List Char} (hrest : EndsNumber rest)
    (h : ((read cs).map fun p => (g p.1, p.2)) = some (part, left)) :
    ((read (cs ++ rest)).map fun p => (g p.1, p.2)) = some (part, left ++ rest) := by
  obtain ⟨⟨inner, left⟩, hinner, heq⟩ := Option.map_eq_some_iff.1 h
  cases heq
  rw [hread hrest hinner]
  rfl

theorem endsNumber_nil : EndsNumber [] := by
  simp [EndsNumber]

theorem endsNumber_cons_iff :
    EndsNumber (c :: cs) ↔ isDigit c = false ∧ c ≠ '.' ∧ c ≠ 'e' ∧ c ≠ 'E' := by
  simp [EndsNumber]

theorem takeWhile_isDigit (h : EndsNumber rest) : rest.takeWhile isDigit = [] := by
  cases rest with
  | nil => rfl
  | cons c rest => simp [(endsNumber_cons_iff.1 h).1]

theorem takeWhile_isDigit_append (h : EndsNumber rest) (cs : List Char) :
    (cs ++ rest).takeWhile isDigit = cs.takeWhile isDigit := by
  induction cs with
  | nil => simpa using takeWhile_isDigit h
  | cons c cs ih => simp [List.takeWhile_cons, ih]

theorem dropWhile_isDigit_append (h : EndsNumber rest) (cs : List Char) :
    (cs ++ rest).dropWhile isDigit = cs.dropWhile isDigit ++ rest := by
  induction cs with
  | nil =>
      cases rest with
      | nil => rfl
      | cons c rest => simp [(endsNumber_cons_iff.1 h).1]
  | cons c cs ih =>
      cases hc : isDigit c
      · simp [hc]
      · simp [hc, ih]

theorem stable_someDigits : Stable someDigits := by
  intro cs digits left rest hrest h
  simp only [someDigits, takeWhile_isDigit_append hrest, dropWhile_isDigit_append hrest] at h ⊢
  split at h
  · cases h
  · cases h
    rename_i hsome
    simp only [hsome]
    rfl

theorem wholePart_of_head?_ne (h : cs.head? ≠ some '0') : wholePart cs = someDigits cs := by
  rw [wholePart]
  rintro cs rfl
  exact h rfl

theorem fractionPart_of_head?_ne (h : cs.head? ≠ some '.') : fractionPart cs = some ([], cs) := by
  rw [fractionPart]
  rintro cs rfl
  exact h rfl

theorem numberLiteral_of_head?_ne (h : cs.head? ≠ some '-') :
    numberLiteral cs = magnitudeLiteral cs := by
  rw [numberLiteral]
  rintro cs rfl
  exact h rfl

theorem stable_wholePart : Stable wholePart := by
  intro cs whole left rest hrest h
  by_cases hzero : cs.head? = some '0'
  · obtain ⟨cs, rfl⟩ := List.head?_eq_some_iff.1 hzero
    cases h
    rfl
  · have hnext : rest.head? ≠ some '0' := fun hc => absurd (hrest '0' hc).1 (by decide)
    rw [wholePart_of_head?_ne hzero] at h
    rw [wholePart_of_head?_ne (Text.head?_append_ne hzero hnext)]
    exact stable_someDigits hrest h

theorem stable_fractionPart : Stable fractionPart := by
  intro cs fraction left rest hrest h
  by_cases hpoint : cs.head? = some '.'
  · obtain ⟨cs, rfl⟩ := List.head?_eq_some_iff.1 hpoint
    exact stable_someDigits.map (g := ('.' :: ·)) hrest h
  · have hnext : rest.head? ≠ some '.' := fun hc => (hrest '.' hc).2.1 rfl
    rw [fractionPart_of_head?_ne hpoint] at h
    cases h
    exact fractionPart_of_head?_ne (Text.head?_append_ne hpoint hnext)

theorem stable_powerPart : Stable powerPart := by
  intro cs power left rest hrest h
  cases cs with
  | nil =>
      cases h
      cases rest with
      | nil => rfl
      | cons c rest => simp [powerPart, (endsNumber_cons_iff.1 hrest).2.2]
  | cons c cs =>
      simp only [powerPart, List.cons_append] at h ⊢
      split at h
      · rename_i hmark
        cases cs with
        | nil => cases h
        | cons s cs =>
            simp only [hmark, if_true, List.cons_append] at h ⊢
            split at h
            · rename_i hsign
              rw [if_pos hsign]
              exact stable_someDigits.map (g := (c :: s :: ·)) hrest h
            · rename_i hsign
              rw [if_neg hsign]
              exact stable_someDigits.map (g := (c :: ·)) hrest h
      · rename_i hmark
        cases h
        simp [hmark]

/-- The parts of a magnitude follow one another, and a zero in front stands alone. -/
theorem magnitudeLiteral_eq_some_iff {left : List Char} :
    magnitudeLiteral cs = some (literal, left) ↔
      ∃ whole afterWhole fraction afterFraction power,
        wholePart cs = some (whole, afterWhole) ∧
        (whole = ['0'] → ∀ c ∈ afterWhole.head?, isDigit c = false) ∧
        fractionPart afterWhole = some (fraction, afterFraction) ∧
        powerPart afterFraction = some (power, left) ∧
        whole ++ fraction ++ power = literal := by
  simp only [magnitudeLiteral, Option.bind_eq_bind, Option.bind_eq_some_iff, Prod.exists]
  constructor
  · rintro ⟨whole, afterWhole, hwhole, h⟩
    split at h
    · rename_i c others
      split at h
      · cases h
      · rename_i hdigit
        simp only [Option.bind_eq_some_iff, Option.pure_def, Option.some.injEq, Prod.mk.injEq,
          Prod.exists] at h
        obtain ⟨fraction, afterFraction, hfraction, power, left, hpower, rfl, rfl⟩ := h
        exact ⟨_, _, fraction, afterFraction, power, hwhole, by simpa using hdigit, hfraction,
          hpower, rfl⟩
    · rename_i hother
      simp only [Option.bind_eq_some_iff, Option.pure_def, Option.some.injEq, Prod.mk.injEq,
        Prod.exists] at h
      obtain ⟨fraction, afterFraction, hfraction, power, left, hpower, rfl, rfl⟩ := h
      refine ⟨_, _, fraction, afterFraction, power, hwhole, ?_, hfraction, hpower, rfl⟩
      rintro rfl c hc
      cases afterWhole with
      | nil => cases hc
      | cons d others => exact absurd rfl (hother d others rfl)
  · rintro ⟨whole, afterWhole, fraction, afterFraction, power, hwhole, hzero, hfraction, hpower,
      rfl⟩
    refine ⟨whole, afterWhole, hwhole, ?_⟩
    split
    · rename_i c others
      simp [hzero rfl c rfl, hfraction, hpower]
    · simp [hfraction, hpower]

theorem stable_magnitudeLiteral : Stable magnitudeLiteral := by
  intro cs magnitude left rest hrest h
  rw [magnitudeLiteral_eq_some_iff] at h ⊢
  obtain ⟨whole, afterWhole, fraction, afterFraction, power, hwhole, hzero, hfraction, hpower,
    rfl⟩ := h
  refine ⟨whole, afterWhole ++ rest, fraction, afterFraction ++ rest, power,
    stable_wholePart hrest hwhole, ?_, stable_fractionPart hrest hfraction,
    stable_powerPart hrest hpower, rfl⟩
  intro halone c hc
  cases afterWhole with
  | nil => exact (hrest c hc).1
  | cons d others => exact hzero halone c hc

theorem stable_numberLiteral : Stable numberLiteral := by
  intro cs number left rest hrest h
  cases cs with
  | nil => cases h
  | cons c cs =>
      by_cases hc : c = '-'
      · subst hc
        exact stable_magnitudeLiteral.map (g := ('-' :: ·)) hrest h
      · have hfirst : ∀ cs, (c :: cs).head? ≠ some '-' := fun cs => by simpa using hc
        rw [numberLiteral_of_head?_ne (hfirst _)] at h
        rw [List.cons_append, numberLiteral_of_head?_ne (hfirst _)]
        exact stable_magnitudeLiteral hrest h

/-- A number by the grammar, and nothing else. -/
def IsNumber (literal : List Char) : Prop :=
  numberLiteral literal = some (literal, [])

/-- A number is read whole, whatever stands behind it. -/
theorem numberLiteral_append (h : IsNumber literal) (hrest : EndsNumber rest) :
    numberLiteral (literal ++ rest) = some (literal, rest) :=
  stable_numberLiteral hrest h

theorem wholePart_first {whole left : List Char} (h : wholePart literal = some (whole, left)) :
    ∃ c cs, literal = c :: cs ∧ isDigit c = true := by
  cases literal with
  | nil => simp [wholePart, someDigits] at h
  | cons c cs =>
      refine ⟨c, cs, rfl, ?_⟩
      by_cases hc : c = '0'
      · rw [hc]
        rfl
      · rw [wholePart_of_head?_ne (by simpa using hc)] at h
        cases hdigit : isDigit c with
        | true => rfl
        | false => simp [someDigits, hdigit] at h

/-- A number begins with its sign or a digit. -/
theorem IsNumber.exists_first (h : IsNumber literal) :
    ∃ c cs, literal = c :: cs ∧ (c = '-' ∨ isDigit c = true) := by
  unfold IsNumber at h
  by_cases hc : literal.head? = some '-'
  · obtain ⟨cs, rfl⟩ := List.head?_eq_some_iff.1 hc
    exact ⟨'-', cs, rfl, .inl rfl⟩
  · rw [numberLiteral_of_head?_ne hc] at h
    obtain ⟨whole, left, -, -, -, hwhole, -⟩ := magnitudeLiteral_eq_some_iff.1 h
    obtain ⟨c, cs, rfl, hdigit⟩ := wholePart_first hwhole
    exact ⟨c, cs, rfl, .inr hdigit⟩

/-! ### Natural numbers -/

/-- The digits of a number begin with no zero, but for the number zero. -/
theorem head?_toDigits (h : 0 < n) : (Nat.toDigits 10 n).head? ≠ some '0' := by
  induction n using Nat.strongRecOn with
  | _ n ih =>
      by_cases hsmall : n < 10
      · have hdigit : ∀ d < 10, 0 < d → Nat.digitChar d ≠ '0' := by decide
        simpa [Nat.toDigits_of_lt_base hsmall] using hdigit n hsmall h
      · rw [Nat.toDigits_of_base_le (by decide) (by omega),
          List.head?_append_of_ne_nil _ Nat.toDigits_ne_nil]
        exact ih (n / 10) (by omega) (by omega)

theorem wholePart_toDigits (n : Nat) :
    wholePart (Nat.toDigits 10 n) = some (Nat.toDigits 10 n, []) := by
  rcases Nat.eq_zero_or_pos n with rfl | hpos
  · rfl
  · have hdigits : ∀ c ∈ Nat.toDigits 10 n, isDigit c = true :=
      fun _ hc => isDigit_of_mem_digitsOf hc
    rw [wholePart_of_head?_ne (head?_toDigits hpos)]
    simp [someDigits, List.takeWhile_eq_self_iff.2 hdigits, List.dropWhile_eq_nil_iff.2 hdigits,
      Nat.toDigits_ne_nil]

/-- Digits that begin with no zero are a number. -/
theorem isNumber_toDigits (n : Nat) : IsNumber (Nat.toDigits 10 n) := by
  have hmagnitude : magnitudeLiteral (Nat.toDigits 10 n) = some (Nat.toDigits 10 n, []) :=
    magnitudeLiteral_eq_some_iff.2
      ⟨_, [], [], [], [], wholePart_toDigits n, by simp, rfl, rfl, by simp⟩
  have hsign : (Nat.toDigits 10 n).head? ≠ some '-' := by
    intro hminus
    exact absurd (isDigit_of_mem_digitsOf (List.mem_of_head? hminus)) (by decide)
  rw [IsNumber, numberLiteral_of_head?_ne hsign]
  exact hmagnitude

/-- A number below `2 ^ 64` is read back from its digits. -/
theorem countOfLiteral?_toDigits (h : n < UInt64.size) :
    countOfLiteral? (Nat.toDigits 10 n) = some n := by
  have hdigits : (Nat.toDigits 10 n).all isDigit = true :=
    List.all_eq_true.2 fun _ hc => isDigit_of_mem_digitsOf hc
  have hvalue : digitsValue 0 (Nat.toDigits 10 n) = n := digitsValue_digitsOf n
  simp [countOfLiteral?, hdigits, hvalue, h]

end BenchBoard.Json
