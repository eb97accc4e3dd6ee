import BenchBoard.Proofs.Comparison.Cells
import BenchBoard.Proofs.Comparison.Range
/-!
# BenchBoard.Proofs.Comparison.Speedups

**What a speedup is, cell by cell.** A value either is the text of a number that can be used
(`Spells`) or has one fault (`Faulty`), and a cell fails for a fault of the baseline, then of the
entry, then of the ratio (`CellFault`).

A baseline with a fault spoils its whole row. Any other baseline has the speedup one, whatever the
direction is, and spoils no cell (`Comparison.baseline_normalizes`). None of this depends on the
direction, so the two directions of a metric differ in the last step only
(`Comparison.compare_reciprocal`).
-/

namespace BenchBoard

open BenchBoard.Decimal BenchBoard.Text

/-! ### Operands -/

/-- The text of a value without the blanks around it, empty where there is none. -/
def bareText (value : Option String) : String :=
  trim (value.getD "")

/-- What is wrong with a value that is no operand. -/
inductive Faulty (value : Option String) : SpeedupError → Prop
  | missing (h : bareText value = "") : Faulty value .missingValue
  | notNumber (h : bareText value ≠ "") (hread : read? (bareText value) = none) :
      Faulty value (.invalidNumber (bareText value))
  /-- It is infinite or not a number. -/
  | notFinite {x : Float} (hread : read? (bareText value) = some x) (h : x.isFinite = false) :
      Faulty value (.invalidNumber (bareText value))
  /-- It is zero, or too small for a number other than zero. -/
  | zero {x : Float} (hread : read? (bareText value) = some x) (h : (x == 0.0) = true) :
      Faulty value .divisionByZero

/-- The value is the text of this number, which is finite and not zero. -/
structure Spells (value : Option String) (x : Float) : Prop where
  reads : read? (bareText value) = some x
  usable : IsUsable x

variable {value reference : Option String} {x b : Float} {e : SpeedupError}

theorem operand_of_read (h : read? (bareText value) = some x) :
    operand value =
      if !x.isFinite then .error (.invalidNumber (bareText value))
      else if x == 0.0 then .error .divisionByZero
      else .ok x := by
  have hsome : (bareText value).isEmpty = false := by
    rw [← Bool.not_eq_true, String.isEmpty_iff]
    intro hempty
    rw [hempty] at h
    cases h
  unfold operand
  rw [bareText] at h hsome
  simp only [hsome, h]
  rfl

theorem operand_of_read_eq_none (hsome : bareText value ≠ "") (h : read? (bareText value) = none) :
    operand value = .error (.invalidNumber (bareText value)) := by
  have hsome' : (bareText value).isEmpty = false := by
    rw [← Bool.not_eq_true, String.isEmpty_iff]
    exact hsome
  unfold operand
  rw [bareText] at h hsome'
  simp only [hsome', h]
  rfl

theorem operand_of_empty (h : bareText value = "") : operand value = .error .missingValue := by
  unfold operand
  rw [bareText] at h
  simp only [h]
  rfl

/-- A value either is the text of a number that can be used or has a fault. -/
theorem operand_cases (value : Option String) :
    (∃ x, Spells value x ∧ operand value = .ok x) ∨
      ∃ e, Faulty value e ∧ operand value = .error e := by
  by_cases hempty : bareText value = ""
  · exact .inr ⟨_, .missing hempty, operand_of_empty hempty⟩
  cases hread : read? (bareText value) with
  | none => exact .inr ⟨_, .notNumber hempty hread, operand_of_read_eq_none hempty hread⟩
  | some x =>
      have hoperand := operand_of_read hread
      cases hfinite : x.isFinite with
      | false => exact .inr ⟨_, .notFinite hread hfinite, by simpa [hfinite] using hoperand⟩
      | true =>
          cases hzero : x == 0.0 with
          | true => exact .inr ⟨_, .zero hread hzero, by simpa [hfinite, hzero] using hoperand⟩
          | false =>
              exact .inl ⟨x, ⟨hread, hfinite, hzero⟩, by simpa [hfinite, hzero] using hoperand⟩

theorem operand_eq_ok_iff : operand value = .ok x ↔ Spells value x := by
  constructor
  · intro h
    rcases operand_cases value with ⟨y, hspells, hoperand⟩ | ⟨e, -, hoperand⟩
    · rw [h] at hoperand
      cases hoperand
      exact hspells
    · rw [h] at hoperand
      cases hoperand
  · intro h
    rw [operand_of_read h.reads, h.usable.finite, h.usable.ne_zero]
    rfl

theorem operand_eq_error_iff : operand value = .error e ↔ Faulty value e := by
  constructor
  · intro h
    rcases operand_cases value with ⟨x, -, hoperand⟩ | ⟨e, hfaulty, hoperand⟩
    · rw [h] at hoperand
      cases hoperand
    · rw [h] at hoperand
      cases hoperand
      exact hfaulty
  · intro h
    cases h with
    | missing hempty => exact operand_of_empty hempty
    | notNumber hsome hread => exact operand_of_read_eq_none hsome hread
    | notFinite hread hfinite =>
        rw [operand_of_read hread, hfinite]
        rfl
    | zero hread hzero =>
        rw [operand_of_read hread, hzero, isFinite_of_beq_zero hzero]
        rfl

/-! ### One cell -/

/-- Why an entry with this value has no speedup against the number `b`. -/
inductive CellFault (b : Float) (value : Option String) : SpeedupError → Prop
  | entry {e : SpeedupError} (h : Faulty value e) : CellFault b value e
  | infinite {x : Float} (hx : Spells value x) (h : (b / x).isInf = true) :
      CellFault b value .outOfRange
  | vanishing {x : Float} (hx : Spells value x) (h : (b / x == 0.0) = true) :
      CellFault b value .outOfRange

theorem ratio_eq_error_iff (hb : IsUsable b) (hx : IsUsable x) {reciprocal : Bool} :
    ratio reciprocal b x = .error e ↔
      e = .outOfRange ∧ ((b / x).isInf = true ∨ (b / x == 0.0) = true) := by
  have hout : ¬ IsUsable (b / x) ↔ (b / x).isInf = true ∨ (b / x == 0.0) = true := by
    rw [isInf_div hb hx]
    constructor
    · intro h
      by_contra hrange
      simp only [not_or, Bool.not_eq_true', Bool.not_eq_false, Bool.not_eq_true] at hrange
      exact h ⟨hrange.1, hrange.2⟩
    · rintro hrange ⟨hfinite, hzero⟩
      simp [hfinite, hzero] at hrange
  rw [← hout]
  by_cases h : IsUsable (b / x)
  · simp [ratio_of_isUsable h, h]
  · simp [ratio_of_not_isUsable h, h, eq_comm]

theorem speedup_of_faulty (h : Faulty reference e) (value : Option String) (reciprocal : Bool) :
    speedup reference value reciprocal = .error e := by
  unfold speedup
  rw [operand_eq_error_iff.2 h]

theorem speedup_of_spells (h : Spells reference b) (value : Option String) (reciprocal : Bool) :
    speedup reference value reciprocal =
      match operand value with
      | .error e => .error e
      | .ok x => ratio reciprocal b x := by
  have hreference := operand_eq_ok_iff.2 h
  unfold speedup
  cases operand value with
  | error e => simp only [hreference]
  | ok x => simp only [hreference]

/-- Next to a baseline that is a number, a cell fails for a fault of its own. -/
theorem speedup_eq_error_iff_of_spells (h : Spells reference b) {reciprocal : Bool} :
    speedup reference value reciprocal = .error e ↔ CellFault b value e := by
  rw [speedup_of_spells h]
  constructor
  · intro hcell
    cases hvalue : operand value with
    | error e' =>
        rw [hvalue] at hcell
        cases hcell
        exact .entry (operand_eq_error_iff.1 hvalue)
    | ok x =>
        rw [hvalue] at hcell
        have hx := operand_eq_ok_iff.1 hvalue
        obtain ⟨rfl, hinfinite | hzero⟩ := (ratio_eq_error_iff h.usable hx.usable).1 hcell
        · exact .infinite hx hinfinite
        · exact .vanishing hx hzero
  · intro hcell
    cases hcell with
    | entry hfaulty => rw [operand_eq_error_iff.2 hfaulty]
    | infinite hx hinfinite =>
        rw [operand_eq_ok_iff.2 hx]
        exact (ratio_eq_error_iff h.usable hx.usable).2 ⟨rfl, .inl hinfinite⟩
    | vanishing hx hzero =>
        rw [operand_eq_ok_iff.2 hx]
        exact (ratio_eq_error_iff h.usable hx.usable).2 ⟨rfl, .inr hzero⟩

/-- The speedup of the baseline against itself is one, and so is its inverse. -/
theorem speedup_self (h : Spells reference b) (reciprocal : Bool) :
    speedup reference reference reciprocal = .ok 1.0 := by
  have hone : b / b = 1.0 := div_self_of_isUsable h.usable
  have husable : IsUsable (b / b) := hone ▸ isUsable_one
  have hoperand := operand_eq_ok_iff.2 h
  rw [speedup_of_operands hoperand hoperand, ratio_of_isUsable husable, hone,
    div_self_of_isUsable isUsable_one, ite_self]

/-! ### One row -/

namespace Comparison

variable {entries : List NamedSeries} {baseline index : Nat} {name : String} {base : Series}
  {metric : Metric} {comparison : Comparison} {row : ComparisonRow}

/-- **The baseline normalizes its row.** Either its value has a fault, and then every cell of the
row fails with this fault, whatever the entries hold. Or its value is a number, and then its own
cell is exactly one in both directions, and the cell of any other entry fails exactly for a fault
of the entry's value or because the rounded ratio is infinite or zero. -/
theorem baseline_normalizes (hcompare : compare entries baseline metric = .ok comparison)
    (hbase : entries[baseline]? = some (name, base)) (hrow : comparison.rows[index]? = some row) :
    (∃ e, Faulty (base.value? metric.field index) e ∧
      row.speedups = List.replicate entries.length (.error e)) ∨
    ∃ b, Spells (base.value? metric.field index) b ∧ row.speedups[baseline]? = some (.ok 1.0) ∧
      ∀ place entry, place ≠ baseline → entries[place]? = some entry →
        ∃ cell, row.speedups[place]? = some cell ∧
          ∀ e, cell = .error e ↔ CellFault b (entry.2.value? metric.field index) e := by
  obtain ⟨-, rfl⟩ := (compare_eq_ok_iff hbase).1 hcompare
  rw [speedups_of_rows hrow]
  rcases operand_cases (base.value? metric.field index) with ⟨b, hspells, -⟩ | ⟨e, hfaulty, -⟩
  · refine .inr ⟨b, hspells, ?_, fun place entry _ hentry => ?_⟩
    · rw [List.getElem?_map, hbase, Option.map_some, speedup_self hspells]
    · rw [List.getElem?_map, hentry]
      exact ⟨_, rfl, fun e => speedup_eq_error_iff_of_spells hspells⟩
  · refine .inl ⟨e, hfaulty, ?_⟩
    simp only [speedup_of_faulty hfaulty, List.map_const']

/-- The least number is its own baseline, and a baseline of zero spoils its row. -/
theorem baseline_normalizes_of_least :
    let entries : List NamedSeries :=
      [("nodes", { sizes := #["8", "64"], columns := [⟨"real_time", #["5e-324", "0"]⟩] }),
        ("flat", { sizes := #["8", "64"], columns := [⟨"real_time", #["2", "1"]⟩] })]
    ∃ (comparison : Comparison) (row row' : ComparisonRow),
      compare entries 0 ⟨"real_time", true⟩ = .ok comparison ∧
      comparison.rows[0]? = some row ∧ comparison.rows[1]? = some row' ∧
      row.speedups[0]? = some (.ok 1.0) ∧
      row'.speedups = [.error .divisionByZero, .error .divisionByZero] := by
  intro entries
  obtain ⟨comparison, h⟩ : ∃ comparison, compare entries 0 ⟨"real_time", true⟩ = .ok comparison :=
    (exists_compare_iff rfl _).2 (by decide)
  obtain ⟨-, hcomparison⟩ := (compare_eq_ok_iff rfl).1 h
  obtain ⟨row, hrow⟩ : ∃ row, comparison.rows[0]? = some row := by
    rw [hcomparison]
    exact ⟨_, rfl⟩
  obtain ⟨row', hrow'⟩ : ∃ row, comparison.rows[1]? = some row := by
    rw [hcomparison]
    exact ⟨_, rfl⟩
  refine ⟨comparison, row, row', h, hrow, hrow', ?_, ?_⟩
  · have hnumber : (operand (some "5e-324")).isOk = true := by decide +kernel
    rcases baseline_normalizes h rfl hrow with ⟨e, hfaulty, -⟩ | ⟨b, -, hself, -⟩
    · have herror : operand (some "5e-324") = .error e := operand_eq_error_iff.2 hfaulty
      rw [herror] at hnumber
      cases hnumber
    · exact hself
  · have hzero : operand (some "0") = .error .divisionByZero := by decide +kernel
    rcases baseline_normalizes h rfl hrow' with ⟨e, hfaulty, hrow⟩ | ⟨b, hspells, -⟩
    · have herror : operand (some "0") = .error e := operand_eq_error_iff.2 hfaulty
      rw [hzero] at herror
      cases herror
      exact hrow
    · have hnumber : operand (some "0") = .ok b := operand_eq_ok_iff.2 hspells
      rw [hzero] at hnumber
      cases hnumber

end Comparison

/-! ### Both directions -/

/-- The cell of the inverse ratio next to that of the ratio. -/
structure Inverts (plain inverse : SpeedupCell) : Prop where
  error_iff : ∀ e, plain = .error e ↔ inverse = .error e
  inverse_eq : ∀ v, plain = .ok v → inverse = .ok (1.0 / v)

theorem inverts_speedup (reference value : Option String) :
    Inverts (speedup reference value false) (speedup reference value true) := by
  constructor
  · intro e
    rcases operand_cases reference with ⟨b, hb, -⟩ | ⟨e', he', -⟩
    · rw [speedup_eq_error_iff_of_spells hb, speedup_eq_error_iff_of_spells hb]
    · rw [speedup_of_faulty he', speedup_of_faulty he']
  · intro v hv
    obtain ⟨b, x, hb, hx, hratio⟩ := exists_operands_of_speedup hv
    rw [speedup_of_operands hb hx]
    by_cases husable : IsUsable (b / x)
    · rw [ratio_of_isUsable husable] at hratio ⊢
      cases hratio
      rfl
    · rw [ratio_of_not_isUsable husable] at hratio
      cases hratio

namespace Comparison

/-- Both comparisons have the same entries, labels and values, and each speedup of the one is the
inverse of the speedup of the other. -/
structure Mirrors (plain inverse : Comparison) : Prop where
  entries : inverse.entries = plain.entries
  baseline : inverse.baseline = plain.baseline
  labels : inverse.rows.map (·.size) = plain.rows.map (·.size)
  values : inverse.rows.map (·.values) = plain.rows.map (·.values)
  speedups : List.Forall₂ (fun row row' => List.Forall₂ Inverts row.speedups row'.speedups)
    plain.rows inverse.rows

/-- The direction decides the speedups of a row and nothing else. -/
theorem inverts_row (entries : List NamedSeries) (base : Series) (field : String) (index : Nat)
    (size : String) :
    (row entries base ⟨field, true⟩ index size).values =
        (row entries base ⟨field, false⟩ index size).values ∧
      List.Forall₂ Inverts (row entries base ⟨field, false⟩ index size).speedups
        (row entries base ⟨field, true⟩ index size).speedups := by
  refine ⟨rfl, ?_⟩
  simp only [row, List.map_map, List.forall₂_map_left_iff, List.forall₂_map_right_iff]
  refine List.forall₂_same.2 fun entry _ => ?_
  simp only [Function.comp_apply]
  exact inverts_speedup _ _

theorem mirrors_ofAligned (entries : List NamedSeries) (baseline : Nat) (base : Series)
    (field : String) :
    (ofAligned entries baseline base ⟨field, false⟩).Mirrors
      (ofAligned entries baseline base ⟨field, true⟩) where
  entries := rfl
  baseline := rfl
  labels := by rw [labels_ofAligned, labels_ofAligned]
  values := by
    simp only [ofAligned, List.mapIdx_eq_zipIdx_map, List.map_map]
    refine List.map_congr_left fun size _ => ?_
    exact (inverts_row entries base field size.2 size.1).1
  speedups := by
    simp only [ofAligned, List.mapIdx_eq_zipIdx_map, List.forall₂_map_left_iff,
      List.forall₂_map_right_iff]
    refine List.forall₂_same.2 fun size _ => ?_
    exact (inverts_row entries base field size.2 size.1).2

/-- **The inverse comparison inverts the plain one cell by cell.** The direction decides nothing but
the last step: both comparisons fail alike, or both have the same entries, labels and values, fail
in the same cells for the same reasons, and have inverse speedups in all others. -/
theorem compare_reciprocal (entries : List NamedSeries) (baseline : Nat) (field : String) :
    (∃ m, compare entries baseline ⟨field, false⟩ = .error m ∧
      compare entries baseline ⟨field, true⟩ = .error m) ∨
    ∃ plain inverse, compare entries baseline ⟨field, false⟩ = .ok plain ∧
      compare entries baseline ⟨field, true⟩ = .ok inverse ∧ plain.Mirrors inverse := by
  cases hbase : entries[baseline]? with
  | none =>
      exact .inr ⟨_, _, compare_of_getElem?_eq_none hbase _, compare_of_getElem?_eq_none hbase _,
        rfl, rfl, rfl, rfl, .nil⟩
  | some base =>
      cases hplain : compare entries baseline ⟨field, false⟩ with
      | error m =>
          have hblames := (compare_eq_error_iff hbase).1 hplain
          exact .inl ⟨m, rfl, (compare_eq_error_iff hbase).2 hblames⟩
      | ok plain =>
          obtain ⟨hsizes, rfl⟩ := (compare_eq_ok_iff hbase).1 hplain
          exact .inr ⟨_, _, rfl, (compare_eq_ok_iff hbase).2 ⟨hsizes, rfl⟩,
            mirrors_ofAligned entries baseline base.2 field⟩

end Comparison

end BenchBoard
