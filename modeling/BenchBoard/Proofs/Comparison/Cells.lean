import Mathlib.Data.List.Basic
import BenchBoard.Proofs.Comparison.Rows
/-!
# BenchBoard.Proofs.Comparison.Cells

**Every cell stands for itself.** What a comparison shows of an entry at a size is made of two
texts, that of the entry and that of the baseline (`cell?_of_compare`). So two comparisons show the
same wherever these texts are the same, and another text in one place of an entry that is not the
baseline can be seen in one cell at most (`compare_exact`).

Whether there are rows at all is decided before any cell is: the first entry that was not measured
at as many sizes as the baseline is blamed (`compare_eq_error_iff`).
-/

namespace BenchBoard

/-- A value that is absent counts as an empty one. -/
theorem operand_getD (value : Option String) : operand (some (value.getD "")) = operand value := by
  simp only [operand, Option.getD_some]

theorem speedup_getD (baseline entry : Option String) (reciprocal : Bool) :
    speedup (some (baseline.getD "")) (some (entry.getD "")) reciprocal =
      speedup baseline entry reciprocal := by
  unfold speedup
  rw [operand_getD, operand_getD]

/-! ### Texts -/

/-- The text of a metric at a size, empty where there is none. -/
def Series.textAt (series : Series) (field : String) (index : Nat) : String :=
  (series.value? field index).getD ""

/-- The series with another text of a metric at a size. -/
def Series.setText (series : Series) (field : String) (index : Nat) (text : String) : Series :=
  { series with columns := series.columns.map fun column =>
      if column.name = field then
        { column with values := column.values.setIfInBounds index text }
      else column }

section Texts

variable {series : Series} {field field' : String} {index index' : Nat} {text : String}

@[simp] theorem Series.size_setText (series : Series) (field : String) (index : Nat)
    (text : String) : (series.setText field index text).size = series.size := rfl

/-- Setting a text changes the values of its metric only. -/
theorem Series.metric?_setText :
    (series.setText field index text).metric? field' = (series.metric? field').map fun values =>
      if field' = field then values.setIfInBounds index text else values := by
  unfold metric? setText
  simp only [List.find?_map, Option.map_map]
  have hname : ((fun column : Column => column.name == field') ∘ fun column : Column =>
      if column.name = field then
        { column with values := column.values.setIfInBounds index text }
      else column) = fun column => column.name == field' := by
    funext column
    simp only [Function.comp_apply]
    split <;> rfl
  rw [hname]
  cases hfound : series.columns.find? (·.name == field') with
  | none => rfl
  | some column =>
      have hcolumn : column.name = field' := by simpa using List.find?_some hfound
      simp only [Option.map_some, Function.comp_apply, hcolumn, Option.some.injEq]
      split <;> rfl

/-- Setting a text leaves all others as they are. -/
theorem Series.textAt_setText (h : index' ≠ index) :
    (series.setText field index text).textAt field' index' = series.textAt field' index' := by
  unfold textAt value?
  rw [metric?_setText]
  cases series.metric? field' with
  | none => rfl
  | some values =>
      simp only [Option.map_some, Option.bind_some]
      split
      · rw [Array.getElem?_setIfInBounds_ne h.symm]
      · rfl

end Texts

/-- The text of an entry, if there is an entry in this place. -/
def textAt? (entries : List NamedSeries) (place : Nat) (field : String) (index : Nat) :
    Option String :=
  entries[place]?.map (·.2.textAt field index)

/-- The entries with another text of one of them. -/
def setText (entries : List NamedSeries) (place : Nat) (field : String) (index : Nat)
    (text : String) : List NamedSeries :=
  entries.modify place fun entry => (entry.1, entry.2.setText field index text)

section Entries

variable {entries : List NamedSeries} {place place' : Nat} {field field' : String}
  {index index' : Nat} {text : String}

theorem textAt?_setText (h : (index', place') ≠ (index, place)) :
    textAt? (setText entries place field index text) place' field' index' =
      textAt? entries place' field' index' := by
  unfold textAt? setText
  rw [List.getElem?_modify]
  by_cases hplace : place = place'
  · have hindex : index' ≠ index := by
      rintro rfl
      exact h (by rw [hplace])
    cases entries[place']? with
    | none => simp
    | some entry => simp [hplace, Series.textAt_setText hindex]
  · simp [hplace]

/-- Setting a text changes no number of sizes. -/
theorem map_size_setText (entries : List NamedSeries) (place : Nat) (field : String)
    (index : Nat) (text : String) :
    (setText entries place field index text).map (·.2.size) = entries.map (·.2.size) := by
  unfold setText
  refine List.ext_getElem? fun place' => ?_
  simp only [List.getElem?_map, List.getElem?_modify]
  split <;> simp [Function.comp_def]

end Entries

/-! ### Misaligned entries -/

/-- The first entry that has another number of sizes than the baseline, with both numbers. -/
def Misalignment.Blames (m : Misalignment) (entries : List NamedSeries) (base : Series) : Prop :=
  ∃ before entry after, entries = before ++ entry :: after ∧
    (∀ other ∈ before, other.2.size = base.size) ∧ entry.2.size ≠ base.size ∧
    m = ⟨entry.1, base.size, entry.2.size⟩

namespace Comparison

variable {entries : List NamedSeries} {baseline index place : Nat} {name : String} {base : Series}
  {metric : Metric} {comparison : Comparison} {m : Misalignment}

theorem compare_of_getElem?_eq_none (h : entries[baseline]? = none) (metric : Metric) :
    compare entries baseline metric = .ok ⟨metric, entries.map (·.1), baseline, []⟩ := by
  simp only [compare, h]

theorem compare_eq_error_iff (hbase : entries[baseline]? = some (name, base)) :
    compare entries baseline metric = .error m ↔ m.Blames entries base := by
  simp only [compare, hbase]
  constructor
  · intro h
    cases hfind : entries.find? fun entry => entry.2.size != base.size with
    | none =>
        rw [hfind] at h
        cases h
    | some found =>
        rw [hfind] at h
        cases h
        obtain ⟨hother, before, after, hentries, hbefore⟩ := List.find?_eq_some_iff_append.1 hfind
        exact ⟨before, found, after, hentries, by simpa using hbefore, by simpa using hother, rfl⟩
  · rintro ⟨before, entry, after, hentries, hbefore, hother, rfl⟩
    have hfind : entries.find? (fun entry => entry.2.size != base.size) = some entry :=
      List.find?_eq_some_iff_append.2
        ⟨by simpa using hother, before, after, hentries, by simpa using hbefore⟩
    rw [hfind]

/-! ### Rows -/

/-- There is a row for each size of the baseline, in order and under its label, with a value and
a speedup for each entry. -/
structure Covers (comparison : Comparison) (entries : List NamedSeries) (baseline : Nat) : Prop where
  names : comparison.entries = entries.map (·.1)
  /-- Without a baseline there are no rows. -/
  no_rows : entries.length ≤ baseline → comparison.rows = []
  labels : ∀ base, entries[baseline]? = some base →
    comparison.rows.map (·.size) = base.2.sizes.toList
  values : ∀ row ∈ comparison.rows, row.values.length = entries.length
  speedups : ∀ row ∈ comparison.rows, row.speedups.length = entries.length

theorem labels_ofAligned (entries : List NamedSeries) (baseline : Nat) (base : Series)
    (metric : Metric) :
    (ofAligned entries baseline base metric).rows.map (·.size) = base.sizes.toList := by
  refine List.ext_getElem? fun index => ?_
  simp [ofAligned, row, Function.comp_def]

theorem covers_of_compare (h : compare entries baseline metric = .ok comparison) :
    comparison.Covers entries baseline := by
  cases hbase : entries[baseline]? with
  | none =>
      rw [compare_of_getElem?_eq_none hbase] at h
      cases h
      exact ⟨rfl, fun _ => rfl, by simp [hbase], by simp, by simp⟩
  | some base =>
      obtain ⟨-, rfl⟩ := (compare_eq_ok_iff hbase).1 h
      have hin := (List.getElem?_eq_some_iff.1 hbase).1
      refine ⟨rfl, fun hout => by omega, ?_, ?_, ?_⟩
      · intro other hother
        rw [hbase] at hother
        cases hother
        exact labels_ofAligned _ _ _ _
      · intro row hrow
        obtain ⟨index, hindex, rfl⟩ := List.mem_mapIdx.1 hrow
        simp [Comparison.row]
      · intro row hrow
        obtain ⟨index, hindex, rfl⟩ := List.mem_mapIdx.1 hrow
        simp [Comparison.row]

/-! ### Cells -/

/-- What is shown of an entry at a size: its value and its speedup. -/
def cell? (comparison : Comparison) (index place : Nat) : Option (String × SpeedupCell) :=
  comparison.rows[index]?.bind fun row => (row.values.zip row.speedups)[place]?

/-- What is shown of an entry with this text next to a baseline with that one. -/
def cellOf (metric : Metric) (reference text : String) : String × SpeedupCell :=
  (text, speedup (some reference) (some text) metric.reciprocal)

theorem getElem?_row (entries : List NamedSeries) (base : Series) (metric : Metric) (index : Nat)
    (size : String) (place : Nat) :
    ((row entries base metric index size).values.zip
        (row entries base metric index size).speedups)[place]? =
      (textAt? entries place metric.field index).map
        (cellOf metric (base.textAt metric.field index)) := by
  simp only [row, List.map_map, List.zip_map', List.getElem?_map, textAt?, Option.map_map]
  refine congrArg (fun f => (entries[place]?).map f) (funext fun entry => ?_)
  simp only [Function.comp_apply, cellOf, Series.textAt, speedup_getD]

/-- A cell is made of the text of its entry and that of the baseline. -/
theorem cell?_of_compare (h : compare entries baseline metric = .ok comparison)
    (index place : Nat) :
    comparison.cell? index place =
      if index < comparison.rows.length then
        (textAt? entries baseline metric.field index).bind fun reference =>
          (textAt? entries place metric.field index).map (cellOf metric reference)
      else none := by
  unfold cell?
  cases hbase : entries[baseline]? with
  | none =>
      rw [compare_of_getElem?_eq_none hbase] at h
      cases h
      simp
  | some base =>
      obtain ⟨-, rfl⟩ := (compare_eq_ok_iff hbase).1 h
      rw [length_rows_ofAligned]
      split
      · rename_i hindex
        have hsize : base.2.sizes[index]? = some base.2.sizes[index] :=
          Array.getElem?_eq_getElem hindex
        rw [getElem?_rows_ofAligned, hsize, Option.map_some, Option.bind_some, getElem?_row]
        simp [textAt?, hbase]
      · rename_i hindex
        have hsize : base.2.sizes[index]? = none := Array.getElem?_eq_none (Nat.le_of_not_lt hindex)
        rw [getElem?_rows_ofAligned, hsize, Option.map_none, Option.bind_none]

/-- Two comparisons show the same where the texts are the same. -/
theorem cell?_eq_cell? {others : List NamedSeries} {comparison' : Comparison}
    (h : compare entries baseline metric = .ok comparison)
    (h' : compare others baseline metric = .ok comparison')
    (hrows : comparison'.rows.length = comparison.rows.length)
    (hbase : textAt? others baseline metric.field index =
      textAt? entries baseline metric.field index)
    (hplace : textAt? others place metric.field index = textAt? entries place metric.field index) :
    comparison'.cell? index place = comparison.cell? index place := by
  rw [cell?_of_compare h, cell?_of_compare h', hrows, hbase, hplace]

/-- Where an entry that is not the baseline has another text, there is a comparison as well, with
the same rows. -/
theorem exists_compare_setText (h : compare entries baseline metric = .ok comparison)
    (hplace : place ≠ baseline) (field : String) (index : Nat) (text : String) :
    ∃ comparison', compare (setText entries place field index text) baseline metric =
        .ok comparison' ∧
      comparison'.rows.map (·.size) = comparison.rows.map (·.size) := by
  have hsame : (setText entries place field index text)[baseline]? = entries[baseline]? := by
    simp [setText, hplace]
  cases hbase : entries[baseline]? with
  | none =>
      rw [hbase] at hsame
      rw [compare_of_getElem?_eq_none hbase] at h
      cases h
      exact ⟨_, compare_of_getElem?_eq_none hsame metric, rfl⟩
  | some base =>
      rw [hbase] at hsame
      obtain ⟨hsizes, rfl⟩ := (compare_eq_ok_iff hbase).1 h
      have hkept : ∀ entry ∈ setText entries place field index text,
          entry.2.size = base.2.size := by
        have hall : ∀ size ∈ entries.map (·.2.size), size = base.2.size :=
          List.forall_mem_map.2 hsizes
        rw [← map_size_setText entries place field index text] at hall
        exact List.forall_mem_map.1 hall
      refine ⟨_, (compare_eq_ok_iff hsame).2 ⟨hkept, rfl⟩, ?_⟩
      rw [labels_ofAligned, labels_ofAligned]

/-- **A comparison is exact, and each of its cells stands for itself.** It fails exactly when there
is a baseline and some entry was measured at another number of sizes, and the first such entry is
blamed. Otherwise there is one row for each size of the baseline, with a value and a speedup for
each entry: the text of the entry and its speedup over that of the baseline. Any other comparison
with as many rows shows the same wherever the text of the entry and that of the baseline are the
same. So when another text is put in one place of an entry that is not the baseline, the rows and
all other cells stay as they are. -/
theorem compare_exact (entries : List NamedSeries) (baseline : Nat) (metric : Metric) :
    ((∃ m, compare entries baseline metric = .error m) ↔
      ∃ base, entries[baseline]? = some base ∧ ∃ entry ∈ entries, entry.2.size ≠ base.2.size) ∧
    (∀ m, compare entries baseline metric = .error m →
      ∃ base, entries[baseline]? = some base ∧ m.Blames entries base.2) ∧
    ∀ comparison, compare entries baseline metric = .ok comparison →
      comparison.Covers entries baseline ∧
      (∀ index place, comparison.cell? index place =
        if index < comparison.rows.length then
          (textAt? entries baseline metric.field index).bind fun reference =>
            (textAt? entries place metric.field index).map (cellOf metric reference)
        else none) ∧
      (∀ others comparison', compare others baseline metric = .ok comparison' →
        comparison'.rows.length = comparison.rows.length → ∀ index place,
          textAt? others baseline metric.field index =
            textAt? entries baseline metric.field index →
          textAt? others place metric.field index = textAt? entries place metric.field index →
          comparison'.cell? index place = comparison.cell? index place) ∧
      ∀ place field index text, place ≠ baseline → ∃ comparison',
        compare (setText entries place field index text) baseline metric = .ok comparison' ∧
        comparison'.rows.map (·.size) = comparison.rows.map (·.size) ∧
        ∀ index' place', (index', place') ≠ (index, place) →
          comparison'.cell? index' place' = comparison.cell? index' place' := by
  refine ⟨?_, ?_, fun comparison h => ⟨covers_of_compare h, cell?_of_compare h, ?_, ?_⟩⟩
  · cases hbase : entries[baseline]? with
    | none => simp [compare_of_getElem?_eq_none hbase]
    | some base =>
        have hok := exists_compare_iff hbase metric
        have hfails : (∃ m, compare entries baseline metric = .error m) ↔
            ¬ ∃ comparison, compare entries baseline metric = .ok comparison := by
          cases compare entries baseline metric <;> simp
        rw [hfails, hok]
        simp
  · intro m h
    cases hbase : entries[baseline]? with
    | none =>
        rw [compare_of_getElem?_eq_none hbase] at h
        cases h
    | some base => exact ⟨base, rfl, (compare_eq_error_iff hbase).1 h⟩
  · intro others comparison' h' hrows index place hbase hplace
    exact cell?_eq_cell? h h' hrows hbase hplace
  · intro place field index text hplace
    obtain ⟨comparison', h', hlabels⟩ := exists_compare_setText h hplace field index text
    have hrows : comparison'.rows.length = comparison.rows.length := by
      simpa using congrArg List.length hlabels
    refine ⟨comparison', h', hlabels, fun index' place' hother => ?_⟩
    -- The baseline is another entry, so its texts are the same at every size.
    have hbase : (index', baseline) ≠ (index, place) := by
      simpa using fun _ => hplace.symm
    exact cell?_eq_cell? h h' hrows (textAt?_setText hbase) (textAt?_setText hother)

/-- A zero in one place fails its own cell. -/
theorem compare_exact_of_zero :
    let entries : List NamedSeries :=
      [("nodes", { sizes := #["8", "64"], columns := [⟨"real_time", #["40", "300"]⟩] }),
        ("flat", { sizes := #["8", "64"], columns := [⟨"real_time", #["20", "100"]⟩] })]
    ∃ comparison comparison' : Comparison,
      compare entries 0 ⟨"real_time", false⟩ = .ok comparison ∧
      compare (setText entries 1 "real_time" 0 "0") 0 ⟨"real_time", false⟩ = .ok comparison' ∧
      comparison'.rows.map (·.size) = ["8", "64"] ∧
      comparison'.cell? 0 1 = some ("0", .error .divisionByZero) ∧
      comparison'.cell? 0 0 = comparison.cell? 0 0 ∧
      comparison'.cell? 1 1 = comparison.cell? 1 1 := by
  intro entries
  obtain ⟨comparison, h⟩ : ∃ comparison, compare entries 0 ⟨"real_time", false⟩ = .ok comparison :=
    (exists_compare_iff rfl _).2 (by decide)
  obtain ⟨hcovers, -, -, hset⟩ := (compare_exact entries 0 ⟨"real_time", false⟩).2.2 comparison h
  obtain ⟨comparison', h', hlabels, hcells⟩ := hset 1 "real_time" 0 "0" (by decide)
  have hsizes : comparison.rows.map (·.size) = ["8", "64"] := hcovers.labels _ rfl
  rw [hsizes] at hlabels
  have hrows : comparison'.rows.length = 2 := by
    simpa using congrArg List.length hlabels
  refine ⟨comparison, comparison', h, h', hlabels, ?_, hcells 0 0 (by decide),
    hcells 1 1 (by decide)⟩
  have hspeedup : speedup (some "40") (some "0") false = .error .divisionByZero := by
    decide +kernel
  have hcell : cellOf ⟨"real_time", false⟩ "40" "0" = ("0", .error .divisionByZero) :=
    Prod.ext rfl hspeedup
  rw [cell?_of_compare h', hrows, ← hcell]
  rfl

end Comparison

end BenchBoard
