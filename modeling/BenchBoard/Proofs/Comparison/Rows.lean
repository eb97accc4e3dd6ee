import BenchBoard.Comparison.Basic
/-!
# BenchBoard.Proofs.Comparison.Rows

**The shape of a comparison.** Entries can be compared exactly when each has as many sizes as the
baseline, and then there is a row for each size of the baseline with a value for each entry
(`compare_eq_ok_iff`). Whatever looks at a comparison cell by cell starts here.
-/

namespace BenchBoard.Comparison

variable {entries : List NamedSeries} {baseline : Nat} {name : String} {base : Series}
  {metric : Metric} {comparison : Comparison}

/-- The comparison of a metric of entries that have as many sizes as the baseline. -/
def ofAligned (entries : List NamedSeries) (baseline : Nat) (base : Series) (metric : Metric) :
    Comparison :=
  ⟨metric, entries.map (·.1), baseline, base.sizes.toList.mapIdx (row entries base metric)⟩

theorem compare_eq_ok_iff (hbase : entries[baseline]? = some (name, base)) :
    compare entries baseline metric = .ok comparison ↔
      (∀ entry ∈ entries, entry.2.size = base.size) ∧
        comparison = ofAligned entries baseline base metric := by
  simp only [compare, hbase]
  cases hfind : entries.find? fun entry => entry.2.size != base.size with
  | none =>
      rw [List.find?_eq_none] at hfind
      have hall : ∀ entry ∈ entries, entry.2.size = base.size := by simpa using hfind
      constructor
      · intro h
        cases h
        exact ⟨hall, rfl⟩
      · rintro ⟨-, rfl⟩
        rfl
  | some found =>
      have hmem : found ∈ entries := List.mem_of_find?_eq_some hfind
      have hother : found.2.size ≠ base.size := by simpa using List.find?_some hfind
      constructor
      · intro h
        cases h
      · rintro ⟨hall, -⟩
        exact absurd (hall found hmem) hother

/-- A metric can be compared exactly when all entries have as many sizes as the baseline,
whatever the metric is. -/
theorem exists_compare_iff (hbase : entries[baseline]? = some (name, base)) (metric : Metric) :
    (∃ comparison, compare entries baseline metric = .ok comparison) ↔
      ∀ entry ∈ entries, entry.2.size = base.size := by
  simp [compare_eq_ok_iff hbase]

@[simp] theorem metric_ofAligned (entries : List NamedSeries) (baseline : Nat) (base : Series)
    (metric : Metric) : (ofAligned entries baseline base metric).metric = metric := rfl

@[simp] theorem length_rows_ofAligned (entries : List NamedSeries) (baseline : Nat) (base : Series)
    (metric : Metric) : (ofAligned entries baseline base metric).rows.length = base.size := by
  simp [ofAligned, Series.size]

theorem getElem?_rows_ofAligned (entries : List NamedSeries) (baseline : Nat) (base : Series)
    (metric : Metric) (index : Nat) :
    (ofAligned entries baseline base metric).rows[index]? =
      base.sizes[index]?.map (row entries base metric index) := by
  simp [ofAligned]

/-- The value of an entry in a row is what its series has there, or nothing. -/
theorem exists_value_of_rows {index place : Nat} {row : ComparisonRow} {entry : NamedSeries}
    (hrow : (ofAligned entries baseline base metric).rows[index]? = some row)
    (hentry : entries[place]? = some entry) :
    index < base.size ∧
      row.values[place]? = some ((entry.2.value? metric.field index).getD "") := by
  rw [getElem?_rows_ofAligned] at hrow
  obtain ⟨size, hsize, rfl⟩ := Option.map_eq_some_iff.1 hrow
  have hlt : index < base.size := (Array.getElem?_eq_some_iff.1 hsize).1
  exact ⟨hlt, by simp [Comparison.row, hentry]⟩

/-- The speedups of a row are made of the values of the entries and that of the baseline. -/
theorem speedups_of_rows {index : Nat} {row : ComparisonRow}
    (hrow : (ofAligned entries baseline base metric).rows[index]? = some row) :
    row.speedups = entries.map fun entry =>
      speedup (base.value? metric.field index) (entry.2.value? metric.field index)
        metric.reciprocal := by
  rw [getElem?_rows_ofAligned] at hrow
  obtain ⟨size, -, rfl⟩ := Option.map_eq_some_iff.1 hrow
  simp [Comparison.row]

end BenchBoard.Comparison
