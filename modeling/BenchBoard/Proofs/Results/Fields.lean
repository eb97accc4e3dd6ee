import BenchBoard.Results.Record
/-!
# BenchBoard.Proofs.Results.Fields

**What the fields of a line become.** A header is made of the fields of its line exactly when
they are the names of a schema with nothing but empty texts after them
(`Header.ofFields_eq_ok_iff`). A record is made of the fields of its line exactly when they
fit under the header, and it then keeps each value under its name
(`Record.ofValues_eq_ok_iff`, `Record.keeps_iff`).
-/

namespace BenchBoard

open BenchBoard.Text

/-! ### Schemas -/

/-- The names can head the columns of a result file. -/
structure IsSchema (names : List String) : Prop where
  nonempty : ∀ name ∈ names, name ≠ ""
  distinct : names.Nodup
  has_name : nameField ∈ names

namespace Header

variable {seen texts names : List String} {header : Header}

theorem firstRepeated_eq_none_iff :
    firstRepeated seen texts = none ↔ texts.Nodup ∧ ∀ text ∈ texts, text ∉ seen := by
  induction texts generalizing seen with
  | nil => simp [firstRepeated]
  | cons text texts ih =>
      unfold firstRepeated
      by_cases h : text ∈ seen
      · simp [h]
      · rw [if_neg h, ih, List.nodup_cons]
        constructor
        · rintro ⟨hdistinct, hfresh⟩
          refine ⟨⟨fun hmem => hfresh text hmem List.mem_cons_self, hdistinct⟩, ?_⟩
          intro other hother
          rcases List.mem_cons.1 hother with rfl | hother
          · exact h
          · exact fun hseen => hfresh other hother (List.mem_cons_of_mem _ hseen)
        · rintro ⟨⟨htext, hdistinct⟩, hfresh⟩
          refine ⟨hdistinct, ?_⟩
          intro other hother hmem
          rcases List.mem_cons.1 hmem with rfl | hseen
          · exact htext hother
          · exact hfresh other (List.mem_cons_of_mem _ hother) hseen

/-- Only empty texts at the end are dropped. -/
theorem exists_append_dropTrailingEmpty (texts : List String) :
    ∃ k, texts = dropTrailingEmpty texts ++ List.replicate k "" := by
  let dropped := texts.reverse.takeWhile String.isEmpty
  have hempty : dropped = List.replicate dropped.length "" := by
    rw [List.eq_replicate_iff]
    refine ⟨rfl, fun text htext => ?_⟩
    simpa using List.all_eq_true.1 List.all_takeWhile text htext
  refine ⟨dropped.length, ?_⟩
  calc texts = (dropped ++ texts.reverse.dropWhile String.isEmpty).reverse := by
        rw [List.takeWhile_append_dropWhile, List.reverse_reverse]
    _ = dropTrailingEmpty texts ++ dropped.reverse := List.reverse_append
    _ = dropTrailingEmpty texts ++ List.replicate dropped.length "" := by
        rw [← List.reverse_replicate, ← hempty]

/-- Empty texts after names that are not empty are dropped, and nothing else. -/
theorem dropTrailingEmpty_append_replicate (h : ∀ name ∈ names, name ≠ "") (k : Nat) :
    dropTrailingEmpty (names ++ List.replicate k "") = names := by
  have hnames : names.reverse.dropWhile String.isEmpty = names.reverse := by
    cases hr : names.reverse with
    | nil => rfl
    | cons name others =>
        have hname : name ∈ names := by
          rw [← List.mem_reverse, hr]
          exact List.mem_cons_self
        rw [List.dropWhile_cons_of_neg (by simpa using h name hname)]
  rw [dropTrailingEmpty, List.reverse_append, List.reverse_replicate,
    List.dropWhile_append_of_pos (by simp +contextual), hnames, List.reverse_reverse]

/-- A header that is made is a schema: it passed all checks. -/
theorem isSchema_of_ofFields {n : Nat} (h : ofFields texts n = .ok header) :
    IsSchema header.fields ∧ header.fields = dropTrailingEmpty (texts.map trim) := by
  simp only [ofFields] at h
  split at h
  · cases h
  · rename_i hempty
    split at h
    · cases h
    · rename_i hrepeated
      split at h
      · rename_i hname
        cases h
        refine ⟨⟨?_, (firstRepeated_eq_none_iff.1 hrepeated).1, hname⟩, rfl⟩
        simpa using List.findIdx?_eq_none_iff.1 hempty
      · cases h

theorem ofFields_of_isSchema (h : IsSchema (dropTrailingEmpty (texts.map trim))) (n : Nat) :
    ofFields texts n = .ok ⟨dropTrailingEmpty (texts.map trim)⟩ := by
  simp only [ofFields]
  generalize dropTrailingEmpty (texts.map trim) = names at h
  have hempty : names.findIdx? String.isEmpty = none := by
    rw [List.findIdx?_eq_none_iff]
    intro name hname
    simpa using h.nonempty name hname
  have hrepeated : firstRepeated [] names = none :=
    firstRepeated_eq_none_iff.2 ⟨h.distinct, by simp⟩
  rw [hempty, hrepeated]
  exact if_pos h.has_name

/-- A line is a header when its trimmed fields are a schema and empty texts after it. -/
theorem ofFields_eq_ok_iff {n : Nat} :
    ofFields texts n = .ok header ↔
      IsSchema header.fields ∧ ∃ k, texts.map trim = header.fields ++ List.replicate k "" := by
  constructor
  · intro h
    obtain ⟨hschema, hfields⟩ := isSchema_of_ofFields h
    refine ⟨hschema, ?_⟩
    rw [hfields]
    exact exists_append_dropTrailingEmpty _
  · rintro ⟨hschema, k, hk⟩
    have hfields : dropTrailingEmpty (texts.map trim) = header.fields := by
      rw [hk, dropTrailingEmpty_append_replicate hschema.nonempty]
    have hok := ofFields_of_isSchema (hfields ▸ hschema) n
    rw [hok, hfields]

end Header

/-! ### Records -/

/-- There is a value for each of `width` names, and what is left over is blank. -/
def FitsUnder (width : Nat) (values : List String) : Prop :=
  width ≤ values.length ∧ ∀ value ∈ values.drop width, allBlank value.toList = true

namespace Record

variable {header : Header} {values : List String} {n : Nat} {record : Record}

theorem ofValues_eq_ok_iff :
    ofValues header values n = .ok record ↔
      FitsUnder header.size values ∧ record = ⟨n, header.fields.zip (values.map trim)⟩ := by
  unfold ofValues FitsUnder
  simp only
  split
  · rename_i h
    simp only [reduceCtorEq, false_iff, not_and]
    rintro ⟨hlength, hblank⟩ -
    rcases h with h | h
    · omega
    · obtain ⟨value, hvalue, hnot⟩ := List.any_eq_true.1 h
      rw [hblank value hvalue] at hnot
      cases hnot
  · rename_i h
    rw [not_or, Bool.not_eq_true, List.any_eq_false] at h
    have hblank : ∀ value ∈ values.drop header.size, allBlank value.toList = true := by
      intro value hvalue
      simpa using h.2 value hvalue
    constructor
    · intro hok
      cases hok
      exact ⟨⟨by omega, hblank⟩, rfl⟩
    · rintro ⟨-, rfl⟩
      rfl

/-- The record stands on line `n` and keeps each value, trimmed, under its name. -/
structure Keeps (names texts : List String) (n : Nat) (record : Record) : Prop where
  on_line : record.line = n
  all_names : record.fields.map (·.1) = names
  all_values : record.values = (texts.take names.length).map trim
  found : ∀ (i : Nat) (name text : String), names[i]? = some name → texts[i]? = some text →
    record.get? name = some (trim text)

theorem lookup_zip {names values : List String} (h : names.Nodup) {i : Nat}
    {name value : String} (hname : names[i]? = some name) (hvalue : values[i]? = some value) :
    (names.zip values).lookup name = some value := by
  induction names generalizing values i with
  | nil => cases hname
  | cons other names ih =>
      rw [List.nodup_cons] at h
      cases values with
      | nil => cases hvalue
      | cons v values =>
          cases i with
          | zero =>
              cases hname
              cases hvalue
              simp
          | succ i =>
              have hne : name ≠ other := by
                rintro rfl
                exact h.1 (List.mem_of_getElem? hname)
              rw [List.zip_cons_cons, List.lookup_cons, beq_false_of_ne hne]
              exact ih h.2 hname hvalue

/-- Values behind those that the names take are not looked at. -/
theorem zip_map_take {names : List String} (hfits : names.length ≤ values.length) :
    names.zip (values.map trim) = names.zip ((values.take names.length).map trim) := by
  rw [List.zip_eq_zip_take_min, List.length_map, Nat.min_eq_left hfits, List.take_length,
    List.map_take]

/-- Empty values behind those that the header names are no part of a record. -/
theorem ofValues_append_empty (h : ofValues header values n = .ok record) (k : Nat) :
    ofValues header (values ++ List.replicate k "") n = .ok record := by
  rw [ofValues_eq_ok_iff] at h ⊢
  obtain ⟨⟨hwidth, hsurplus⟩, rfl⟩ := h
  have hwider : header.size ≤ (values ++ List.replicate k "").length := by
    rw [List.length_append]
    omega
  refine ⟨⟨hwider, fun value hvalue => ?_⟩, ?_⟩
  · rw [List.drop_append_of_le_length hwidth, List.mem_append] at hvalue
    rcases hvalue with hvalue | hvalue
    · exact hsurplus value hvalue
    · rw [List.eq_of_mem_replicate hvalue]
      rfl
  · have htake : (values ++ List.replicate k "").take header.fields.length =
        values.take header.fields.length := List.take_append_of_le_length hwidth
    rw [zip_map_take hwidth, zip_map_take hwider, htake]

/-- The record that is made of fitting values is the one that keeps them. -/
theorem keeps_iff {names : List String} (hdistinct : names.Nodup)
    (hfits : names.length ≤ values.length) :
    record.Keeps names values n ↔ record = ⟨n, names.zip (values.map trim)⟩ := by
  have htake := zip_map_take hfits
  have hlength : ((values.take names.length).map trim).length = names.length := by
    simp [hfits]
  constructor
  · intro h
    obtain ⟨line, fields⟩ := record
    have hfields := List.zip_of_prod h.all_names h.all_values
    obtain rfl : line = n := h.on_line
    rw [htake]
    exact congrArg (Record.mk line) hfields
  · rintro rfl
    refine ⟨rfl, ?_, ?_, ?_⟩
    · rw [htake]
      exact List.map_fst_zip (Nat.le_of_eq hlength.symm)
    · rw [htake]
      exact List.map_snd_zip (Nat.le_of_eq hlength)
    · intro i name value hname hvalue
      exact lookup_zip hdistinct hname (by rw [List.getElem?_map, hvalue]; rfl)

end Record

end BenchBoard
