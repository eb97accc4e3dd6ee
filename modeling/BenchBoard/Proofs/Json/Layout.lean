import BenchBoard.Proofs.Json.Literals
import Mathlib.Data.List.DropRight
/-!
# BenchBoard.Proofs.Json.Layout

**Written values are read back.** The compact and the pretty form of a value have the same
tokens and differ in the blanks between them. A `Layout` says what these blanks are, and both
forms are what one writer makes of their layouts (`chars_compact`, `chars_pretty`). What is
written in any layout is read back (`parseChars_chars`), so it is for both forms.

Only a well-formed value is read back: its numbers are numbers by the grammar, and its strings
and names are texts.
-/

namespace BenchBoard.Json

open BenchBoard.Decimal

variable {blank cs after others rest literal : List Char} {c : Char} {fuel : Nat} {name : String}
  {item value : Value} {items : List Value} {members : List (Option String × Value)}

/-! ### Blanks -/

/-- The text has nothing but blanks. -/
def Blank (cs : List Char) : Prop :=
  skipBlank cs = []

theorem blank_nil : Blank [] := rfl

theorem blank_cons_iff :
    Blank (c :: cs) ↔ (c = ' ' ∨ c = '\n' ∨ c = '\t' ∨ c = '\r') ∧ Blank cs := by
  simp [Blank, skipBlank, or_assoc]

theorem skipBlank_append (h : Blank blank) (cs : List Char) :
    skipBlank (blank ++ cs) = skipBlank cs := by
  unfold Blank skipBlank at *
  rw [List.dropWhile_append, h]
  rfl

@[simp] theorem skipBlank_skipBlank (cs : List Char) : skipBlank (skipBlank cs) = skipBlank cs :=
  List.dropWhile_idempotent _ cs

/-- Before any other character there is nothing to skip. -/
theorem skipBlank_cons (h : c ≠ ' ' ∧ c ≠ '\n' ∧ c ≠ '\t' ∧ c ≠ '\r') (cs : List Char) :
    skipBlank (c :: cs) = c :: cs := by
  simp [skipBlank, h]

/-- No blank continues a number. -/
theorem endsNumber_append (hblank : Blank blank) (hcs : EndsNumber cs) :
    EndsNumber (blank ++ cs) := by
  cases blank with
  | nil => exact hcs
  | cons c blank =>
      rw [List.cons_append, endsNumber_cons_iff]
      rcases (blank_cons_iff.1 hblank).1 with rfl | rfl | rfl | rfl <;> decide

theorem blank_newline (level : Nat) : Blank (newline level) := by
  unfold Blank newline skipBlank
  simp

/-! ### Well-formed values -/

/-- Numbers are numbers, and strings and names are texts. -/
inductive Value.WellFormed : Value → Prop
  | null : WellFormed .null
  | bool (b : Bool) : WellFormed (.bool b)
  | number {literal : List Char} (h : IsNumber literal) : WellFormed (.number literal)
  | string (s : String) : WellFormed (.string (some s))
  | array {items : List Value} (h : ∀ item ∈ items, WellFormed item) : WellFormed (.array items)
  | object {members : List (Option String × Value)}
      (names : ∀ member ∈ members, ∃ name, member.1 = some name)
      (values : ∀ member ∈ members, WellFormed member.2) : WellFormed (.object members)

theorem Value.WellFormed.of_array_cons (h : (Value.array (item :: items)).WellFormed) :
    item.WellFormed ∧ (Value.array items).WellFormed := by
  cases h with
  | array h => exact ⟨h item (by simp), .array fun other hother => h other (by simp [hother])⟩

theorem Value.WellFormed.of_object_cons {name : Option String}
    (h : (Value.object ((name, value) :: members)).WellFormed) :
    (∃ text, name = some text) ∧ value.WellFormed ∧ (Value.object members).WellFormed := by
  cases h with
  | object names values =>
      exact ⟨names (name, value) (by simp), values (name, value) (by simp),
        .object (fun other hother => names other (by simp [hother]))
          (fun other hother => values other (by simp [hother]))⟩

/-! ### What one step of the readers does -/

theorem parseValue_skipBlank (fuel : Nat) (cs : List Char) :
    parseValue fuel (skipBlank cs) = parseValue fuel cs := by
  cases fuel with
  | zero => rfl
  | succ fuel => simp only [parseValue, skipBlank_skipBlank]

theorem parseItems_skipBlank (fuel : Nat) (cs : List Char) :
    parseItems fuel (skipBlank cs) = parseItems fuel cs := by
  cases fuel with
  | zero => rfl
  | succ fuel => simp only [parseItems, parseValue_skipBlank]

theorem parseMembers_skipBlank (fuel : Nat) (cs : List Char) :
    parseMembers fuel (skipBlank cs) = parseMembers fuel cs := by
  cases fuel with
  | zero => rfl
  | succ fuel => simp only [parseMembers, skipBlank_skipBlank]

theorem parseValue_append (h : Blank blank) (fuel : Nat) (cs : List Char) :
    parseValue fuel (blank ++ cs) = parseValue fuel cs := by
  rw [← parseValue_skipBlank, skipBlank_append h, parseValue_skipBlank]

theorem parseItems_append (h : Blank blank) (fuel : Nat) (cs : List Char) :
    parseItems fuel (blank ++ cs) = parseItems fuel cs := by
  rw [← parseItems_skipBlank, skipBlank_append h, parseItems_skipBlank]

theorem parseMembers_append (h : Blank blank) (fuel : Nat) (cs : List Char) :
    parseMembers fuel (blank ++ cs) = parseMembers fuel cs := by
  rw [← parseMembers_skipBlank, skipBlank_append h, parseMembers_skipBlank]

/-- No item begins with the bracket that closes an array. -/
theorem parseItems_bracket (fuel : Nat) (cs : List Char) : parseItems fuel (']' :: cs) = none := by
  rcases fuel with _ | _ | fuel
  · rfl
  · rfl
  · simp [parseItems, parseValue, skipBlank, numberLiteral, magnitudeLiteral, wholePart,
      someDigits, isDigit]

/-- No member begins with the brace that closes an object. -/
theorem parseMembers_brace (fuel : Nat) (cs : List Char) :
    parseMembers fuel ('\x7d' :: cs) = none := by
  cases fuel with
  | zero => rfl
  | succ fuel => simp [parseMembers, skipBlank, expect?]

theorem parseValue_array (h : parseItems fuel cs = some (items, rest)) :
    parseValue (fuel + 1) ('[' :: cs) = some (.array items, rest) := by
  rw [← parseItems_skipBlank] at h
  have hopen : skipBlank ('[' :: cs) = '[' :: cs := rfl
  simp only [parseValue, hopen, Char.reduceEq, if_true, if_false]
  split
  · rename_i hclosed
    rw [hclosed, parseItems_bracket] at h
    cases h
  · rw [h]
    rfl

theorem parseValue_object (h : parseMembers fuel cs = some (members, rest)) :
    parseValue (fuel + 1) ('\x7b' :: cs) = some (.object members, rest) := by
  rw [← parseMembers_skipBlank] at h
  have hopen : skipBlank ('\x7b' :: cs) = '\x7b' :: cs := rfl
  simp only [parseValue, hopen, Char.reduceEq, if_true, if_false]
  split
  · rename_i hclosed
    rw [hclosed, parseMembers_brace] at h
    cases h
  · rw [h]
    rfl

theorem parseValue_string (fuel : Nat) (s : String) (rest : List Char) :
    parseValue (fuel + 1) (stringLiteral (some s) ++ rest) = some (.string (some s), rest) := by
  simp [stringLiteral, parseValue, skipBlank_cons, parseString_escaped]

/-- The first character tells a number from all other values. -/
theorem parseValue_number (fuel : Nat) (h : IsNumber literal) (hrest : EndsNumber rest) :
    parseValue (fuel + 1) (literal ++ rest) = some (.number literal, rest) := by
  have hread := numberLiteral_append h hrest
  obtain ⟨c, cs, rfl, hfirst⟩ := h.exists_first
  have hother : ∀ d, d ≠ '-' ∧ isDigit d = false → c ≠ d := by
    rintro d ⟨hminus, hdigit⟩ rfl
    rcases hfirst with hfirst | hfirst
    · exact hminus hfirst
    · rw [hdigit] at hfirst
      cases hfirst
  have hblank : c ≠ ' ' ∧ c ≠ '\n' ∧ c ≠ '\t' ∧ c ≠ '\r' := by
    refine ⟨?_, ?_, ?_, ?_⟩ <;> exact hother _ (by decide)
  rw [List.cons_append] at hread ⊢
  simp only [parseValue, skipBlank_cons hblank, hother '"' (by decide), hother '[' (by decide),
    hother '\x7b' (by decide), hother 'n' (by decide), hother 't' (by decide),
    hother 'f' (by decide), if_false, hread, Option.map_some]

theorem parseItems_last (hitem : parseValue fuel cs = some (item, after))
    (hafter : skipBlank after = ']' :: rest) :
    parseItems (fuel + 1) cs = some ([item], rest) := by
  simp [parseItems, hitem, hafter]

theorem parseItems_more (hitem : parseValue fuel cs = some (item, after))
    (hafter : skipBlank after = ',' :: others)
    (hothers : parseItems fuel others = some (items, rest)) :
    parseItems (fuel + 1) cs = some (item :: items, rest) := by
  simp [parseItems, hitem, hafter, hothers]

theorem parseMembers_last (hvalue : parseValue fuel cs = some (value, after))
    (hafter : skipBlank after = '\x7d' :: rest) :
    parseMembers (fuel + 1) (stringLiteral (some name) ++ ':' :: cs) =
      some ([(some name, value)], rest) := by
  simp [parseMembers, stringLiteral, skipBlank_cons, expect?, parseString_escaped, hvalue, hafter]

theorem parseMembers_more (hvalue : parseValue fuel cs = some (value, after))
    (hafter : skipBlank after = ',' :: others)
    (hothers : parseMembers fuel others = some (members, rest)) :
    parseMembers (fuel + 1) (stringLiteral (some name) ++ ':' :: cs) =
      some ((some name, value) :: members, rest) := by
  simp [parseMembers, stringLiteral, skipBlank_cons, expect?, parseString_escaped, hvalue, hafter,
    hothers]

/-! ### Layouts -/

/-- The blanks between the tokens of a written value. -/
structure Layout where
  /-- What stands in front of an item or member of this level, and of a closing bracket. -/
  newline : Nat → List Char
  /-- What stands between the colon of a member and its value. -/
  gap : List Char
  newline_blank : ∀ level, Blank (newline level)
  gap_blank : Blank gap

namespace Layout

/-- No blanks. -/
def compact : Layout where
  newline _ := []
  gap := []
  newline_blank _ := blank_nil
  gap_blank := blank_nil

/-- Each item and member on a line of its own. -/
def pretty : Layout where
  newline := Json.newline
  gap := [' ']
  newline_blank := blank_newline
  gap_blank := rfl

mutual

/-- A value that stands on a line of this level. -/
def chars (l : Layout) (level : Nat) : Value → List Char
  | .null => ['n', 'u', 'l', 'l']
  | .bool true => ['t', 'r', 'u', 'e']
  | .bool false => ['f', 'a', 'l', 's', 'e']
  | .number literal => literal
  | .string text => stringLiteral text
  | .array [] => ['[', ']']
  | .array (item :: items) =>
      '[' :: l.itemChars (level + 1) (item :: items) ++ l.newline level ++ [']']
  | .object [] => ['\x7b', '\x7d']
  | .object (member :: members) =>
      '\x7b' :: l.memberChars (level + 1) (member :: members) ++ l.newline level ++ ['\x7d']

/-- The items of an array, with commas between them. -/
def itemChars (l : Layout) (level : Nat) : List Value → List Char
  | [] => []
  | [item] => l.newline level ++ l.chars level item
  | item :: items =>
      l.newline level ++ l.chars level item ++ ',' :: l.itemChars level items

/-- The members of an object, with commas between them. -/
def memberChars (l : Layout) (level : Nat) : List (Option String × Value) → List Char
  | [] => []
  | [(name, value)] =>
      l.newline level ++ stringLiteral name ++ ':' :: l.gap ++ l.chars level value
  | (name, value) :: members =>
      l.newline level ++ stringLiteral name ++ ':' :: l.gap ++ l.chars level value ++
        ',' :: l.memberChars level members

end

@[simp] theorem newline_compact (level : Nat) : compact.newline level = [] := rfl
@[simp] theorem gap_compact : compact.gap = [] := rfl
@[simp] theorem newline_pretty (level : Nat) : pretty.newline level = Json.newline level := rfl
@[simp] theorem gap_pretty : pretty.gap = [' '] := rfl

/-! ### The two written forms -/

mutual

theorem chars_compact (level : Nat) : ∀ value, compact.chars level value = compactChars value
  | .null => rfl
  | .bool true => rfl
  | .bool false => rfl
  | .number literal => rfl
  | .string text => rfl
  | .array [] => rfl
  | .array (item :: items) => by
      simp [chars, compactChars, itemChars_compact _ (item :: items)]
  | .object [] => rfl
  | .object (member :: members) => by
      simp [chars, compactChars, memberChars_compact _ (member :: members)]

theorem itemChars_compact (level : Nat) :
    ∀ items, compact.itemChars level items = compactItems items
  | [] => rfl
  | [item] => by simp [itemChars, compactItems, chars_compact _ item]
  | item :: next :: items => by
      simp [itemChars, compactItems, chars_compact _ item, itemChars_compact _ (next :: items)]

theorem memberChars_compact (level : Nat) :
    ∀ members, compact.memberChars level members = compactMembers members
  | [] => rfl
  | [(name, value)] => by simp [memberChars, compactMembers, chars_compact _ value]
  | (name, value) :: next :: members => by
      simp [memberChars, compactMembers, chars_compact _ value, memberChars_compact _ (next :: members)]

end

mutual

theorem chars_pretty (level : Nat) : ∀ value, pretty.chars level value = prettyChars level value
  | .null => rfl
  | .bool true => rfl
  | .bool false => rfl
  | .number literal => rfl
  | .string text => rfl
  | .array [] => rfl
  | .array (item :: items) => by
      simp [chars, prettyChars, itemChars_pretty _ (item :: items)]
  | .object [] => rfl
  | .object (member :: members) => by
      simp [chars, prettyChars, memberChars_pretty _ (member :: members)]

theorem itemChars_pretty (level : Nat) :
    ∀ items, pretty.itemChars level items = prettyItems level items
  | [] => rfl
  | [item] => by simp [itemChars, prettyItems, chars_pretty _ item]
  | item :: next :: items => by
      simp [itemChars, prettyItems, chars_pretty _ item, itemChars_pretty _ (next :: items)]

theorem memberChars_pretty (level : Nat) :
    ∀ members, pretty.memberChars level members = prettyMembers level members
  | [] => rfl
  | [(name, value)] => by simp [memberChars, prettyMembers, chars_pretty _ value]
  | (name, value) :: next :: members => by
      simp [memberChars, prettyMembers, chars_pretty _ value, memberChars_pretty _ (next :: members)]

end

/-! ### Reading back -/

variable (l : Layout)

-- The recursion follows the written value. The fuel stays above the length of the text that is
-- left: a level takes two steps, to the items and to the first of them, and has two brackets.
mutual

/-- A value is read whole when what stands behind it continues no number. -/
theorem parseValue_chars (level : Nat) : ∀ (value : Value) (fuel : Nat) (rest : List Char),
    value.WellFormed → EndsNumber rest → (l.chars level value).length < fuel →
    parseValue fuel (l.chars level value ++ rest) = some (value, rest)
  | _, 0, _, _, _, hfuel => absurd hfuel (Nat.not_lt_zero _)
  | .null, fuel + 1, rest, _, _, _ => rfl
  | .bool true, fuel + 1, rest, _, _, _ => rfl
  | .bool false, fuel + 1, rest, _, _, _ => rfl
  | .number literal, fuel + 1, rest, .number h, hrest, _ => parseValue_number fuel h hrest
  | .string _, fuel + 1, rest, .string s, _, _ => parseValue_string fuel s rest
  | .array [], fuel + 1, rest, _, _, _ => rfl
  | .array (item :: items), fuel + 1, rest, h, _, hfuel => by
      simp only [chars, List.cons_append, List.length_cons, List.length_append,
        List.append_assoc, List.length_nil] at hfuel ⊢
      exact parseValue_array (parseItems_itemChars (level + 1) (item :: items) fuel
        (l.newline level) rest (by simp) h (l.newline_blank level) (by omega))
  | .object [], fuel + 1, rest, _, _, _ => rfl
  | .object (member :: members), fuel + 1, rest, h, _, hfuel => by
      simp only [chars, List.cons_append, List.length_cons, List.length_append,
        List.append_assoc, List.length_nil] at hfuel ⊢
      exact parseValue_object (parseMembers_memberChars (level + 1) (member :: members) fuel
        (l.newline level) rest (by simp) h (l.newline_blank level) (by omega))

/-- Items are read up to the closing bracket. -/
theorem parseItems_itemChars (level : Nat) :
    ∀ (items : List Value) (fuel : Nat) (blank rest : List Char),
    items ≠ [] → (Value.array items).WellFormed → Blank blank →
    (l.itemChars level items).length + 1 < fuel →
    parseItems fuel (l.itemChars level items ++ (blank ++ ']' :: rest)) = some (items, rest)
  | [], _, _, _, hsome, _, _, _ => absurd rfl hsome
  | _, 0, _, _, _, _, _, hfuel => absurd hfuel (Nat.not_lt_zero _)
  | [item], fuel + 1, blank, rest, _, h, hblank, hfuel => by
      obtain ⟨hitem, -⟩ := h.of_array_cons
      simp only [itemChars, List.append_assoc, List.length_append] at hfuel ⊢
      rw [parseItems_append (l.newline_blank level)]
      have hread := parseValue_chars level item fuel (blank ++ ']' :: rest) hitem
        (endsNumber_append hblank (endsNumber_cons_iff.2 (by decide))) (by omega)
      exact parseItems_last hread (skipBlank_append hblank _)
  | item :: next :: items, fuel + 1, blank, rest, _, h, hblank, hfuel => by
      obtain ⟨hitem, hitems⟩ := h.of_array_cons
      simp only [itemChars, List.append_assoc, List.cons_append, List.length_append,
        List.length_cons] at hfuel ⊢
      rw [parseItems_append (l.newline_blank level)]
      have hread := parseValue_chars level item fuel
        (',' :: (l.itemChars level (next :: items) ++ (blank ++ ']' :: rest)))
        hitem (endsNumber_cons_iff.2 (by decide)) (by omega)
      have hothers := parseItems_itemChars level (next :: items) fuel blank rest (by simp)
        hitems hblank (by omega)
      exact parseItems_more hread rfl hothers

/-- Members are read up to the closing brace. -/
theorem parseMembers_memberChars (level : Nat) :
    ∀ (members : List (Option String × Value)) (fuel : Nat) (blank rest : List Char),
    members ≠ [] → (Value.object members).WellFormed → Blank blank →
    (l.memberChars level members).length + 1 < fuel →
    parseMembers fuel (l.memberChars level members ++ (blank ++ '\x7d' :: rest)) =
      some (members, rest)
  | [], _, _, _, hsome, _, _, _ => absurd rfl hsome
  | _, 0, _, _, _, _, _, hfuel => absurd hfuel (Nat.not_lt_zero _)
  | [(name, value)], fuel + 1, blank, rest, _, h, hblank, hfuel => by
      obtain ⟨⟨text, rfl⟩, hvalue, -⟩ := h.of_object_cons
      simp only [memberChars, List.append_assoc, List.cons_append, List.length_append,
        List.length_cons] at hfuel ⊢
      rw [parseMembers_append (l.newline_blank level)]
      have hread := parseValue_chars level value fuel (blank ++ '\x7d' :: rest) hvalue
        (endsNumber_append hblank (endsNumber_cons_iff.2 (by decide))) (by omega)
      rw [← parseValue_append l.gap_blank] at hread
      exact parseMembers_last hread (skipBlank_append hblank _)
  | (name, value) :: next :: members, fuel + 1, blank, rest, _, h, hblank, hfuel => by
      obtain ⟨⟨text, rfl⟩, hvalue, hmembers⟩ := h.of_object_cons
      simp only [memberChars, List.append_assoc, List.cons_append, List.length_append,
        List.length_cons] at hfuel ⊢
      rw [parseMembers_append (l.newline_blank level)]
      have hread := parseValue_chars level value fuel
        (',' :: (l.memberChars level (next :: members) ++ (blank ++ '\x7d' :: rest)))
        hvalue (endsNumber_cons_iff.2 (by decide)) (by omega)
      rw [← parseValue_append l.gap_blank] at hread
      have hothers := parseMembers_memberChars level (next :: members) fuel blank rest (by simp)
        hmembers hblank (by omega)
      exact parseMembers_more hread rfl hothers

end

/-- What is written in any layout is read back. -/
theorem parseChars_chars {value : Value} (h : value.WellFormed) :
    parseChars (l.chars 0 value) = some value := by
  have hread := l.parseValue_chars 0 value ((l.chars 0 value).length + 1) [] h endsNumber_nil
    (by omega)
  rw [List.append_nil] at hread
  rw [parseChars, hread]
  rfl

end Layout

theorem parse_compact (h : value.WellFormed) : parse value.compact = some value := by
  rw [parse, Value.compact, String.toList_ofList, ← Layout.chars_compact 0]
  exact Layout.compact.parseChars_chars h

theorem parse_pretty (h : value.WellFormed) : parse value.pretty = some value := by
  rw [parse, Value.pretty, String.toList_ofList, ← Layout.chars_pretty]
  exact Layout.pretty.parseChars_chars h

end BenchBoard.Json
