import BenchBoard.Proofs.Csv.RoundTrip
/-!
# BenchBoard.Proofs.Csv.Quoting

**What can stand between two quotes.** The writer decides by a parity automaton over runs of
backslashes whether a text can be written between quotes of one kind, and the reader takes the
characters between quotes apart into single ones and pairs. Both come to the same for every text
and whatever stands around the quotes (`quotedAt_escape_iff`): an escaped text is a body of the
grammar exactly when the automaton accepts it (`exists_body_escape_iff`), and a body is all that the
reader reads (`quotedAt_eq_some_iff`).
-/

namespace BenchBoard.Csv

open BenchBoard.Text

variable {q : Quote} {c : Char} {text cs : List Char}

/-! ### Escaped texts as bodies -/

/-- A body that begins with a backslash begins with a pair. -/
theorem Body.exists_of_written_pair {body : Body q} (h : body.written = '\\' :: c :: cs) :
    ∃ others : Body q, others.written = cs := by
  cases body with
  | nil => cases h
  | cons p others =>
      cases p with
      | plain d ordinary => exact absurd (List.cons.inj h).1 ordinary.2
      | pair d => exact ⟨others, (List.cons.inj (List.cons.inj h).2).2⟩

/-- A backslash alone is no pair. -/
theorem Body.written_ne_backslash (body : Body q) : body.written ≠ ['\\'] := by
  intro h
  cases body with
  | nil => cases h
  | cons p others =>
      cases p with
      | plain d ordinary => exact ordinary.2 (List.cons.inj h).1
      | pair d => cases (List.cons.inj h).2

/-- A body that begins with another character does not begin with the quote. -/
theorem Body.exists_of_written_plain {body : Body q} (hc : c ≠ '\\')
    (h : body.written = c :: cs) : c ≠ q.char ∧ ∃ others : Body q, others.written = cs := by
  cases body with
  | nil => cases h
  | cons p others =>
      cases p with
      | plain d ordinary =>
          obtain ⟨rfl, htail⟩ := List.cons.inj h
          exact ⟨ordinary.1, others, htail⟩
      | pair d => exact absurd (List.cons.inj h).1.symm hc

/-- Only a text without runs of odd length is written as a body: after a run of even length, and
after one of odd length, whose last backslash is still to be paired. -/
theorem escapableFrom_of_written (text : List Char) :
    (∀ body : Body q, body.written = escape q.char text →
      escapableFrom q.char false text = true) ∧
    (∀ body : Body q, body.written = '\\' :: escape q.char text →
      escapableFrom q.char true text = true) := by
  induction text with
  | nil => exact ⟨fun _ _ => rfl, fun body h => absurd h body.written_ne_backslash⟩
  | cons c text ih =>
      by_cases hb : c = '\\'
      · subst hb
        rw [escape_cons_other (Ne.symm q.char_ne_backslash), escapableFrom_backslash,
          escapableFrom_backslash]
        refine ⟨ih.2, fun body h => ?_⟩
        obtain ⟨others, hothers⟩ := Body.exists_of_written_pair h
        exact ih.1 others hothers
      · by_cases hq : c = q.char
        · subst hq
          rw [escape_cons_quote, escapableFrom_quote, escapableFrom_quote]
          refine ⟨fun body h => ?_, fun body h => ?_⟩
          · obtain ⟨others, hothers⟩ := Body.exists_of_written_pair h
            exact ih.1 others hothers
          · -- The pending backslash pairs with the one in front of the quote, which is then bare.
            obtain ⟨others, hothers⟩ := Body.exists_of_written_pair h
            exact absurd rfl (Body.exists_of_written_plain q.char_ne_backslash hothers).1
        · rw [escape_cons_other hq, escapableFrom_other false hq hb,
            escapableFrom_other true hq hb]
          refine ⟨fun body h => ?_, fun body h => ?_⟩
          · obtain ⟨-, others, hothers⟩ := Body.exists_of_written_plain hb h
            exact ih.1 others hothers
          · obtain ⟨others, hothers⟩ := Body.exists_of_written_pair h
            exact ih.1 others hothers

/-- An escaped text is a body exactly when the writer can use it. -/
theorem exists_body_escape_iff :
    (∃ body : Body q, body.written = escape q.char text) ↔ escapable q.char text = true := by
  constructor
  · intro h
    obtain ⟨body, hwritten⟩ := h
    exact (escapableFrom_of_written text).1 body hwritten
  · intro h
    obtain ⟨body, hwritten, -⟩ := exists_body_of_escapable h
    exact ⟨body, hwritten⟩

/-- Whatever is read can be written in the same quotes. -/
theorem escapable_of_quotedBody {rest : List Char} (h : quotedBody q.char cs = some (text, rest)) :
    escapable q.char text = true := by
  obtain ⟨body, -, rfl⟩ := exists_body_of_quotedBody h
  exact escapable_value body

/-- What the writer can use is read up to the quote behind it. -/
theorem quotedBody_escape (h : escapable q.char text = true) (after : List Char) :
    quotedBody q.char (escape q.char text ++ q.char :: after) = some (text, after) := by
  obtain ⟨body, hwritten, rfl⟩ := exists_body_of_escapable h
  rw [← hwritten, quotedBody_written]

/-! ### Reading in the middle of a line -/

/-- The field that a quote in this place of a line opens, and the place behind the quote that
closes it. -/
def quotedAt (line : List Char) (place : Nat) (quote : Char) : Option (List Char × Nat) :=
  (quotedBody quote (line.drop (place + 1))).map fun (text, rest) =>
    (text, line.length - rest.length)

/-- A field that is opened in a line is closed where its body ends. -/
theorem quotedAt_eq_some_iff {before content : List Char} {place : Nat} :
    quotedAt (before ++ q.char :: cs) before.length q.char = some (content, place) ↔
      ∃ (body : Body q) (rest : List Char), cs = body.written ++ q.char :: rest ∧
        content = body.value ∧ place = before.length + body.written.length + 2 := by
  have hdrop : (before ++ q.char :: cs).drop (before.length + 1) = cs := by
    rw [← List.drop_drop, List.drop_left]
    rfl
  rw [quotedAt, hdrop, Option.map_eq_some_iff]
  constructor
  · intro h
    obtain ⟨⟨content, rest⟩, hread, hplace⟩ := h
    cases hplace
    obtain ⟨body, rfl, rfl⟩ := exists_body_of_quotedBody hread
    refine ⟨body, rest, rfl, rfl, ?_⟩
    simp only [List.length_append, List.length_cons]
    omega
  · intro h
    obtain ⟨body, rest, rfl, rfl, rfl⟩ := h
    refine ⟨(body.value, rest), quotedBody_written body rest, Prod.ext rfl ?_⟩
    simp only [List.length_append, List.length_cons]
    omega

/-- **The automaton decides what can stand between quotes.** A text is escaped, put between two
quotes of one kind and surrounded by whatever. The reader that starts at the first of these quotes
gives the text back and ends behind the second one exactly when the automaton accepts the text.
Otherwise it ends somewhere else or not at all, and gives another text. -/
theorem quotedAt_escape_iff (q : Quote) (before text after : List Char) :
    let line := before ++ q.char :: (escape q.char text ++ q.char :: after)
    let closed := before.length + (escape q.char text).length + 2
    (quotedBody q.char (escape q.char text ++ q.char :: after) = some (text, after) ↔
      escapable q.char text = true) ∧
    (quotedAt line before.length q.char = some (text, closed) ↔ escapable q.char text = true) ∧
    ((∃ place, quotedAt line before.length q.char = some (text, place)) ↔
      escapable q.char text = true) ∧
    ((∃ content, quotedAt line before.length q.char = some (content, closed)) ↔
      escapable q.char text = true) := by
  intro line closed
  have hread : escapable q.char text = true →
      quotedAt line before.length q.char = some (text, closed) := by
    intro h
    obtain ⟨body, hwritten, hvalue⟩ := exists_body_of_escapable h
    exact quotedAt_eq_some_iff.2 ⟨body, after, by rw [hwritten], hvalue.symm, by rw [hwritten]⟩
  have htext : (∃ place, quotedAt line before.length q.char = some (text, place)) →
      escapable q.char text = true := by
    intro h
    obtain ⟨place, hplace⟩ := h
    obtain ⟨body, -, -, rfl, -⟩ := quotedAt_eq_some_iff.1 hplace
    exact escapable_value body
  have hclosed : (∃ content, quotedAt line before.length q.char = some (content, closed)) →
      escapable q.char text = true := by
    intro h
    obtain ⟨content, hcontent⟩ := h
    obtain ⟨body, rest, hcs, -, hplace⟩ := quotedAt_eq_some_iff.1 hcontent
    have hlength : (escape q.char text).length = body.written.length := by
      simp only [closed] at hplace
      omega
    exact exists_body_escape_iff.1 ⟨body, (List.append_inj_left hcs hlength).symm⟩
  exact ⟨⟨escapable_of_quotedBody, fun h => quotedBody_escape h after⟩,
    ⟨fun h => htext ⟨closed, h⟩, hread⟩, ⟨htext, fun h => ⟨closed, hread h⟩⟩,
    ⟨hclosed, fun h => ⟨text, hread h⟩⟩⟩

/-- The last backslash of the text takes its closing quote away, and the reader runs on into what
follows: one quote further it ends with another text. -/
example : escapable '"' ['a', '\\'] = false ∧
    quotedAt ('"' :: (escape '"' ['a', '\\'] ++ '"' :: [',', '"'])) 0 '"' =
      some (['a', '"', ','], 6) := by
  decide

end BenchBoard.Csv
