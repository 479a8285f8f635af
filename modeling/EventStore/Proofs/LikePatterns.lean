import EventStore.Sql.Like

/-! What the patterns built for literals accept. An escaped literal takes exactly itself from the
front of a text, and a percent sign takes anything, so every pattern is read off piece by piece. -/

namespace EventStore.Proofs.LikePatterns
open Sql

@[simp] theorem like_nil {text : List Char} : like [] text = true ↔ text = [] := by
  simp [like]

theorem like_escaped {char : Char} {pattern text : List Char} :
    like (escapeChar :: char :: pattern) text = true ↔
      ∃ after, text = char :: after ∧ like pattern after = true := by
  rw [like.eq_def]
  cases text with
  | nil => simp
  | cons first text => simp [and_assoc]

theorem like_plain {char : Char} {pattern text : List Char} (plain : ¬ isSpecial char = true) :
    like (char :: pattern) text = true ↔ ∃ after, text = char :: after ∧ like pattern after = true := by
  simp only [isSpecial, Bool.or_eq_true, decide_eq_true_eq, not_or] at plain
  obtain ⟨⟨percent, underscore⟩, escape⟩ := plain
  rw [like.eq_def]
  cases text with
  | nil => simp [percent, escape]
  | cons first text => simp [percent, underscore, escape, and_assoc]

/-- The percent sign stands for any beginning of the text, the empty one included. -/
theorem like_percent_cons {pattern text : List Char} :
    like ('%' :: pattern) text = true ↔
      ∃ before after, text = before ++ after ∧ like pattern after = true := by
  have wild : ¬ '%' = escapeChar := by decide
  induction text with
  | nil =>
    rw [like.eq_def]
    simp [wild, and_assoc]
  | cons char text ih =>
    rw [like.eq_def]
    simp only [if_neg wild, if_true, Bool.or_eq_true, ih]
    constructor
    · rintro (now | ⟨before, after, rfl, later⟩)
      · exact ⟨[], char :: text, rfl, now⟩
      · exact ⟨char :: before, after, rfl, later⟩
    · rintro ⟨before, after, joined, later⟩
      cases before with
      | nil => exact .inl (by simpa [joined] using later)
      | cons first before =>
        obtain ⟨rfl, rfl⟩ := List.cons.inj joined
        exact .inr ⟨before, after, rfl, later⟩

/-- One character of a literal takes itself, whether it had to be escaped or not. -/
theorem like_literal_cons {char : Char} {pattern text : List Char} :
    like (literalPattern [char] ++ pattern) text = true ↔
      ∃ after, text = char :: after ∧ like pattern after = true := by
  by_cases special : isSpecial char = true
  · have shape : literalPattern [char] ++ pattern = escapeChar :: char :: pattern := by
      simp [literalPattern, special]
    rw [shape, like_escaped]
  · have shape : literalPattern [char] ++ pattern = char :: pattern := by
      simp [literalPattern, special]
    rw [shape, like_plain special]

/-- An escaped literal takes exactly itself, whatever pattern follows. -/
theorem like_literalPattern_append {literal rest text : List Char} :
    like (literalPattern literal ++ rest) text = true ↔
      ∃ after, text = literal ++ after ∧ like rest after = true := by
  induction literal generalizing text with
  | nil => simp [literalPattern]
  | cons char literal ih =>
    have shape : literalPattern (char :: literal) ++ rest =
        literalPattern [char] ++ (literalPattern literal ++ rest) := by
      simp [literalPattern]
    rw [shape, like_literal_cons]
    constructor
    · rintro ⟨after, rfl, matched⟩
      obtain ⟨remaining, rfl, later⟩ := ih.mp matched
      exact ⟨remaining, rfl, later⟩
    · rintro ⟨remaining, rfl, matched⟩
      exact ⟨literal ++ remaining, rfl, ih.mpr ⟨remaining, rfl, matched⟩⟩

theorem like_literalPattern {literal text : List Char} :
    like (literalPattern literal) text = true ↔ text = literal := by
  have pieces : like (literalPattern literal ++ []) text = true ↔
      ∃ after, text = literal ++ after ∧ like [] after = true := like_literalPattern_append
  simpa using pieces

theorem like_beginning {literal text : List Char} :
    like (literalPattern literal ++ ['%']) text = true ↔ literal <+: text := by
  rw [like_literalPattern_append]
  constructor
  · rintro ⟨after, rfl, _⟩
    exact List.prefix_append literal after
  · rintro ⟨after, rfl⟩
    exact ⟨after, rfl, like_percent_cons.mpr ⟨after, [], by simp, by simp⟩⟩

theorem like_ending {literal text : List Char} :
    like ('%' :: literalPattern literal) text = true ↔ literal <:+ text := by
  rw [like_percent_cons]
  constructor
  · rintro ⟨before, after, rfl, matched⟩
    exact ⟨before, by rw [like_literalPattern.mp matched]⟩
  · rintro ⟨before, rfl⟩
    exact ⟨before, literal, rfl, like_literalPattern.mpr rfl⟩

theorem like_inside {literal text : List Char} :
    like ('%' :: literalPattern literal ++ ['%']) text = true ↔ literal <:+: text := by
  rw [List.cons_append, like_percent_cons]
  constructor
  · rintro ⟨before, after, rfl, matched⟩
    obtain ⟨remaining, rfl⟩ := like_beginning.mp matched
    exact ⟨before, remaining, by simp⟩
  · rintro ⟨before, remaining, rfl⟩
    exact ⟨before, literal ++ remaining, by simp, like_beginning.mpr ⟨remaining, rfl⟩⟩

/-! A comma is an ordinary character of a pattern, so it joins the literal beside it. -/

theorem literalPattern_comma (literal : List Char) :
    literalPattern literal ++ [',', '%'] = literalPattern (literal ++ [',']) ++ ['%'] := by
  simp [literalPattern, isSpecial, escapeChar]

theorem like_leading {literal text : List Char} :
    like (literalPattern literal ++ [',', '%']) text = true ↔ literal ++ [','] <+: text := by
  rw [literalPattern_comma]
  exact like_beginning

theorem like_trailing {literal text : List Char} :
    like (['%', ','] ++ literalPattern literal) text = true ↔ ',' :: literal <:+ text := by
  change like ('%' :: literalPattern (',' :: literal)) text = true ↔ _
  exact like_ending

theorem like_between {literal text : List Char} :
    like (['%', ','] ++ literalPattern literal ++ [',', '%']) text = true ↔
      ',' :: literal ++ [','] <:+: text := by
  rw [List.append_assoc, literalPattern_comma]
  change like ('%' :: literalPattern (',' :: literal ++ [',']) ++ ['%']) text = true ↔ _
  exact like_inside

end EventStore.Proofs.LikePatterns
