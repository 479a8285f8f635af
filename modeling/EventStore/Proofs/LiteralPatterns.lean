import EventStore.Proofs.LikePatterns

/-! What patterns mean, said without a matcher, and what that makes of literals with their special
characters escaped: neither their own characters nor a percent sign beside them can be mistaken. -/

namespace EventStore.Proofs.LiteralPatterns
open Sql LikePatterns

/-- The texts a pattern stands for. What a percent sign takes is open. -/
inductive Accepts : List Char → List Char → Prop where
  | nothing : Accepts [] []
  | plain {char pattern text} (ordinary : ¬ isSpecial char = true) (rest : Accepts pattern text) :
      Accepts (char :: pattern) (char :: text)
  | escaped {char pattern text} (rest : Accepts pattern text) :
      Accepts (escapeChar :: char :: pattern) (char :: text)
  | one {char pattern text} (rest : Accepts pattern text) : Accepts ('_' :: pattern) (char :: text)
  | many {before pattern text} (rest : Accepts pattern text) :
      Accepts ('%' :: pattern) (before ++ text)

/-- No escape character is left at the end without one to escape. -/
inductive Complete : List Char → Prop where
  | nil : Complete []
  | cons {char pattern} (meant : char ≠ escapeChar) (rest : Complete pattern) :
      Complete (char :: pattern)
  | escaped {char pattern} (rest : Complete pattern) : Complete (escapeChar :: char :: pattern)

theorem like_underscore_cons {pattern text : List Char} :
    like ('_' :: pattern) text = true ↔
      ∃ char after, text = char :: after ∧ like pattern after = true := by
  have meant : ¬ '_' = escapeChar := by decide
  have single : ¬ '_' = '%' := by decide
  rw [like.eq_def]
  cases text with
  | nil => simp [meant, single]
  | cons first text => simp [meant, single, and_assoc]

theorem like_of_accepts {pattern text : List Char} (accepts : Accepts pattern text) :
    like pattern text = true := by
  induction accepts with
  | nothing => exact like_nil.mpr rfl
  | plain ordinary _ ih => exact (like_plain ordinary).mpr ⟨_, rfl, ih⟩
  | escaped _ ih => exact like_escaped.mpr ⟨_, rfl, ih⟩
  | one _ ih => exact like_underscore_cons.mpr ⟨_, _, rfl, ih⟩
  | many _ ih => exact like_percent_cons.mpr ⟨_, _, rfl, ih⟩

theorem accepts_of_like {pattern text : List Char} (matched : like pattern text = true) :
    Accepts pattern text := by
  cases pattern with
  | nil =>
    rw [like_nil.mp matched]
    exact .nothing
  | cons symbol pattern =>
    by_cases escape : symbol = escapeChar
    · subst escape
      cases pattern with
      | nil => simp [like.eq_def] at matched
      | cons char pattern =>
        obtain ⟨after, rfl, later⟩ := like_escaped.mp matched
        exact .escaped (accepts_of_like later)
    · by_cases percent : symbol = '%'
      · subst percent
        obtain ⟨before, after, rfl, later⟩ := like_percent_cons.mp matched
        exact .many (accepts_of_like later)
      · by_cases underscore : symbol = '_'
        · subst underscore
          obtain ⟨char, after, rfl, later⟩ := like_underscore_cons.mp matched
          exact .one (accepts_of_like later)
        · have ordinary : ¬ isSpecial symbol = true := by
            simp [isSpecial, escape, percent, underscore]
          obtain ⟨after, rfl, later⟩ := (like_plain ordinary).mp matched
          exact .plain ordinary (accepts_of_like later)
termination_by pattern.length

theorem Accepts.complete {pattern text : List Char} (accepts : Accepts pattern text) :
    Complete pattern := by
  induction accepts with
  | nothing => exact .nil
  | plain ordinary _ ih =>
    apply Complete.cons _ ih
    rintro rfl
    exact ordinary rfl
  | escaped _ ih => exact .escaped ih
  | one _ ih => exact .cons (by decide) ih
  | many _ ih => exact .cons (by decide) ih

theorem complete_of_like {pattern text : List Char} (matched : like pattern text = true) :
    Complete pattern := (accepts_of_like matched).complete

theorem literalPattern_injective : Function.Injective literalPattern := by
  intro literal other same
  have own : like (literalPattern literal) literal = true := like_literalPattern.mpr rfl
  rw [same] at own
  exact like_literalPattern.mp own

/-- An escaped literal accepts itself alone, and with percent signs beside it exactly the texts it
begins, ends or occurs in. Different literals have different patterns, and none of these patterns
lacks a character at its end. -/
theorem escaped_literals_match_exactly (literal text : List Char) :
    (∀ pattern, like pattern text = true ↔ Accepts pattern text) ∧
      (like (literalPattern literal) text = true ↔ text = literal) ∧
      (like (literalPattern literal ++ ['%']) text = true ↔ literal <+: text) ∧
      (like ('%' :: literalPattern literal) text = true ↔ literal <:+ text) ∧
      (like ('%' :: literalPattern literal ++ ['%']) text = true ↔ literal <:+: text) ∧
      Function.Injective literalPattern ∧
      Complete (literalPattern literal) ∧ Complete (literalPattern literal ++ ['%']) ∧
      Complete ('%' :: literalPattern literal) ∧
      Complete ('%' :: literalPattern literal ++ ['%']) := by
  refine ⟨fun pattern => ⟨accepts_of_like, like_of_accepts⟩, like_literalPattern, like_beginning,
    like_ending, like_inside, literalPattern_injective, ?_, ?_, ?_, ?_⟩
  · exact complete_of_like (like_literalPattern.mpr (rfl : literal = literal))
  · exact complete_of_like (like_beginning.mpr (List.prefix_refl literal))
  · exact complete_of_like (like_ending.mpr (List.suffix_refl literal))
  · exact complete_of_like (like_inside.mpr (List.infix_refl literal))

end EventStore.Proofs.LiteralPatterns
