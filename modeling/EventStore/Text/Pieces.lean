/-! Lists of texts written as one text with a separator between them. Cutting always gives
back what was joined, as long as no piece holds the separator and there is a piece at all. A text
is a list of characters here, or of bytes. -/

namespace EventStore.Text

variable {α : Type} [DecidableEq α]

/-- The pieces between separators. A text without a separator is a single piece. -/
def pieces (separator : α) : List α → List (List α)
  | [] => [[]]
  | char :: rest =>
    if char = separator then [] :: pieces separator rest
    else
      match pieces separator rest with
      | [] => [[char]]
      | first :: others => (char :: first) :: others

def joined (separator : α) : List (List α) → List α
  | [] => []
  | [piece] => piece
  | piece :: next :: others => piece ++ separator :: joined separator (next :: others)

theorem pieces_ne_nil (separator : α) (text : List α) : pieces separator text ≠ [] := by
  cases text with
  | nil => simp [pieces]
  | cons char rest =>
    unfold pieces
    split
    · simp
    · split <;> simp

omit [DecidableEq α] in
theorem joined_cons (separator : α) (piece : List α) {others : List (List α)}
    (some : others ≠ []) :
    joined separator (piece :: others) = piece ++ separator :: joined separator others := by
  cases others with
  | nil => exact absurd rfl some
  | cons next others => rfl

@[simp] theorem joined_pieces (separator : α) (text : List α) :
    joined separator (pieces separator text) = text := by
  induction text with
  | nil => rfl
  | cons char rest ih =>
    unfold pieces
    split
    · rw [joined_cons separator [] (pieces_ne_nil separator rest), ih]
      simp_all
    · cases cut : pieces separator rest with
      | nil => exact absurd cut (pieces_ne_nil separator rest)
      | cons first others =>
        rw [cut] at ih
        cases others with
        | nil => simpa [joined] using ih
        | cons next others => simpa [joined] using ih

/-- A text without the separator is its own only piece. -/
theorem pieces_of_not_mem (separator : α) {text : List α} (free : separator ∉ text) :
    pieces separator text = [text] := by
  induction text with
  | nil => rfl
  | cons char rest ih =>
    have distinct : char ≠ separator := fun same => free (by simp [same])
    simp [pieces, distinct, ih (fun member => free (List.mem_cons_of_mem _ member))]

theorem not_mem_of_mem_pieces (separator : α) {piece text : List α}
    (member : piece ∈ pieces separator text) : separator ∉ piece := by
  induction text generalizing piece with
  | nil => simp_all [pieces]
  | cons char rest ih =>
    rw [pieces] at member
    split at member
    next =>
      rcases List.mem_cons.mp member with rfl | later
      · exact List.not_mem_nil
      · exact ih later
    next different =>
      cases cut : pieces separator rest with
      | nil => exact absurd cut (pieces_ne_nil separator rest)
      | cons first others =>
        simp only [cut] at member ih
        rcases List.mem_cons.mp member with rfl | later
        · have free := ih List.mem_cons_self
          simp [free, Ne.symm different]
        · exact ih (List.mem_cons_of_mem _ later)

/-- A separator ends the piece before it, whatever follows. -/
theorem pieces_append (separator : α) {piece : List α} (free : separator ∉ piece)
    (rest : List α) :
    pieces separator (piece ++ separator :: rest) = piece :: pieces separator rest := by
  induction piece with
  | nil => simp [pieces]
  | cons char piece ih =>
    have distinct : char ≠ separator := fun same => free (by simp [same])
    simp [pieces, distinct, ih (fun member => free (List.mem_cons_of_mem _ member))]

/-- Pieces that were joined come apart at the same places. -/
theorem pieces_joined (separator : α) {texts : List (List α)} (some : texts ≠ [])
    (free : ∀ text ∈ texts, separator ∉ text) :
    pieces separator (joined separator texts) = texts := by
  induction texts with
  | nil => exact absurd rfl some
  | cons text others ih =>
    have first := free text List.mem_cons_self
    cases others with
    | nil => exact pieces_of_not_mem separator first
    | cons next others =>
      rw [joined_cons separator text (by simp), pieces_append separator first,
        ih (by simp) (fun other member => free other (List.mem_cons_of_mem _ member))]

/-- A separator divides the pieces before it from those after it. -/
theorem pieces_append_separator (separator : α) (before after : List α) :
    pieces separator (before ++ separator :: after) =
      pieces separator before ++ pieces separator after := by
  induction before with
  | nil => simp [pieces]
  | cons char before ih =>
    by_cases same : char = separator
    · simp [pieces, same, ih]
    · cases cut : pieces separator before with
      | nil => exact absurd cut (pieces_ne_nil separator before)
      | cons first others => simp [pieces, same, ih, cut]

omit [DecidableEq α] in
theorem joined_append (separator : α) {left right : List (List α)} (leftSome : left ≠ [])
    (rightSome : right ≠ []) :
    joined separator (left ++ right) = joined separator left ++ separator :: joined separator right := by
  induction left with
  | nil => exact absurd rfl leftSome
  | cons piece left ih =>
    cases left with
    | nil => exact joined_cons separator piece rightSome
    | cons next left =>
      rw [List.cons_append, joined_cons separator piece (by simp), ih (by simp),
        joined_cons separator piece (by simp)]
      simp

/-- A text is a piece of another exactly if it is all of it, begins it before a separator, ends it
after one, or stands between two. -/
theorem mem_pieces_iff (separator : α) {piece text : List α} (free : separator ∉ piece) :
    piece ∈ pieces separator text ↔
      text = piece ∨ piece ++ [separator] <+: text ∨ separator :: piece <:+ text ∨
        separator :: piece ++ [separator] <:+: text := by
  have alone := pieces_of_not_mem separator free
  constructor
  · intro member
    obtain ⟨left, right, cut⟩ := List.append_of_mem member
    have whole := joined_pieces separator text
    rw [cut] at whole
    by_cases first : left = [] <;> by_cases last : right = []
    · subst first last
      exact .inl whole.symm
    · subst first
      refine .inr (.inl ⟨joined separator right, ?_⟩)
      rw [← whole, List.nil_append, joined_cons separator piece last]
      simp
    · subst last
      refine .inr (.inr (.inl ⟨joined separator left, ?_⟩))
      rw [← whole, joined_append separator first (by simp)]
      rfl
    · refine .inr (.inr (.inr ⟨joined separator left, joined separator right, ?_⟩))
      rw [← whole, joined_append separator first (by simp), joined_cons separator piece last]
      simp
  · rintro (rfl | ⟨after, rfl⟩ | ⟨before, rfl⟩ | ⟨before, after, rfl⟩)
    · simp [alone]
    · simp [pieces_append_separator, alone]
    · simp [pieces_append_separator, alone]
    · simp [pieces_append_separator, alone]

def splitText (separator : Char) (text : String) : List String :=
  (pieces separator text.toList).map String.ofList

def joinTexts (separator : Char) (texts : List String) : String :=
  String.ofList (joined separator (texts.map String.toList))

end EventStore.Text
