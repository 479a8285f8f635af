import EventStore.Sql.Dialect

/-! The words of a statement. A text in quotes goes on to the first quote that no second one
follows, so a literal written with its quotes doubled is one word whatever it holds. -/

namespace EventStore.Sql

inductive Token
  | word (letters : String)
  | symbol (char : Char)
  /-- A text in double quotes, which names a column or a table. -/
  | name (text : String)
  /-- A text in single quotes, with each doubled quote as one. -/
  | literal (text : String)
  /-- A text in quotes that the statement ends in. -/
  | unclosed (text : String)
  deriving DecidableEq, Repr

/-- Where the reading of a statement stands. -/
inductive Scanner
  | gap
  | word (letters : List Char)
  | quoted (mark : Char) (text : List Char)
  /-- A quote has come that ends the text, unless the next character is a quote as well. -/
  | closing (mark : Char) (text : List Char)
  deriving DecidableEq, Repr

namespace Scanner

/-- The token that is complete if nothing more comes. -/
def leave : Scanner → List Token
  | gap => []
  | word letters => [.word (String.ofList letters)]
  | quoted _ text => [.unclosed (String.ofList text)]
  | closing mark text =>
    [if mark = '\'' then .literal (String.ofList text) else .name (String.ofList text)]

def enter (char : Char) : Scanner × List Token :=
  if char.isWhitespace then (gap, [])
  else if char.isAlpha then (word [char], [])
  else if char = '\'' || char = '"' then (quoted char [], [])
  else (gap, [.symbol char])

/-- One more character, with the tokens that are complete by it. -/
def next (scanner : Scanner) (char : Char) : Scanner × List Token :=
  match scanner with
  | quoted mark text =>
    if char = mark then (closing mark text, []) else (quoted mark (text ++ [char]), [])
  | closing mark text =>
    if char = mark then (quoted mark (text ++ [mark]), [])
    else ((enter char).1, (closing mark text).leave ++ (enter char).2)
  | word letters =>
    if char.isAlpha then (word (letters ++ [char]), [])
    else ((enter char).1, (word letters).leave ++ (enter char).2)
  | gap => enter char

def run (scanner : Scanner) : List Char → Scanner × List Token
  | [] => (scanner, [])
  | char :: text =>
    (((scanner.next char).1.run text).1,
      (scanner.next char).2 ++ ((scanner.next char).1.run text).2)

def scan (scanner : Scanner) (text : List Char) : List Token :=
  (scanner.run text).2 ++ (scanner.run text).1.leave

/-- Between the quotes of a string literal, or at one of them. -/
def inLiteral : Scanner → Bool
  | quoted mark _ | closing mark _ => mark = '\''
  | _ => false

/-- The characters that are read outside of string literals. -/
def outside (scanner : Scanner) : List Char → List Char
  | [] => []
  | char :: text =>
    if (scanner.next char).1.inLiteral then (scanner.next char).1.outside text
    else char :: (scanner.next char).1.outside text

variable {part rest text : List Char} {mark : Char}

theorem run_append (scanner : Scanner) (part rest : List Char) :
    scanner.run (part ++ rest) =
      (((scanner.run part).1.run rest).1,
        (scanner.run part).2 ++ ((scanner.run part).1.run rest).2) := by
  induction part generalizing scanner with
  | nil => rfl
  | cons char part ih => simp [run, ih]

theorem scan_append (scanner : Scanner) (part rest : List Char) :
    scanner.scan (part ++ rest) = (scanner.run part).2 ++ (scanner.run part).1.scan rest := by
  simp [scan, run_append]

theorem outside_append (scanner : Scanner) (part rest : List Char) :
    scanner.outside (part ++ rest) = scanner.outside part ++ (scanner.run part).1.outside rest := by
  induction part generalizing scanner with
  | nil => rfl
  | cons char part ih =>
    rw [List.cons_append, outside, outside, ih, run]
    split <;> rfl

/-- No quote comes next that a quoted text before it could take for its own. -/
def Apart : List Char → Prop
  | [] => True
  | char :: _ => char ≠ '\'' ∧ char ≠ '"'

instance : (rest : List Char) → Decidable (Apart rest)
  | [] => inferInstanceAs (Decidable True)
  | _ :: _ => inferInstanceAs (Decidable (_ ∧ _))

theorem Apart.append (apart : Apart part) (nonempty : part ≠ []) : Apart (part ++ rest) := by
  cases part with
  | nil => exact absurd rfl nonempty
  | cons => exact apart

/-- A quote that no other one follows has ended the text. -/
theorem next_closing {char : Char} (quote : mark = '\'' ∨ mark = '"') (single : char ≠ '\'')
    (double : char ≠ '"') :
    (closing mark text).next char =
      ((gap.next char).1, (closing mark text).leave ++ (gap.next char).2) := by
  have different : char ≠ mark := by
    rcases quote with rfl | rfl
    · exact single
    · exact double
  simp [next, different]

theorem scan_closing (quote : mark = '\'' ∨ mark = '"') (apart : Apart rest) :
    (closing mark text).scan rest = (closing mark text).leave ++ gap.scan rest := by
  cases rest with
  | nil => simp [scan, run, leave]
  | cons char rest =>
    obtain ⟨single, double⟩ := apart
    simp [scan, run, next_closing quote single double]

theorem outside_closing (quote : mark = '\'' ∨ mark = '"') (apart : Apart rest) :
    (closing mark text).outside rest = gap.outside rest := by
  cases rest with
  | nil => rfl
  | cons char rest =>
    obtain ⟨single, double⟩ := apart
    rw [outside, outside, next_closing quote single double]

/-- Doubled quotes are read as the one that they stand for. -/
theorem run_doubled (value text : List Char) :
    (quoted '\'' text).run (value.flatMap doubledQuote) = (quoted '\'' (text ++ value), []) := by
  induction value generalizing text with
  | nil => simp [run]
  | cons char value ih =>
    rw [List.flatMap_cons, run_append]
    have one : (quoted '\'' text).run (doubledQuote char) = (quoted '\'' (text ++ [char]), []) := by
      by_cases same : char = '\''
      · simp [doubledQuote, same, run, next]
      · simp [doubledQuote, same, run, next]
    rw [one, ih]
    simp

theorem run_literal (value : String) :
    gap.run (Dialect.sqlite.literal value) = (closing '\'' value.toList, []) := by
  have opened : gap.next '\'' = (quoted '\'' [], []) := by decide
  have closed (text : List Char) : (quoted '\'' text).run ['\''] = (closing '\'' text, []) := by
    simp [run, next]
  rw [Dialect.literal, List.cons_append, run, opened]
  simp [run_append, run_doubled, closed]

theorem outside_doubled (value text : List Char) :
    (quoted '\'' text).outside (value.flatMap doubledQuote ++ ['\'']) = [] := by
  induction value generalizing text with
  | nil => simp [outside, next, inLiteral]
  | cons char value ih =>
    rw [List.flatMap_cons]
    by_cases same : char = '\''
    · simp [doubledQuote, same, outside, next, inLiteral, ih]
    · simp [doubledQuote, same, outside, next, inLiteral, ih]

theorem run_column (column : Column) :
    gap.run column.write = (closing '"' column.name.toList, []) := by
  cases column <;> decide

/-! ### The parts of a statement before whatever follows them -/

theorem scan_literal (value : String) (apart : Apart rest) :
    gap.scan (Dialect.sqlite.literal value ++ rest) = .literal value :: gap.scan rest := by
  rw [scan_append, run_literal, scan_closing (.inl rfl) apart]
  simp [leave]

/-- Nothing of a literal is read outside of it. -/
theorem outside_literal (value : String) (apart : Apart rest) :
    gap.outside (Dialect.sqlite.literal value ++ rest) = gap.outside rest := by
  have opened : gap.next '\'' = (quoted '\'' [], []) := by decide
  have own : gap.outside (Dialect.sqlite.literal value) = [] := by
    rw [Dialect.literal, List.cons_append, outside, opened]
    exact outside_doubled value.toList []
  rw [outside_append, own, run_literal, outside_closing (.inl rfl) apart, List.nil_append]

theorem scan_column (column : Column) (apart : Apart rest) :
    gap.scan (column.write ++ rest) = .name column.name :: gap.scan rest := by
  rw [scan_append, run_column, scan_closing (.inr rfl) apart]
  simp [leave]

theorem outside_column (column : Column) (apart : Apart rest) :
    gap.outside (column.write ++ rest) = column.write ++ gap.outside rest := by
  have own : gap.outside column.write = column.write := by
    cases column <;> decide
  rw [outside_append, own, run_column, outside_closing (.inr rfl) apart]

/-- A fixed part of a statement, with the tokens that it is whatever stands around it. -/
structure Separator (part : List Char) (tokens : List Token) : Prop where
  nonempty : part ≠ []
  apart : Apart part
  run : gap.run part = (gap, tokens)
  outside : gap.outside part = part

namespace Separator

variable {tokens : List Token}

theorem apart_append (separator : Separator part tokens) (rest : List Char) :
    Apart (part ++ rest) := separator.apart.append separator.nonempty

theorem scan_append (separator : Separator part tokens) (rest : List Char) :
    gap.scan (part ++ rest) = tokens ++ gap.scan rest := by
  rw [Scanner.scan_append, separator.run]

theorem outside_append (separator : Separator part tokens) (rest : List Char) :
    gap.outside (part ++ rest) = part ++ gap.outside rest := by
  rw [Scanner.outside_append, separator.outside, separator.run]

theorem comma : Separator [',', ' '] [.symbol ','] := ⟨by decide, by decide, rfl, by decide⟩

theorem parenthesis : Separator ['('] [.symbol '('] := ⟨by decide, by decide, rfl, by decide⟩

theorem close : Separator [')'] [.symbol ')'] := ⟨by decide, by decide, rfl, by decide⟩

theorem equals : Separator " = ".toList [.symbol '='] := ⟨by decide, by decide, rfl, by decide⟩

theorem like : Separator " LIKE ".toList [.word "LIKE"] :=
  ⟨by decide, by decide, rfl, by decide⟩

theorem escape : Separator " ESCAPE ".toList [.word "ESCAPE"] :=
  ⟨by decide, by decide, rfl, by decide⟩

theorem members : Separator " IN (".toList [.word "IN", .symbol '('] :=
  ⟨by decide, by decide, rfl, by decide⟩

theorem conjunction : Separator " AND ".toList [.word "AND"] :=
  ⟨by decide, by decide, rfl, by decide⟩

theorem disjunction : Separator " OR ".toList [.word "OR"] :=
  ⟨by decide, by decide, rfl, by decide⟩

theorem select : Separator "SELECT ".toList [.word "SELECT"] :=
  ⟨by decide, by decide, rfl, by decide⟩

theorem source : Separator " FROM ".toList [.word "FROM"] :=
  ⟨by decide, by decide, rfl, by decide⟩

theorem demand : Separator " WHERE ".toList [.word "WHERE"] :=
  ⟨by decide, by decide, rfl, by decide⟩

end Separator

end Scanner

end EventStore.Sql
