import EventStore.Proofs.StatementTokens

/-! The grammar of the statements that select records. Comparisons bind more tightly than `AND`,
which binds more tightly than `OR`, and both group to the left. What the reading of a condition has
found so far is one group for each parenthesis that is open. -/

namespace EventStore.Sql

/-- What stands before the operand that comes next: a disjunction that is complete, and the
conjunction that the operand goes on with. -/
structure Group where
  alternatives : Option Condition := none
  conjuncts : Option Condition := none

namespace Group

def joined (connective : Condition → Condition → Condition) (left : Option Condition)
    (right : Condition) : Condition :=
  left.elim right (connective · right)

def conjunction (group : Group) (operand : Condition) : Condition :=
  joined .both group.conjuncts operand

def whole (group : Group) (operand : Condition) : Condition :=
  joined .either group.alternatives (group.conjunction operand)

end Group

def Column.ofName? (name : String) : Option Column :=
  (Column.id :: Column.ofRecord).find? (·.name = name)

mutual

/-- The condition whose next operand starts here, with the tokens after it. -/
def readOperand (outer : List Group) (group : Group) :
    List Token → Option (Condition × List Token)
  | .symbol '(' :: tokens => readOperand (group :: outer) {} tokens
  | .name name :: tokens =>
    match Column.ofName? name with
    | some column => readComparison outer group column tokens
    | none => none
  | _ => none

def readComparison (outer : List Group) (group : Group) (column : Column) :
    List Token → Option (Condition × List Token)
  | .symbol '=' :: .literal value :: tokens =>
    readOperator outer group (.equals column value) tokens
  | .word "LIKE" :: .literal pattern :: .word "ESCAPE" :: .literal "!" :: tokens =>
    readOperator outer group (.matching column pattern) tokens
  | .word "IN" :: .symbol '(' :: tokens => readMembers outer group column [] tokens
  | _ => none

/-- The list goes on after the members that were found; it may have none at all. -/
def readMembers (outer : List Group) (group : Group) (column : Column) (found : List String) :
    List Token → Option (Condition × List Token)
  | .literal value :: .symbol ',' :: tokens =>
    readMembers outer group column (found ++ [value]) tokens
  | .literal value :: .symbol ')' :: tokens =>
    readOperator outer group (.among column (found ++ [value])) tokens
  | .symbol ')' :: tokens =>
    if found.isEmpty then readOperator outer group (.among column []) tokens else none
  | _ => none

/-- Without an open parenthesis the condition ends where no operator follows. -/
def readOperator (outer : List Group) (group : Group) (operand : Condition) :
    List Token → Option (Condition × List Token)
  | .word "AND" :: tokens =>
    readOperand outer { group with conjuncts := some (group.conjunction operand) } tokens
  | .word "OR" :: tokens =>
    readOperand outer { alternatives := some (group.whole operand) } tokens
  | .symbol ')' :: tokens =>
    match outer with
    | [] => none
    | around :: outer => readOperator outer around (group.whole operand) tokens
  | tokens =>
    match outer with
    | [] => some (group.whole operand, tokens)
    | _ :: _ => none

end

structure Statement where
  columns : List Column
  table : String
  condition : Option Condition
  order : Column
  deriving DecidableEq, Repr

def readColumns : List Token → Option (List Column × List Token)
  | .name name :: .symbol ',' :: tokens => do
    let column ← Column.ofName? name
    let (columns, tokens) ← readColumns tokens
    return (column :: columns, tokens)
  | .name name :: .word "FROM" :: tokens => do
    let column ← Column.ofName? name
    return ([column], tokens)
  | _ => none

def readSelection : List Token → Option (List Column × List Token)
  | .word "SELECT" :: tokens => readColumns tokens
  | _ => none

def readTable : List Token → Option (String × List Token)
  | .name table :: tokens => some (table, tokens)
  | _ => none

def readCondition : List Token → Option (Option Condition × List Token)
  | .word "WHERE" :: tokens => do
    let (condition, tokens) ← readOperand [] {} tokens
    return (some condition, tokens)
  | tokens => some (none, tokens)

def readOrder : List Token → Option Column
  | [.word "ORDER", .word "BY", .name name, .word "ASC"] => Column.ofName? name
  | _ => none

def Statement.ofTokens (tokens : List Token) : Option Statement := do
  let (columns, tokens) ← readSelection tokens
  let (table, tokens) ← readTable tokens
  let (condition, tokens) ← readCondition tokens
  let order ← readOrder tokens
  return { columns, table, condition, order }

def Statement.read (text : List Char) : Option Statement := ofTokens (Scanner.gap.scan text)

/-! ## Conditions that are written are read -/

open Scanner

theorem Column.ofName?_name (column : Column) : Column.ofName? column.name = some column := by
  cases column <;> decide

variable {outer : List Group} {group : Group} {rest : List Char}

theorem readOperand_column (column : Column) (apart : Apart rest) :
    readOperand outer group (gap.scan (column.write ++ rest)) =
      readComparison outer group column (gap.scan rest) := by
  rw [scan_column column apart, readOperand, Column.ofName?_name]

theorem commaSeparated_map {α : Type} (write : α → List Char) (item next : α) (items : List α) :
    commaSeparated ((item :: next :: items).map write) =
      write item ++ ([',', ' '] ++ commaSeparated ((next :: items).map write)) := by
  simp [commaSeparated]

theorem readMembers_write (column : Column) (found : List String) (value : String)
    (values : List String) :
    readMembers outer group column found (gap.scan
        (commaSeparated ((value :: values).map Dialect.sqlite.literal) ++ ([')'] ++ rest))) =
      readOperator outer group (.among column (found ++ value :: values)) (gap.scan rest) := by
  induction values generalizing found value with
  | nil =>
    change readMembers _ _ _ _ (gap.scan (Dialect.sqlite.literal value ++ _)) = _
    rw [scan_literal value (Separator.close.apart_append rest), Separator.close.scan_append,
      List.singleton_append, readMembers]
  | cons next values ih =>
    rw [commaSeparated_map, List.append_assoc, List.append_assoc,
      scan_literal value (Separator.comma.apart_append _), Separator.comma.scan_append,
      List.singleton_append, readMembers, ih]
    simp

namespace Condition

/-- What the reading has found of a condition before its last operand. -/
def opened : Condition → Group × Condition
  | both left right => ({ conjuncts := some left }, right)
  | either left right => ({ alternatives := some left }, right)
  | comparison => ({}, comparison)

theorem whole_opened (condition : Condition) :
    condition.opened.1.whole condition.opened.2 = condition := by
  cases condition <;> rfl

/-- A condition that `AND` is written after is no disjunction, so it is the open conjunction. -/
theorem conjunction_opened {condition : Condition} (bare : condition.isDisjunction = false) :
    condition.opened.1.alternatives = none ∧
      condition.opened.1.conjunction condition.opened.2 = condition := by
  cases condition with
  | either => cases bare
  | both | equals | matching | among => exact ⟨rfl, rfl⟩

theorem readOperand_comparison {condition : Condition} (single : condition.isCompound = false)
    (apart : Apart rest) :
    readOperand outer group (gap.scan (condition.write .sqlite ++ rest)) =
      readOperator outer group condition (gap.scan rest) := by
  cases condition with
  | both => cases single
  | either => cases single
  | equals column value =>
    simp only [write, List.append_assoc]
    rw [readOperand_column column (Separator.equals.apart_append _), Separator.equals.scan_append,
      scan_literal value apart]
    rfl
  | matching column pattern =>
    simp only [write, List.append_assoc]
    rw [readOperand_column column (Separator.like.apart_append _), Separator.like.scan_append,
      scan_literal pattern (Separator.escape.apart_append _), Separator.escape.scan_append,
      scan_literal _ apart]
    rfl
  | among column values =>
    simp only [write, List.append_assoc]
    rw [readOperand_column column (Separator.members.apart_append _), Separator.members.scan_append]
    change readMembers outer group column [] (gap.scan _) = _
    cases values with
    | nil =>
      change readMembers outer group column [] (gap.scan ([')'] ++ rest)) = _
      rw [Separator.close.scan_append, List.singleton_append, readMembers]
      rfl
    | cons value values => exact readMembers_write column [] value values

/-- From a fresh group the reading comes to the last operand of the condition. -/
def ReadsBack (condition : Condition) : Prop :=
  ∀ (outer : List Group) (rest : List Char), Apart rest →
    readOperand outer {} (gap.scan (condition.write .sqlite ++ rest)) =
      readOperator outer condition.opened.1 condition.opened.2 (gap.scan rest)

namespace ReadsBack

variable {condition : Condition}

theorem parenthesized_operand (reads : condition.ReadsBack) :
    readOperand outer group (gap.scan (parenthesized true (condition.write .sqlite) ++ rest)) =
      readOperator outer group condition (gap.scan rest) := by
  have parts : parenthesized true (condition.write .sqlite) ++ rest =
      ['('] ++ (condition.write .sqlite ++ ([')'] ++ rest)) := by
    simp [parenthesized]
  calc
    _ = readOperand (group :: outer) {}
        (gap.scan (condition.write .sqlite ++ ([')'] ++ rest))) := by
      rw [parts, Separator.parenthesis.scan_append, List.singleton_append, readOperand]
    _ = readOperator (group :: outer) condition.opened.1 condition.opened.2
        (.symbol ')' :: gap.scan rest) := by
      rw [reads _ _ (Separator.close.apart_append rest), Separator.close.scan_append]
      rfl
    _ = readOperator outer group condition (gap.scan rest) := by
      rw [readOperator, whole_opened]

theorem operand (reads : condition.ReadsBack) (apart : Apart rest) :
    readOperand outer group
        (gap.scan (parenthesized condition.isCompound (condition.write .sqlite) ++ rest)) =
      readOperator outer group condition (gap.scan rest) := by
  cases compound : condition.isCompound with
  | true => exact reads.parenthesized_operand
  | false => exact readOperand_comparison compound apart

theorem before {part : List Char} {tokens : List Token} (reads : condition.ReadsBack)
    (connective : Separator part tokens) (inner : Bool) (rest : List Char) :
    readOperand outer {}
        (gap.scan (parenthesized inner (condition.write .sqlite) ++ (part ++ rest))) =
      if inner then readOperator outer {} condition (tokens ++ gap.scan rest)
      else readOperator outer condition.opened.1 condition.opened.2 (tokens ++ gap.scan rest) := by
  cases inner with
  | true =>
    rw [reads.parenthesized_operand, connective.scan_append]
    rfl
  | false =>
    change readOperand outer {} (gap.scan (condition.write .sqlite ++ _)) = _
    rw [reads _ _ (connective.apart_append rest), connective.scan_append]
    rfl

theorem before_and (reads : condition.ReadsBack) (rest : List Char) :
    readOperand outer {} (gap.scan (parenthesized condition.isDisjunction
        (condition.write .sqlite) ++ (" AND ".toList ++ rest))) =
      readOperand outer { conjuncts := some condition } (gap.scan rest) := by
  rw [reads.before Separator.conjunction]
  cases disjunct : condition.isDisjunction with
  | true => rfl
  | false =>
    obtain ⟨no_alternatives, conjunction⟩ := conjunction_opened disjunct
    rw [if_neg (by decide), List.singleton_append, readOperator, conjunction, no_alternatives]

theorem before_or (reads : condition.ReadsBack) (rest : List Char) :
    readOperand outer {} (gap.scan (parenthesized condition.isConjunction
        (condition.write .sqlite) ++ (" OR ".toList ++ rest))) =
      readOperand outer { alternatives := some condition } (gap.scan rest) := by
  rw [reads.before Separator.disjunction]
  cases condition.isConjunction with
  | true => rfl
  | false => rw [if_neg (by decide), List.singleton_append, readOperator, whole_opened]

end ReadsBack

theorem readsBack (condition : Condition) : condition.ReadsBack := by
  -- The left side is read from the same fresh group as the whole, so its own last operand is what
  -- the connective finds open; the right side is one operand.
  induction condition with
  | equals | matching | among =>
    intro outer rest apart
    exact readOperand_comparison rfl apart
  | both left right left_reads right_reads =>
    intro outer rest apart
    simp only [write, List.append_assoc]
    rw [left_reads.before_and, right_reads.operand apart]
    rfl
  | either left right left_reads right_reads =>
    intro outer rest apart
    simp only [write, List.append_assoc]
    rw [left_reads.before_or, right_reads.operand apart]
    rfl

/-- A literal that closes its own quotes would be read as another condition. -/
example :
    let demanded := both (either (equals .id "1") (equals .id "x' OR 'a' = 'a"))
      (among .id ["2", "3"])
    readOperand [] {} (gap.scan (demanded.write .sqlite)) = some (demanded, []) := by
  decide +kernel

end Condition

/-! ## Whole statements -/

theorem readColumns_write (column : Column) (columns : List Column) (rest : List Char) :
    readColumns (gap.scan
        (commaSeparated ((column :: columns).map Column.write) ++ (" FROM ".toList ++ rest))) =
      some (column :: columns, gap.scan rest) := by
  induction columns generalizing column with
  | nil =>
    change readColumns (gap.scan (column.write ++ _)) = _
    rw [scan_column column (Separator.source.apart_append rest), Separator.source.scan_append,
      List.singleton_append, readColumns, Column.ofName?_name]
    rfl
  | cons next columns ih =>
    rw [commaSeparated_map, List.append_assoc, List.append_assoc,
      scan_column column (Separator.comma.apart_append _), Separator.comma.scan_append,
      List.singleton_append, readColumns, Column.ofName?_name, ih]
    rfl

theorem whereClause_none (dialect : Dialect) : whereClause dialect none = [] := rfl

theorem whereClause_some (dialect : Dialect) (condition : Condition) :
    whereClause dialect (some condition) = " WHERE ".toList ++ condition.write dialect := rfl

def orderClause (column : Column) : List Char :=
  " ORDER BY ".toList ++ column.write ++ " ASC".toList

theorem apart_orderClause (column : Column) : Apart (orderClause column) := by
  cases column <;> decide

theorem scan_orderClause (column : Column) :
    gap.scan (orderClause column) =
      [.word "ORDER", .word "BY", .name column.name, .word "ASC"] := by
  cases column <;> decide

theorem readOrder_write (column : Column) :
    readOrder (gap.scan (orderClause column)) = some column := by
  rw [scan_orderClause, readOrder, Column.ofName?_name]

/-- The word after a condition is no operator, so the condition ends there. -/
theorem readCondition_write (condition : Option Condition) (column : Column) :
    readCondition (gap.scan (whereClause .sqlite condition ++ orderClause column)) =
      some (condition, gap.scan (orderClause column)) := by
  cases condition with
  | none =>
    rw [whereClause_none, List.nil_append, scan_orderClause]
    rfl
  | some condition =>
    have ends : readOperator [] condition.opened.1 condition.opened.2
        (gap.scan (orderClause column)) = some (condition, gap.scan (orderClause column)) := by
      rw [scan_orderClause]
      exact congrArg (fun whole => some (whole, _)) condition.whole_opened
    rw [whereClause_some, List.append_assoc, Separator.demand.scan_append, List.singleton_append,
      readCondition, condition.readsBack [] _ (apart_orderClause column), ends]
    rfl

def statementText (columns : List Column) (condition : Option Condition) (order : Column) :
    List Char :=
  selectClause columns ++ whereClause .sqlite condition ++ orderClause order

theorem scan_tableName (apart : Apart rest) :
    gap.scan ('"' :: tableName.toList ++ (['"'] ++ rest)) = .name tableName :: gap.scan rest := by
  have named : gap.run ('"' :: tableName.toList ++ ['"']) = (closing '"' tableName.toList, []) := by
    decide
  rw [← List.append_assoc, scan_append, named, scan_closing (.inr rfl) apart]
  rfl

theorem apart_whereClause (condition : Option Condition) (column : Column) :
    Apart (whereClause .sqlite condition ++ orderClause column) := by
  cases condition with
  | none =>
    rw [whereClause_none, List.nil_append]
    exact apart_orderClause column
  | some condition =>
    have demand : Apart " WHERE ".toList := by decide
    rw [whereClause_some, List.append_assoc]
    exact demand.append (by decide)

/-- The quote that opens the table's name belongs to the name. -/
theorem selectClause_eq (columns : List Column) :
    selectClause columns = "SELECT ".toList ++ (commaSeparated (columns.map Column.write) ++
      (" FROM ".toList ++ ('"' :: tableName.toList ++ ['"']))) := by
  have quote : " FROM \"".toList = " FROM ".toList ++ ['"'] := rfl
  unfold selectClause
  rw [quote]
  simp only [List.append_assoc, List.cons_append, List.nil_append]

theorem read_statementText (column : Column) (columns : List Column) (condition : Option Condition)
    (order : Column) :
    Statement.read (statementText (column :: columns) condition order) =
      some { columns := column :: columns, table := tableName, condition, order } := by
  have selection : readSelection (gap.scan (statementText (column :: columns) condition order)) =
      some (column :: columns, .name tableName ::
        gap.scan (whereClause .sqlite condition ++ orderClause order)) := by
    rw [statementText, selectClause_eq]
    simp only [List.append_assoc]
    rw [Separator.select.scan_append, List.singleton_append, readSelection, readColumns_write,
      scan_tableName (apart_whereClause condition order)]
  simp [Statement.read, Statement.ofTokens, selection, readTable, readCondition_write,
    readOrder_write]

end EventStore.Sql
