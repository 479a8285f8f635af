import EventStore.Sql.Selection

/-! The text of queries. Values stand in the statement itself, so each dialect has its rule for
writing a text as a literal. Parentheses are written where a connective stands below another
one, except on the left of the same one. -/

namespace EventStore.Sql

inductive Dialect
  | sqlite
  | postgres
  deriving DecidableEq, Repr

/-- Characters that the second dialect escapes by a backslash. -/
def backslashEscape (char : Char) : List Char :=
  if char = '\\' then ['\\', '\\']
  else if char = '"' then ['\\', '"']
  else if char = '\'' then ['\\', '\'']
  else if char = '\x00' then ['\\', '0']
  else if char = '\x08' then ['\\', 'b']
  else if char = '\t' then ['\\', 't']
  else if char = '\x1a' then ['\\', 'z']
  else if char = '\n' then ['\\', 'n']
  else if char = '\r' then ['\\', 'r']
  else [char]

def doubledQuote (char : Char) : List Char := if char = '\'' then ['\'', '\''] else [char]

def Dialect.literal (dialect : Dialect) (value : String) : List Char :=
  match dialect with
  | .sqlite => '\'' :: value.toList.flatMap doubledQuote ++ ['\'']
  | .postgres =>
    let escaped := value.toList.flatMap backslashEscape
    let quoted := '\'' :: escaped ++ ['\'']
    if escaped.contains '\\' then 'E' :: quoted else quoted

def Column.write (column : Column) : List Char := '"' :: column.name.toList ++ ['"']

def commaSeparated : List (List Char) → List Char
  | [] => []
  | [item] => item
  | item :: next :: items => item ++ [',', ' '] ++ commaSeparated (next :: items)

def parenthesized (inner : Bool) (text : List Char) : List Char :=
  if inner then '(' :: text ++ [')'] else text

namespace Condition

def isConjunction : Condition → Bool
  | both _ _ => true
  | _ => false

def isDisjunction : Condition → Bool
  | either _ _ => true
  | _ => false

def isCompound (condition : Condition) : Bool :=
  condition.isConjunction || condition.isDisjunction

def write (dialect : Dialect) : Condition → List Char
  | equals column value => column.write ++ " = ".toList ++ dialect.literal value
  | matching column pattern =>
    column.write ++ " LIKE ".toList ++ dialect.literal pattern ++ " ESCAPE ".toList ++
      dialect.literal (String.singleton escapeChar)
  | among column values =>
    column.write ++ " IN (".toList ++ commaSeparated (values.map dialect.literal) ++ [')']
  | both left right =>
    parenthesized left.isDisjunction (write dialect left) ++ " AND ".toList ++
      parenthesized right.isCompound (write dialect right)
  | either left right =>
    parenthesized left.isConjunction (write dialect left) ++ " OR ".toList ++
      parenthesized right.isCompound (write dialect right)

end Condition

def tableName : String := "sys_event_store"

def selectClause (columns : List Column) : List Char :=
  "SELECT ".toList ++ commaSeparated (columns.map Column.write) ++ " FROM \"".toList ++
    tableName.toList ++ ['"']

def whereClause (dialect : Dialect) : Option Condition → List Char
  | none => []
  | some condition => " WHERE ".toList ++ condition.write dialect

/-- The read of every record that a selector admits, in the order they were inserted. -/
def recordQuery (dialect : Dialect) (types : TypeHierarchy) (selector : Selector) : String :=
  String.ofList
    (selectClause Column.ofRecord ++
      whereClause dialect (conditionFor types selector) ++
      " ORDER BY ".toList ++ Column.write .id ++ " ASC".toList)

/-- The keys of the rows that meet a condition. -/
def keyQuery (dialect : Dialect) (condition : Condition) : String :=
  String.ofList (selectClause [.id] ++ whereClause dialect (some condition))

end EventStore.Sql
