/-! Patterns of LIKE: `%` stands for any text, `_` for any one character, and the escape character
takes the meaning from the one after it. Case matters. -/

namespace EventStore.Sql

def escapeChar : Char := '!'

def isSpecial (char : Char) : Bool := char = '%' || char = '_' || char = escapeChar

/-- The pattern that only the text itself matches. -/
def literalPattern (text : List Char) : List Char :=
  text.flatMap fun char => if isSpecial char then [escapeChar, char] else [char]

/-- A pattern that ends in the escape character matches nothing. -/
def like : List Char → List Char → Bool
  | [], text => text.isEmpty
  | symbol :: pattern, text =>
    if symbol = escapeChar then
      match pattern, text with
      | literal :: pattern, char :: text => char = literal && like pattern text
      | _, _ => false
    else if symbol = '%' then
      like pattern text ||
        match text with
        | [] => false
        | _ :: text => like (symbol :: pattern) text
    else
      match text with
      | [] => false
      | char :: text => (symbol = '_' || char = symbol) && like pattern text
termination_by pattern text => (pattern.length, text.length)

end EventStore.Sql
