import EventStore.Json.Value
import EventStore.Decimal.Layout
import EventStore.Text.Characters

/-! JSON text without blanks. Strings escape the quote, the backslash and the controls and
nothing else; a decimal is the shortest that reads back and never looks like an integer. -/

namespace EventStore.Json

/-- Magnitudes from a hundred-thousandth to just below ten to the sixteenth are written without an
exponent. -/
def decimalLayout : Layout where
  positional leading := -5 ≤ leading && leading ≤ 15
  keepsFraction := true

def Number.write : Number → List Char
  | .integer value => signedDigits value
  | .decimal negative magnitude =>
    let digits := decimalLayout.render (Decimal.shortest magnitude)
    if negative then '-' :: digits else digits

def escapedChar (char : Char) : List Char :=
  if char = '"' then ['\\', '"']
  else if char = '\\' then ['\\', '\\']
  else if char = '\x08' then ['\\', 'b']
  else if char = '\x0c' then ['\\', 'f']
  else if char = '\n' then ['\\', 'n']
  else if char = '\r' then ['\\', 'r']
  else if char = '\t' then ['\\', 't']
  else if char.toNat < 0x20 then
    ['\\', 'u', '0', '0', Text.hexDigit (char.toNat / 16), Text.hexDigit (char.toNat % 16)]
  else [char]

def writeString (text : String) : List Char :=
  '"' :: text.toList.flatMap escapedChar ++ ['"']

mutual
def write : Json → List Char
  | .null => ['n', 'u', 'l', 'l']
  | .bool true => ['t', 'r', 'u', 'e']
  | .bool false => ['f', 'a', 'l', 's', 'e']
  | .number value => value.write
  | .string text => writeString text
  | .array items => '[' :: writeItems items ++ [']']
  | .object members => '\x7b' :: writeMembers members ++ ['\x7d']

def writeItems : List Json → List Char
  | [] => []
  | [item] => item.write
  | item :: next :: items => item.write ++ ',' :: writeItems (next :: items)

def writeMembers : List (String × Json) → List Char
  | [] => []
  | [(name, value)] => writeString name ++ ':' :: value.write
  | (name, value) :: next :: members =>
    writeString name ++ ':' :: value.write ++ ',' :: writeMembers (next :: members)
end

def toText (value : Json) : String := String.ofList value.write

end EventStore.Json
