import EventStore.Text.Characters

/-! Identifiers of 128 bits. They are written as 32 lower-case digits in groups of eight, four,
four, four and twelve; reading also takes the digits without hyphens, in braces, or as a name. -/

namespace EventStore

structure Uuid where
  digits : List (Fin 16)
  length_digits : digits.length = 32
  deriving DecidableEq

namespace Uuid

def hexDigit (char : Char) : Option (Fin 16) :=
  (Text.hexValue char).bind fun value =>
    if small : value < 16 then some ⟨value, small⟩ else none

/-- The lengths of the groups between the hyphens. -/
def groups : List Nat := [8, 4, 4, 4, 12]

def hyphenated : List Nat → List Char → List Char
  | [], _ => []
  | [_], digits => digits
  | length :: lengths, digits =>
    digits.take length ++ '-' :: hyphenated lengths (digits.drop length)

def write (uuid : Uuid) : List Char :=
  hyphenated groups (uuid.digits.map fun (digit : Fin 16) => Text.hexDigit digit.val)

def ofDigits (digits : List (Fin 16)) : Option Uuid :=
  if length : digits.length = 32 then some ⟨digits, length⟩ else none

def readPlain (text : List Char) : Option Uuid := (text.mapM hexDigit).bind ofDigits

/-- Takes the hyphens from between the groups; each has to stand in its place. -/
def unhyphenated : List Nat → List Char → Option (List Char)
  | [], text => if text.isEmpty then some [] else none
  | [length], text => if text.length = length then some text else none
  | length :: lengths, text =>
    match text.drop length with
    | '-' :: rest => (unhyphenated lengths rest).map (text.take length ++ ·)
    | _ => none

def readHyphenated (text : List Char) : Option Uuid := (unhyphenated groups text).bind readPlain

/-- What a name starts with; its letters may be in either case. -/
def nameMark : List Char := "urn:uuid:".toList

def read (text : List Char) : Option Uuid :=
  match text with
  | '\x7b' :: rest => if rest.getLast? = some '\x7d' then readHyphenated rest.dropLast else none
  | _ =>
    if (text.take nameMark.length).map Char.toLower = nameMark then
      readHyphenated (text.drop nameMark.length)
    else if text.length = 32 then readPlain text
    else readHyphenated text

def format (uuid : Uuid) : String := String.ofList uuid.write

def parse (text : String) : Option Uuid := read text.toList

end Uuid
end EventStore
