/-! The characters that count as white space, and hexadecimal digits, which are written in lower
case and read in either. -/

namespace EventStore.Text

def isBlank (char : Char) : Bool :=
  char.isWhitespace || char = '\x0b' || char = '\x0c' || char = '\x85' || char = '\xa0' ||
    char = '\u1680' || ('\u2000' ≤ char && char ≤ '\u200a') || char = '\u2028' ||
    char = '\u2029' || char = '\u202f' || char = '\u205f' || char = '\u3000'

def skipBlanks (text : List Char) : List Char := text.dropWhile isBlank

def hexDigit (digit : Nat) : Char :=
  if digit < 10 then Char.ofNat ('0'.toNat + digit) else Char.ofNat ('a'.toNat + (digit - 10))

def hexValue (char : Char) : Option Nat :=
  if char.isDigit then some (char.toNat - '0'.toNat)
  else if 'a' ≤ char ∧ char ≤ 'f' then some (char.toNat - 'a'.toNat + 10)
  else if 'A' ≤ char ∧ char ≤ 'F' then some (char.toNat - 'A'.toNat + 10)
  else none

theorem hexValue_hexDigit {digit : Nat} (small : digit < 16) :
    hexValue (hexDigit digit) = some digit := by
  revert digit
  decide

/-- The number that digits stand for, most significant first. -/
def ofDigits (base : Nat) (digits : List Nat) : Nat :=
  digits.foldl (fun number digit => number * base + digit) 0

/-- The digits of a number without leading zeros. -/
def hexDigits (number : Nat) : List Char :=
  if number < 16 then [hexDigit number] else hexDigits (number / 16) ++ [hexDigit (number % 16)]

end EventStore.Text
