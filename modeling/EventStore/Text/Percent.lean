import EventStore.Text.Characters

/-! Texts as bytes, and the escapes that stand for bytes in addresses: a percent sign and two
hexadecimal digits. What only looks like an escape stays as it is. -/

namespace EventStore

abbrev Bytes := List UInt8

namespace Bytes

def ofText (text : String) : Bytes := text.toUTF8.data.toList

/-- Nothing for bytes that encode no text. -/
def toText? (bytes : Bytes) : Option String := String.fromUTF8? ⟨bytes.toArray⟩

def ofChar (char : Char) : UInt8 := UInt8.ofNat char.toNat

def escapeMark : UInt8 := ofChar '%'

def escapedByte (first second : UInt8) : Option UInt8 := do
  let high ← Text.hexValue (Char.ofNat first.toNat)
  let low ← Text.hexValue (Char.ofNat second.toNat)
  return UInt8.ofNat (high * 16 + low)

/-- Replaces every escape by its byte. -/
def unescaped : Bytes → Bytes
  | byte :: first :: second :: rest =>
    if byte = escapeMark then
      match escapedByte first second with
      | some escaped => escaped :: unescaped rest
      | none => byte :: unescaped (first :: second :: rest)
    else byte :: unescaped (first :: second :: rest)
  | bytes => bytes

/-- The same, but an escape of the null byte ends the text. -/
def unescapedToNull (bytes : Bytes) : Bytes := (unescaped bytes).takeWhile (· ≠ 0)

/-- Letters, digits and four marks stand for themselves in every part of an address. -/
def isUnreserved (byte : UInt8) : Bool :=
  byte < 128 &&
    let char := Char.ofNat byte.toNat
    char.isAlphanum || ['-', '_', '.', '~'].contains char

def escape (byte : UInt8) : Bytes :=
  if isUnreserved byte then [byte]
  else
    [escapeMark, ofChar (Text.hexDigit (byte.toNat / 16)), ofChar (Text.hexDigit (byte.toNat % 16))]

/-- Escapes every byte that could have a meaning in an address. -/
def escaped (bytes : Bytes) : Bytes := bytes.flatMap escape

end Bytes
end EventStore
