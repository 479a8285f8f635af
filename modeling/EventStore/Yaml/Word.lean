import EventStore.Settings.Document
import EventStore.Yaml.Scalar

/-! The values of scalars. Without a tag only a plain word is anything but text: an empty word is
null, and some words are truth values or numbers. A tag can ask for one kind of value. -/

namespace EventStore.Yaml

/-- What a node holds; nothing where its word does not fit its tag. -/
abbrev Node := Option Document

/-- An integer with an optional sign in a base, if it fits a signed word. -/
def readBased (base : Nat) (text : List Char) : Option Int := do
  let (negative, digits) := Real.takeSign text
  let values ← digits.mapM Text.hexValue
  if digits.isEmpty || !(values.all (· < base)) then none
  else
    let magnitude : Int := Text.ofDigits base values
    some (if negative then -magnitude else magnitude) |>.filter Document.fitsSignedWord

def readDecimal (text : List Char) : Option Int := readBased 10 text

/-- An integer after the mark of its base, or after a plus sign that does not count as its sign. -/
def readMarked (word : List Char) : Option Int :=
  match word with
  | '0' :: 'x' :: rest => readBased 16 rest
  | '0' :: 'o' :: rest => readBased 8 rest
  | '+' :: rest => readDecimal rest
  | _ => none

/-- Words for values that are no finite numbers, which settings cannot hold. -/
def unboundedWords : List String :=
  [".inf", ".Inf", ".INF", "+.inf", "+.Inf", "+.INF", "-.inf", "-.Inf", "-.INF", ".nan", ".NAN"]

def realOf (word : List Char) : Option Document := (Real.read word).map .real

/-- The value of a plain word. Integers that do not fit a signed word become reals. -/
def plainValue (word : List Char) : Option Document :=
  match readMarked word with
  | some value => some (.integer value)
  | none =>
    match String.ofList word with
    | "" | "~" | "null" => some .null
    | "true" => some (.bool true)
    | "false" => some (.bool false)
    | text =>
      if unboundedWords.contains text then none
      else
        match readDecimal word, realOf word with
        | some value, _ => some (.integer value)
        | none, some value => some value
        | none, none => some (.text text)

/-- The handle of the kinds of values that are known by name. -/
def coreHandle : List Char := "tag:yaml.org,2002:".toList

/-- The value of a plain word as the kind that a core tag names. -/
def coreValue (kind : String) (word : List Char) : Option Node :=
  match kind, String.ofList word with
  | "bool", "true" => some (some (.bool true))
  | "bool", "false" => some (some (.bool false))
  | "bool", _ => some none
  | "int", _ => some ((readDecimal word).map .integer)
  | "float", text => if unboundedWords.contains text then none else some (realOf word)
  | "null", "~" | "null", "null" => some (some .null)
  | "null", _ => some none
  | _, text => some (some (.text text))

/-- The value of a scalar whose tag, if it has one, is given by handle and suffix. -/
def scalarValue (style : ScalarStyle) (tag : Option (List Char × List Char)) (word : List Char) :
    Option Node :=
  match style, tag with
  | .plain, none => (plainValue word).map some
  | .plain, some (handle, suffix) =>
    if handle = coreHandle then coreValue (String.ofList suffix) word
    else some (some (.text (String.ofList word)))
  | _, _ => some (some (.text (String.ofList word)))

end EventStore.Yaml
