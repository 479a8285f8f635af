import EventStore.Decimal.Binary64

/-! JSON values. Numbers are integers as long as they fit a 64-bit word, signed or unsigned, and
double precision otherwise; the members of an object are sorted by name and unique. -/

namespace EventStore

inductive Json.Number
  | integer (value : Int)
  | decimal (negative : Bool) (magnitude : Binary64)
  deriving DecidableEq, Repr, Inhabited

inductive Json
  | null
  | bool (value : Bool)
  | number (value : Json.Number)
  | string (text : String)
  | array (items : List Json)
  | object (members : List (String × Json))
  deriving Repr, Inhabited

namespace Json

/-- Puts a member in the place its name sorts to; a member of that name is replaced. -/
def insertMember (name : String) (value : Json) : List (String × Json) → List (String × Json)
  | [] => [(name, value)]
  | (other, kept) :: rest =>
    if name < other then (name, value) :: (other, kept) :: rest
    else if name = other then (name, value) :: rest
    else (other, kept) :: insertMember name value rest

/-- The object of some members in any order; of several with one name the last counts. -/
def ofMembers (members : List (String × Json)) : Json :=
  .object (members.foldl (fun sorted (name, value) => insertMember name value sorted) [])

def member? (name : String) : Json → Option Json
  | .object members => members.lookup name
  | _ => none

mutual
/-- How many arrays and objects stand inside each other at the deepest place. -/
def depth : Json → Nat
  | .array items => depthOfItems items + 1
  | .object members => depthOfMembers members + 1
  | _ => 0

def depthOfItems : List Json → Nat
  | [] => 0
  | item :: items => max item.depth (depthOfItems items)

def depthOfMembers : List (String × Json) → Nat
  | [] => 0
  | (_, value) :: members => max value.depth (depthOfMembers members)
end

end Json
end EventStore
