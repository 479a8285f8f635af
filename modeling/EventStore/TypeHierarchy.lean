/-! The hierarchy of event types. A type is declared with its direct supertypes, which have to be
declared before it; walking the declarations from the newest to the oldest therefore meets every
supertype after all of its subtypes, and one pass collects all ancestors of a name. -/

namespace EventStore

inductive DeclarationFault
  | duplicate (name : String)
  | unknownSupertype (name supertype : String)
  deriving DecidableEq, Repr

def DeclarationFault.message : DeclarationFault → String
  | .duplicate name => s!"Event type already registered: {name}"
  | .unknownSupertype name supertype =>
    s!"Event type {name} declares unknown supertype {supertype}"

structure Declaration where
  name : String
  supertypes : List String
  deriving DecidableEq, Repr

/-- Each name is declared once and after its supertypes, the newest declaration first. -/
def Layered : List Declaration → Prop
  | [] => True
  | newest :: older =>
    newest.name ∉ older.map (·.name) ∧
      (∀ supertype ∈ newest.supertypes, supertype ∈ older.map (·.name)) ∧ Layered older

structure TypeHierarchy where
  declarations : List Declaration
  layered : Layered declarations

namespace TypeHierarchy

def empty : TypeHierarchy := ⟨[], trivial⟩

def names (types : TypeHierarchy) : List String := types.declarations.map (·.name)

def size (types : TypeHierarchy) : Nat := types.declarations.length

def declares (types : TypeHierarchy) (name : String) : Bool := types.names.contains name

def declare (types : TypeHierarchy) (name : String) (supertypes : List String) :
    Except DeclarationFault TypeHierarchy :=
  if known : types.declares name then .error (.duplicate name)
  else
    match missing : supertypes.find? (fun supertype => !types.declares supertype) with
    | some supertype => .error (.unknownSupertype name supertype)
    | none =>
      .ok
        { declarations := ⟨name, supertypes⟩ :: types.declarations
          layered := by
            refine ⟨?_, ?_, types.layered⟩
            · simpa [declares, names] using known
            · intro supertype member
              have found := List.find?_eq_none.mp missing supertype member
              simpa [declares, names] using found }

/-- Adds the supertypes of every declared name met on the way. -/
def collected (reached : List String) (declarations : List Declaration) : List String :=
  declarations.foldl
    (fun reached declaration =>
      if reached.contains declaration.name then reached ++ declaration.supertypes else reached)
    reached

/-- A name and everything it derives from. -/
def ancestors (types : TypeHierarchy) (name : String) : List String :=
  collected [name] types.declarations

/-- Whether the candidate equals the supertype or derives from it. A name that is not registered
derives from nothing but itself. -/
def derives (types : TypeHierarchy) (candidate supertype : String) : Bool :=
  (types.ancestors candidate).contains supertype

/-- The name, then every registered type deriving from it in ascending order. -/
def family (types : TypeHierarchy) (name : String) : List String :=
  let descendants := types.names.filter fun other => other ≠ name && types.derives other name
  name :: descendants.mergeSort (fun left right => decide (left ≤ right))

end TypeHierarchy
end EventStore
