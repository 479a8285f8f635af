import EventStore.Storage.Backends

/-! Stores are named handles on drivers. A bundle fans an append out to several of them and
reaches every driver once, however many of its stores share it. -/

namespace EventStore

structure Store where
  name : String
  driver : DriverId
  deriving DecidableEq, Repr

namespace Store

def sameDriver (store other : Store) : Bool := store.driver = other.driver

def describe (store : Store) : String :=
  "EventStore \x7b name: " ++ Text.quoted store.name ++ " \x7d"

end Store

structure Bundle where
  stores : List Store
  deriving DecidableEq, Repr

namespace Bundle

/-- Keeps a store unless an earlier one writes to the same driver. -/
def keep (kept : List Store) (store : Store) : List Store :=
  if kept.any store.sameDriver then kept else kept ++ [store]

def ofStores (stores : List Store) : Bundle := ⟨stores.foldl keep []⟩

def size (bundle : Bundle) : Nat := bundle.stores.length

def names (bundle : Bundle) : List String := bundle.stores.map (·.name)

/-- Appends to one store after the other and stops at the first that fails. -/
def deliver (stream : String) (envelope : Envelope) (categories : List String) :
    List Store → Backends → Except StorageFault (List (Option Nat)) × Backends
  | [], backends => (.ok [], backends)
  | store :: stores, backends =>
    match backends.append store.driver stream envelope categories with
    | (.error fault, backends) => (.error fault, backends)
    | (.ok version, backends) =>
      let (answer, backends) := deliver stream envelope categories stores backends
      (answer.map (version :: ·), backends)

/-- The versions assigned, one per store. What was written before a failure stays written. -/
def append (bundle : Bundle) (stream : String) (event : Event) (categories : List String)
    (backends : Backends) : Except StorageFault (List (Option Nat)) × Backends :=
  match event with
  | .transient type => (.error (.unstorable type), backends)
  | .storable envelope => deliver stream envelope categories bundle.stores backends

end Bundle
end EventStore
