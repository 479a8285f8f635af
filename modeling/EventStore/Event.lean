import EventStore.Json.Value
import EventStore.Time.Instant
import EventStore.Uuid

/-! Events as the store sees them: a type, an identifier, an instant and, for those that can be
stored, a payload. -/

namespace EventStore

structure Envelope where
  type : String
  id : String
  /-- Assigned by the store the event was appended to. -/
  version : Option Nat := none
  createdAt : Instant := Instant.epoch
  aggregateId : Option Uuid := none
  data : Option Json := none
  metadata : Option Json := none

/-- An event on its way to the stores. A transient one has nothing that could be stored. -/
inductive Event
  | storable (envelope : Envelope)
  | transient (type : String)

namespace Event

def type : Event → String
  | .storable envelope => envelope.type
  | .transient type => type

end Event
end EventStore
