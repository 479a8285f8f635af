import EventStore.Selector.Syntax

/-! What can go wrong between an event and its storage. -/

namespace EventStore

/-- Why a selector gives a read nothing to go by. -/
inductive SelectionFault
  | relative (selector : Selector)
  | unbounded (selector : Selector)
  deriving DecidableEq, Repr

def SelectionFault.reason : SelectionFault → String
  | .relative selector =>
    s!"relative selector {selector.toText} must be made absolute before reading"
  | .unbounded selector => s!"selector {selector.toText} names neither a stream nor a category"

inductive DatabaseFault
  | closed
  | noConnection
  | readOnly
  | malformedStatement
  | cannotOpen (path : String)
  deriving DecidableEq, Repr

def DatabaseFault.reason : DatabaseFault → String
  | .closed => "the connection is closed"
  | .noConnection => "no connection is allowed"
  | .readOnly => "the database is read only"
  | .malformedStatement => "the statement ends inside a literal"
  | .cannotOpen path => s!"cannot open {path}"

inductive Outage
  | refusingAppends
  | refusingReads
  | directory (path : String)
  | reported (text : String)
  deriving DecidableEq, Repr

def Outage.reason : Outage → String
  | .refusingAppends => "memory driver configured to fail on attach"
  | .refusingReads => "memory driver configured to fail on stream"
  | .directory path => s!"cannot create directory for {path}"
  | .reported text => text

inductive StorageFault
  | invalidSelection (fault : SelectionFault)
  | unstorable (type : String)
  | invalidLiteral (fault : SelectorFault)
  | versionConflict (stream : String) (version : Nat)
  | duplicateEvent (id : String)
  | invalidTimestamp (text : String)
  | invalidUuid (text : String)
  | serialization (text : String)
  | database (fault : DatabaseFault)
  | unavailable (outage : Outage)
  | notEnabled (backend : String)
  deriving DecidableEq, Repr

def StorageFault.message : StorageFault → String
  | .invalidSelection fault => s!"Invalid selection: {fault.reason}"
  | .unstorable type => s!"Event \"{type}\" cannot be stored"
  | .invalidLiteral fault => s!"Invalid literal: {fault.message}"
  | .versionConflict stream version => s!"Version conflict: stream={stream}, version={version}"
  | .duplicateEvent id => s!"Duplicate event id: {id}"
  | .invalidTimestamp text => s!"Invalid timestamp: {text}"
  | .invalidUuid text => s!"Invalid UUID: {text}"
  | .serialization text => s!"Serialization error: {text}"
  | .database fault => s!"Database error: {fault.reason}"
  | .unavailable outage => s!"Storage unavailable: {outage.reason}"
  | .notEnabled backend => s!"Storage type not enabled: {backend}"

namespace Selector

/-- A read needs a stream or a category to go by, and its stream has to be absolute. -/
def checkReadable (selector : Selector) : Except StorageFault Unit :=
  if selector.everything then .ok ()
  else if selector.relative then .error (.invalidSelection (.relative selector))
  else if selector.stream.isEmpty && selector.categories.isEmpty then
    .error (.invalidSelection (.unbounded selector))
  else .ok ()

end Selector
end EventStore
