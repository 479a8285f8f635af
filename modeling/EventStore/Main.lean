import EventStore.Probe

/-! The command line of the availability probe: an optional settings file is its only argument. -/

namespace EventStore.Main

def readFile? (path : String) : IO (Option String) := do
  try
    return some (← IO.FS.readFile path)
  catch _ => return none

def namedFile (path : Option String) : IO NamedFile := do
  match path with
  | none => return .unnamed
  | some path =>
    match ← readFile? path with
    | some content => return .present content
    | none => return .missing

/-- Where the system lists the variables of a process, each ended by a null character. -/
def environmentPath : String := "/proc/self/environ"

/-- A variable's name is what stands before the first equals sign. -/
def binding (text : String) : String × String :=
  (String.ofList (text.toList.takeWhile (· ≠ '=')),
    String.ofList ((text.toList.dropWhile (· ≠ '=')).drop 1))

def bindings : IO (List (String × String)) := do
  let listing := (← readFile? environmentPath).getD ""
  return (Text.splitText '\x00' listing).map binding

def sources (arguments : List String) : IO Sources := do
  return {
    working := ← readFile? Sources.workingFileName
    chosen := ← namedFile arguments.head?
    environment := ← namedFile (← IO.getEnv Sources.fileVariable)
    bindings := ← bindings }

end EventStore.Main

def main (arguments : List String) : IO UInt32 := do
  let (report, _) := EventStore.Probe.run (← EventStore.Main.sources arguments) {}
  report.lines.forM fun line => IO.println line
  return report.exitCode.toUInt32
