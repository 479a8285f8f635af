import EventStore.Settings.Sources
import EventStore.Installation

/-! The availability probe: it loads the configuration, opens every store and reports one line for
each, with the scope it is concerned with and whether its backend answers. -/

namespace EventStore

structure Report where
  lines : List String
  exitCode : Nat
  deriving DecidableEq, Repr

namespace Probe

def line (backends : Backends) (enrolment : Enrolment) : String :=
  let state := if backends.isReachable enrolment.store.driver then "available" else "unavailable"
  enrolment.store.name ++ "\t" ++ enrolment.concerning.toText ++ "\t" ++ state

/-- A failure before the report leaves it empty; a store that does not answer shows in the exit
code as well. -/
def run (sources : Sources) (installation : Installation) : Report × Installation :=
  match Settings.load sources with
  | .error _ => ({ lines := [], exitCode := 1 }, installation)
  | .ok settings =>
    match installation.openPool settings with
    | (.error _, installation) => ({ lines := [], exitCode := 1 }, installation)
    | (.ok pool, installation) =>
      let backends := installation.backends
      let available := pool.enrolments.all (backends.isReachable ·.store.driver)
      ({ lines := pool.enrolments.map (line backends), exitCode := if available then 0 else 1 },
        installation)

end Probe
end EventStore
