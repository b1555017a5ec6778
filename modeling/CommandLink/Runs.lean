import CommandLink.Table

/-!
# Runs

The runs that a server knows of, each in the state of its last event.
-/

namespace CommandLink

/-- The state of a run. -/
inductive RunState where
  | pending
  | executing
  | finished
  deriving DecidableEq, Repr

/-- The name of a state. -/
def RunState.name : RunState → String
  | .pending => "Pending"
  | .executing => "Executing"
  | .finished => "Finished"

/-- The runs that are known, by their identifiers. -/
abbrev Runs := Table String RunState

namespace Runs

/-- A run is planned. -/
def schedule (runs : Runs) (run : String) : Runs := runs.insert run .pending

/-- A run starts. -/
def begin (runs : Runs) (run : String) : Runs := runs.insert run .executing

/-- A run ends. -/
def finish (runs : Runs) (run : String) : Runs := runs.insert run .finished

/-- The state of a run, if it is known. -/
def state? (runs : Runs) (run : String) : Option RunState := runs.get? run

/-- A run is forgotten; with the state that it had, if it was known. -/
def remove (runs : Runs) (run : String) : Runs × Option RunState := (runs.erase run, runs.state? run)

/-- Whether a run is going on. -/
def isExecuting (runs : Runs) (run : String) : Bool := runs.state? run = some .executing

end Runs

end CommandLink
