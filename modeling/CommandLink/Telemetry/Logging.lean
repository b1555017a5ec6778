import CommandLink.Environment
import CommandLink.Files
import CommandLink.Telemetry.Filter

/-!
# Log settings

Where a program's log goes, in which form, and how much of it; and how a log is started. A program
has one log at most.
-/

namespace CommandLink

/-- The form of a log. -/
inductive LogFormat where
  | json
  | compact
  deriving DecidableEq, Repr

/-- The form of a name, in either case and with white space around it. -/
def LogFormat.parse? (value : String) : Option LogFormat :=
  let name := String.ofList ((Text.trimChars value.toList).map Char.toLower)
  if name = "json" then some .json
  else if name = "compact" ∨ name = "text" then some .compact
  else none

/-- The settings of a log. -/
structure LogConfig where
  format : LogFormat
  /-- The filter. -/
  level : String
  /-- The file to write to, if it is not the error stream. -/
  file : Option String
  deriving DecidableEq, Repr

/-- A variable that is not blank, as it stands. -/
def Environment.nonBlank? (env : Environment) (name : String) : Option String :=
  (env.text? name).filter fun value => Text.trim value ≠ ""

/-- The settings that an environment asks for. -/
def LogConfig.load (env : Environment) (level : String) (format : LogFormat) : LogConfig where
  format := ((env.text? "RELAY_LOG_FORMAT").bind LogFormat.parse?).getD format
  level := (env.nonBlank? "RELAY_LOG").getD level
  file := env.nonBlank? "RELAY_LOG_FILE"

/-- Why a log is not started. -/
inductive LogError where
  | invalidFilter
  | cannotOpen (path : String) (error : IoError)
  | alreadyStarted
  deriving DecidableEq, Repr

/-- The words for an error. -/
def LogError.message : LogError → String
  | .invalidFilter => "Invalid log filter: invalid filter directive"
  | .cannotOpen path error => "Failed to open log file: " ++ path ++ ": " ++ error.message
  | .alreadyStarted => "Subscriber already initialized"

/-- Starts the log of a program; `started` says that it has one already. The filter is looked at
first, and the file is opened before anything else can go wrong. -/
def LogConfig.start (c : LogConfig) (started : Bool) (files : Files) :
    Files × Except LogError Unit :=
  let result : Except LogError Unit := if started then .error .alreadyStarted else .ok ()
  if ¬ Telemetry.isFilter c.level then (files, .error .invalidFilter)
  else
    match c.file with
    | none => (files, result)
    | some path =>
      match files.openForAppend path with
      | .error e => (files, .error (.cannotOpen path e))
      | .ok files => (files, result)

end CommandLink
