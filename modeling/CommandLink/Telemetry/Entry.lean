import CommandLink.Telemetry.Security

/-!
# Log entries

What a log shows of the handling of commands: security events, the start of a command on a
connection, and what becomes known about that command later.
-/

namespace CommandLink

/-- The value of a field of a command. -/
inductive FieldValue where
  | text (value : String)
  | int (value : Int)
  deriving DecidableEq, Repr

/-- One entry of a log. -/
inductive LogEntry where
  | security (record : SecurityRecord)
  /-- A command starts on a connection. -/
  | span (command connection : String)
  /-- A field of the command becomes known. -/
  | field (name : String) (value : FieldValue)
  deriving DecidableEq, Repr

namespace LogEntry

/-- The fields that say how something ended: well, or with an error. -/
def result (error : Option String) : List LogEntry :=
  match error with
  | none => [.field "status" (.text "ok")]
  | some message => [.field "status" (.text "error"), .field "error.message" (.text message)]

end LogEntry

end CommandLink
