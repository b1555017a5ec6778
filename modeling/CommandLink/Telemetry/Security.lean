/-!
# Security events

What the security log records: an event of a known kind, which fixes its severity, with a message
and details.
-/

namespace CommandLink

/-- How grave an event is. -/
inductive Severity where
  | debug
  | info
  | warning
  | error
  | critical
  deriving DecidableEq, Repr

namespace Severity

/-- The severities, from the least on. -/
def all : List Severity := [.debug, .info, .warning, .error, .critical]

/-- The place of a severity among all. -/
def rank : Severity → Nat
  | .debug => 0
  | .info => 1
  | .warning => 2
  | .error => 3
  | .critical => 4

/-- The order of severities. -/
def compare (a b : Severity) : Ordering := Ord.compare a.rank b.rank

/-- The name of a severity in a line of the log. -/
def name : Severity → String
  | .debug => "DEBUG"
  | .info => "INFO"
  | .warning => "WARNING"
  | .error => "ERROR"
  | .critical => "CRITICAL"

/-- The level at which a severity is logged. -/
def level : Severity → String
  | .debug => "DEBUG"
  | .info => "INFO"
  | .warning => "WARN"
  | .error => "ERROR"
  | .critical => "ERROR"

end Severity

/-- The kinds of events. -/
inductive SecurityEvent where
  | authSuccess
  | authFailure
  | tokenRejected
  | tokenIssued
  | buildScopeGrant
  | logout
  | versionMismatch
  | preambleRejected
  deriving DecidableEq, Repr

namespace SecurityEvent

/-- All kinds of events. -/
def all : List SecurityEvent :=
  [.authSuccess, .authFailure, .tokenRejected, .tokenIssued, .buildScopeGrant, .logout,
   .versionMismatch, .preambleRejected]

/-- How grave events of a kind are. -/
def severity : SecurityEvent → Severity
  | .authSuccess => .info
  | .authFailure => .warning
  | .tokenRejected => .warning
  | .tokenIssued => .info
  | .buildScopeGrant => .info
  | .logout => .info
  | .versionMismatch => .warning
  | .preambleRejected => .warning

/-- The name of a kind in a line of the log. -/
def name : SecurityEvent → String
  | .authSuccess => "auth_success"
  | .authFailure => "auth_failure"
  | .tokenRejected => "token_rejected"
  | .tokenIssued => "token_issued"
  | .buildScopeGrant => "build_scope_grant"
  | .logout => "logout"
  | .versionMismatch => "version_mismatch"
  | .preambleRejected => "preamble_rejected"

end SecurityEvent

/-- One entry of the security log. -/
structure SecurityRecord where
  event : SecurityEvent
  message : String
  details : List (String × String)
  deriving DecidableEq, Repr

namespace SecurityRecord

/-- The details as one text: keys and values with an equals sign between them. -/
def detailText (r : SecurityRecord) : String :=
  String.intercalate " " (r.details.map fun d => d.1 ++ "=" ++ d.2)

/-- The line of an entry. -/
def line (r : SecurityRecord) : String :=
  let head :=
    "SECURITY " ++ r.event.severity.name ++ " " ++ r.event.name ++ ": " ++ r.message
  if r.detailText = "" then head else head ++ " | " ++ r.detailText

end SecurityRecord

end CommandLink
