import CommandLink.Text.Quoted

/-!
# Principals

On whose behalf a command runs.
-/

namespace CommandLink

/-- On whose behalf a command runs. -/
inductive Principal where
  /-- The owner of an account. -/
  | user (name : String)
  /-- A run that is going on. -/
  | system
  | anonymous
  deriving DecidableEq, Repr

namespace Principal

/-- The name by which a principal is addressed. -/
def name : Principal → String
  | .user name => name
  | .system => "SYSTEM"
  | .anonymous => "anonymous"

/-- Whether a principal is anyone in particular. -/
def isAuthenticated : Principal → Bool
  | .anonymous => false
  | _ => true

/-- The name of the account, if the principal has one. -/
def account? : Principal → Option String
  | .user name => some name
  | _ => none

/-- How a principal is shown in diagnostics. -/
def shown : Principal → String
  | .user name => "User(" ++ Text.quoted name ++ ")"
  | .system => "System"
  | .anonymous => "Anonymous"

end Principal

end CommandLink
