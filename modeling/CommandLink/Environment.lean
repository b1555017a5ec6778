import CommandLink.Table
import CommandLink.Text.Blank
import CommandLink.Text.Integer
import CommandLink.Text.Repaired

/-!
# Environments

The variables that a program is started with. A variable whose value encodes no text counts as
not set, unless it names a path, which need not be a text.
-/

namespace CommandLink

/-- Variables and their values. -/
abbrev Environment := Table String Bytes

namespace Environment

/-- The text of a variable. -/
def text? (env : Environment) (name : String) : Option String :=
  (env.get? name).bind Text.Utf8.toString?

/-- The path that a variable names, as it is shown. -/
def path? (env : Environment) (name : String) : Option String :=
  (env.get? name).map Text.repaired

/-- The text of a variable without the white space around it, unless nothing remains. -/
def trimmed? (env : Environment) (name : String) : Option String :=
  ((env.text? name).map Text.trim).filter (· ≠ "")

/-- The number that a variable holds, if it is at most `high`, else `default`. -/
def number (env : Environment) (name : String) (high default : Nat) : Nat :=
  ((env.text? name).bind (Text.naturalUpTo? high)).getD default

end Environment

end CommandLink
