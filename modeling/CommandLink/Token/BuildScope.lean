import CommandLink.Runs
import CommandLink.Token.Codec

/-!
# Build-scope tokens

A build-scope token names a run in place of a principal and has no expiry: it is good for as long
as the run is going on.
-/

namespace CommandLink

/-- The environment variable that holds a build-scope token. -/
def buildTokenVariable : String := "RELAY_CLI_COOKIE"

/-- The environment variable that holds the identifier of a run. -/
def runVariable : String := "RELAY_RUN_ID"

/-- Issues and accepts build-scope tokens. -/
structure BuildScopeTokens where
  codec : TokenCodec

namespace BuildScopeTokens

/-- The token of a run. -/
def issue (tokens : BuildScopeTokens) (run : String) : Except TokenError String :=
  if run = "" then .error (.malformed .emptyRun)
  else tokens.codec.encode [run, Text.decimal unboundedExpiry]

/-- The run that a token names, if the token is genuine. -/
def verifiedRun (tokens : BuildScopeTokens) (token : String) : Except TokenError String := do
  match ← tokens.codec.decode token 2 with
  | [run, field] =>
    if (← parseExpiry field) ≠ unboundedExpiry then throw (.malformed .timedRun)
    return run
  | fields => throw (.malformed (.fieldCount 3 (fields.length + 1)))

/-- Whether the run that a genuine token names is going on. -/
def validate (tokens : BuildScopeTokens) (runs : Runs) (token : String) : Except TokenError Bool :=
  (tokens.verifiedRun token).map runs.isExecuting

/-- The variables to export to a run. -/
def environment (tokens : BuildScopeTokens) (run : String) :
    Except TokenError (List (String × String)) := do
  let token ← tokens.issue run
  return [(buildTokenVariable, token), (runVariable, run)]

end BuildScopeTokens

end CommandLink
