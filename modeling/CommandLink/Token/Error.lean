import CommandLink.Text.Integer
import CommandLink.Text.Quoted

/-!
# Token errors

Why a token is not issued or not accepted.
-/

namespace CommandLink

/-- What is wrong with a token's form. -/
inductive Malformation where
  | noFields
  | delimiterInField (field : String)
  | fieldCount (expected found : Nat)
  | expiryNotInteger (field : String)
  /-- The lifetime is longer than durations reach. -/
  | lifetimeOutOfRange
  /-- The token would expire after the end of the calendar. -/
  | pastCalendar
  | withoutExpiry
  | expiryOutOfRange (expiry : Int)
  | emptyRun
  /-- A token that is bound to a run has an expiry in time. -/
  | timedRun
  /-- Whatever another holder of tokens reports. -/
  | reported (reason : String)
  deriving DecidableEq, Repr

/-- Why a token is not accepted. -/
inductive TokenError where
  | malformed (cause : Malformation)
  | invalidSignature
  | expired
  deriving DecidableEq, Repr

/-- The words for what is wrong with a token's form. -/
def Malformation.message : Malformation → String
  | .noFields => "no fields to encode"
  | .delimiterInField field => "field " ++ Text.quoted field ++ " contains the delimiter"
  | .fieldCount expected found =>
    "expected " ++ Text.decimal expected ++ " fields, found " ++ Text.decimal found
  | .expiryNotInteger field => "expiry is not an integer: " ++ Text.quoted field
  | .lifetimeOutOfRange =>
    "session ttl out of range: Source duration value is out of range for the target type"
  | .pastCalendar => "session ttl runs past the calendar"
  | .withoutExpiry => "session token without expiry"
  | .expiryOutOfRange expiry => "expiry out of range: " ++ Text.decimal expiry
  | .emptyRun => "empty run id"
  | .timedRun => "build-scope token carries a time expiry"
  | .reported reason => reason

/-- The words for an error. -/
def TokenError.message : TokenError → String
  | .malformed cause => "Malformed token: " ++ cause.message
  | .invalidSignature => "Invalid token signature"
  | .expired => "Token expired"

end CommandLink
