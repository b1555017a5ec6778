import CommandLink.Channel.Error
import CommandLink.Token.Error

/-!
# Authentication errors

Why a way of authentication does not tell who is there. Some errors end the search for a
principal, others only this way of finding one.
-/

namespace CommandLink

/-- Why a way of authentication fails. -/
inductive AuthError where
  | authentication (reason : String)
  | invalidCredentials
  | token (error : TokenError)
  | channel (error : ChannelError)
  deriving DecidableEq, Repr

namespace AuthError

/-- Whether an error ends the search for a principal. -/
def isFatal : AuthError → Bool
  | .authentication _ => true
  | .invalidCredentials => true
  | .token _ => false
  | .channel _ => false

/-- The words for an error. -/
def message : AuthError → String
  | .authentication reason => reason
  | .invalidCredentials => "Invalid username or password"
  | .token error => "Token rejected: " ++ error.message
  | .channel error => "Client call-back failed: " ++ error.message

end AuthError

end CommandLink
