import CommandLink.IoError
import CommandLink.Text.Integer
import CommandLink.Text.Quoted

/-!
# Transports

How two ends are linked, and why a client cannot link to a server.
-/

namespace CommandLink

/-- How two ends are linked: by a connection of their own, or through a pair of requests. -/
inductive TransportKind where
  | direct
  | tunneled
  deriving DecidableEq, Repr

namespace TransportKind

/-- The name of a kind. -/
def name : TransportKind → String
  | .direct => "direct"
  | .tunneled => "tunneled"

/-- How a kind is shown in diagnostics. -/
def shown : TransportKind → String
  | .direct => "Direct"
  | .tunneled => "Tunneled"

/-- How a transport of a kind is shown in diagnostics; a guarded one is released only when its
channel ends. -/
def shownTransport (kind : TransportKind) (guarded : Bool) : String :=
  "Transport \x7b kind: " ++ kind.shown ++ ", guarded: " ++
    (if guarded then "true" else "false") ++ " \x7d"

end TransportKind

/-- Why a client cannot link to a server. -/
inductive TransportError where
  | invalidUrl (url reason : String)
  /-- A request for this address got no answer. -/
  | http (url : String)
  | status (what : String) (status : Nat)
  | malformedHeader (header value : String)
  | connect (address : String) (error : IoError)
  | io (error : IoError)
  deriving DecidableEq, Repr

/-- The words for an error. -/
def TransportError.message : TransportError → String
  | .invalidUrl url reason => "Invalid server URL " ++ url ++ ": " ++ reason
  | .http url => "HTTP request failed: error sending request for url (" ++ url ++ ")"
  | .status what code => "Server answered " ++ Text.decimal code ++ " on " ++ what
  | .malformedHeader header value => "Malformed " ++ header ++ " header: " ++ Text.quoted value
  | .connect address error => "Connect to " ++ address ++ " failed: " ++ error.message
  | .io error => "I/O error: " ++ error.message

/-- The header in which a server announces its port for direct connections. -/
def cliPortHeader : String := "X-Relay-CLI-Port"

end CommandLink
