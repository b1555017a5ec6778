import CommandLink.Auth.Strategy
import CommandLink.Channel.Routine

/-!
# Asking the client

How a server asks its client for passwords and tokens while it handles a command, and how the
questions of authentication are put to the client.
-/

namespace CommandLink.Server

variable {ω ρ : Type}

/-- Asks for a text. -/
def askText (call : Call) : Routine ω ρ (Except ChannelError (Option String)) := do
  match ← Routine.call call with
  | .ok (.text value) => return .ok value
  | .ok reply => return .error (.unexpected call reply)
  | .error e => return .error e

/-- Asks the client to keep a token. -/
def storeToken (url token : String) : Routine ω ρ (Except ChannelError Unit) := do
  let call : Call := .storeToken url token
  match ← Routine.call call with
  | .ok .done => return .ok ()
  | .ok reply => return .error (.unexpected call reply)
  | .error e => return .error e

/-- Asks the client to forget a token; the answer says whether it kept one. -/
def removeToken (url : String) : Routine ω ρ (Except ChannelError Bool) := do
  let call : Call := .removeToken url
  match ← Routine.call call with
  | .ok (.flag existed) => return .ok existed
  | .ok reply => return .error (.unexpected call reply)
  | .error e => return .error e

/-- Asks for the content of a password file. -/
def askPasswordFile (path : String) : Routine ω ρ (Except AuthError String) := do
  match ← askText (.readPasswordFile path) with
  | .ok (some contents) => return .ok contents
  | .ok none =>
    return .error (.authentication ("password file " ++ path ++ " is unavailable"))
  | .error e => return .error (.channel e)

/-- Puts a question of authentication to the client, to what the server knows, or to the log. -/
def answerQuestion : (q : Auth.Question) → Routine Auth.Knowledge ρ q.Answer
  | .passwordFile path => askPasswordFile path
  | .prompt text => do return (← askText (.promptPassword text)).mapError .channel
  | .storedToken url => do return (← askText (.readStoredToken url)).mapError .channel
  | .buildToken => do return (← askText .readBuildToken).mapError .channel
  | .knowledge => Routine.look
  | .record entry => Routine.log (.security entry)

end CommandLink.Server
