import CommandLink.Client.Callbacks
import CommandLink.Client.Error

/-!
# Connections to a server

A client is connected once the server has published what it offers and speaks the client's protocol
version; before that no command is run. Where that fails, the channel is closed.
-/

namespace CommandLink

namespace EntryPoint

/-- What a server offers, if the value that it has published is in order and of this version. -/
def accept (v : Json) : Except ClientError EntryPoint :=
  match v.protocolVersion? with
  | none => .error (.handshake .noVersion)
  | some version =>
    if version = CommandLink.protocolVersion then
      (read version v).mapError fun fault => .handshake (.malformed fault)
    else .error (.versionMismatch version CommandLink.protocolVersion)

end EntryPoint

namespace Client

variable {ω ρ : Type}

/-- How long a server may take to publish what it offers, in milliseconds. -/
def handshakePatience : Nat := 15000

/-- Waits for what the server offers. -/
def handshake : Routine ω ρ (Except ClientError EntryPoint) := do
  match ← Routine.property entryPointProperty (some handshakePatience) with
  | none => return .error (.handshake .notPublished)
  | some (.error e) => return .error (.channel e)
  | some (.ok v) =>
    match EntryPoint.accept v with
    | .ok entryPoint => return .ok entryPoint
    | .error (.versionMismatch server client) =>
      Routine.logSecurity .versionMismatch "server protocol version differs"
        [("server", Text.decimal server.toNat)]
      return .error (.versionMismatch server client)
    | .error e => return .error e

/-- Connects to the server at the other end of the channel. -/
def connect : Routine ω ρ (Except ClientError EntryPoint) := do
  match ← handshake with
  | .ok entryPoint => return .ok entryPoint
  | .error e =>
    Routine.close
    return .error e

/-- Runs a command on the server. -/
def execute (args : List String) (credentials : Credentials) :
    Routine ω ρ (Except ClientError Outcome) := do
  let call : Call := .execute ⟨args, credentials⟩
  match ← Routine.call call with
  | .ok (.outcome outcome) => return .ok outcome
  | .ok reply => return .error (.channel (.unexpected call reply))
  | .error e => return .error (.channel e)

/-- Asks whether the server has a command. -/
def hasCommand (name : String) : Routine ω ρ (Except ClientError Bool) := do
  let call : Call := .hasCommand name
  match ← Routine.call call with
  | .ok (.flag value) => return .ok value
  | .ok reply => return .error (.channel (.unexpected call reply))
  | .error e => return .error (.channel e)

/-- Connects to the server at the other end of the channel, runs a command there and closes the
channel. -/
def converse (args : List String) (credentials : Credentials) :
    Routine ω ρ (Except ClientError Outcome) := do
  match ← connect with
  | .error e => return .error e
  | .ok _ =>
    let result ← execute args credentials
    Routine.close
    return result

end Client

end CommandLink
