import CommandLink.Client.Callbacks
import CommandLink.Client.Connection
import CommandLink.Config
import CommandLink.Net.Url
import CommandLink.Text.Repaired
import CommandLink.Transport.Error

/-!
# Linking to a server

A client asks a server how it can be reached. A server that announces a port is connected to
directly, any other one through a pair of requests. What the network does is up to whoever provides
it (`Network`); `Network.unreachable` reaches nothing.
-/

namespace CommandLink

/-- A link to a server: it opens a channel on the client's end, runs a routine there until that has
ended, and gives back what the client then holds. -/
structure Link where
  kind : TransportKind
  converse : ChannelConfig → ClientState →
    Routine ClientState Empty (Except ClientError Outcome) →
    ClientState × Except ClientError Outcome

/-- What a client can do on a network. -/
structure Network where
  /-- The headers that an address answers with, if it answers. -/
  head : Net.Url → Option (List (String × Bytes))
  /-- Connects to a host and port. -/
  dial : (address : String) → Except IoError Link
  /-- Opens a pair of requests at an address; the answer has a status. -/
  tunnel : Net.Url → Option (Nat × Link)

namespace Network

/-- The network on which nothing is reached. -/
def unreachable : Network := ⟨fun _ => none, fun _ => .error .connectionRefused, fun _ => none⟩

/-- The address of a server. -/
def serverUrl (url : String) : Except TransportError Net.Url :=
  (Net.Url.parse (normalizeUrl url)).mapError fun e => .invalidUrl url e.message

/-- The port that headers announce. The first header of the name counts, and it has to be a number
for a port, perhaps between blanks. -/
def announcedPort (headers : List (String × Bytes)) : Except TransportError (Option Nat) :=
  let isPlain (b : UInt8) : Bool := b.toNat = 9 || (32 ≤ b.toNat && b.toNat < 127)
  let name := cliPortHeader.toList.map Char.toLower
  match headers.find? fun h => h.1.toList.map Char.toLower = name with
  | none => .ok none
  | some (_, value) =>
    let text := Text.repaired value
    match value.all isPlain, Text.naturalUpTo? 65535 (Text.trim text) with
    | true, some port => .ok (some port)
    | _, _ => .error (.malformedHeader cliPortHeader text)

/-- The port that a server announces for direct connections. -/
def probe (network : Network) (base : Net.Url) : Except TransportError (Option Nat) :=
  match network.head base with
  | none => .error (.http base.withoutUser.text)
  | some headers => announcedPort headers

/-- Connects to a port of a server. -/
def connectDirect (network : Network) (base : Net.Url) (port : Nat) : Except TransportError Link :=
  let address := base.host.text ++ ":" ++ Text.decimal port
  (network.dial address).mapError (.connect address)

/-- The address at which a server takes pairs of requests. -/
def tunnelUrl (base : Net.Url) : Net.Url :=
  { base with path := base.path.dropLast ++ ["cli"], query := none, fragment := none }

/-- Links to a server through a pair of requests. -/
def connectTunnel (network : Network) (base : Net.Url) : Except TransportError Link :=
  let url := tunnelUrl base
  match network.tunnel url with
  | none => .error (.http url.withoutUser.text)
  | some (status, link) =>
    if 200 ≤ status ∧ status < 300 then .ok link else .error (.status "tunnel download" status)

/-- Links to a server. -/
def connect (network : Network) (base : Net.Url) : Except TransportError Link := do
  match ← network.probe base with
  | some port => network.connectDirect base port
  | none => network.connectTunnel base

/-- Connects to a server, runs a command there and closes the channel. -/
def runCommand (network : Network) (url : String) (config : ChannelConfig) (state : ClientState)
    (args : List String) (credentials : Credentials) :
    ClientState × Except ClientError Outcome :=
  match (serverUrl url).bind network.connect with
  | .error e => (state, .error (.transport e))
  | .ok link => link.converse config state (Client.converse args credentials)

end Network

end CommandLink
