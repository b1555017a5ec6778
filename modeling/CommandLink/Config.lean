import CommandLink.Environment
import CommandLink.Frame.Basic
import CommandLink.Frame.Diagnostic
import CommandLink.Net.SocketAddress
import CommandLink.Text.Split
import CommandLink.Time.Calendar
import CommandLink.Token.BuildScope

/-!
# Configuration

What a server and a client take from their environment. Every environment gives a usable
configuration: what cannot be read counts as not set, and numbers are kept within their bounds.
-/

namespace CommandLink

/-- How a channel is tuned. -/
structure ChannelConfig where
  /-- The largest frame body. -/
  frameLimit : Nat
  /-- The seconds between two pings on a tunneled link. -/
  heartbeatSeconds : Nat
  deriving DecidableEq, Repr

/-- The tuning where none is configured. -/
def ChannelConfig.default : ChannelConfig := ⟨defaultFrameLimit, 30⟩

/-- The largest number of a 64-bit word. -/
def maxWord : Nat := 18446744073709551615

/-- The tuning that an environment asks for. -/
def ChannelConfig.load (env : Environment) : ChannelConfig where
  frameLimit := max 4096 (env.number "RELAY_FRAME_LIMIT" maxWord defaultFrameLimit)
  heartbeatSeconds := max 1 (env.number "RELAY_HEARTBEAT_INTERVAL" maxWord 30)

/-- An account that a server starts with. -/
structure UserSeed where
  name : String
  password : String
  deriving DecidableEq, Repr

/-- An account without its password. -/
def UserSeed.shown (user : UserSeed) : String :=
  shownRecord "UserSeed" [("name", Text.quoted user.name), ("password", Text.quoted redacted)]

/-- The account of one entry of a list: a name, a colon and a password. -/
def UserSeed.parse? (entry : List Char) : Option UserSeed :=
  match Text.splitOnce ':' (Text.trimChars entry) with
  | some ([], _) => none
  | some (name, password) => some ⟨String.ofList name, String.ofList password⟩
  | none => none

/-- The accounts of a list with commas between its entries. Entries without a name are left out. -/
def parseUsers (list : String) : List UserSeed :=
  (Text.splitOn ',' list.toList).filterMap UserSeed.parse?

/-- The configuration of a server. -/
structure ServerConfig where
  /-- The key for signing, unless one is to be made up. -/
  key : Option SecretKey
  rootUrl : String
  httpAddress : Net.SocketAddress
  /-- The port for direct connections: zero leaves the choice open, and without a port there are no
  direct connections. -/
  cliPort : Option Nat
  sessionSeconds : Nat
  users : List UserSeed
  maxConnections : Nat
  shutdownSeconds : Nat
  channel : ChannelConfig

/-- The address where a server listens when no other is configured. -/
def defaultHttpAddress : Net.SocketAddress := .v4 [127, 0, 0, 1] 8080

/-- The longest lifetime of a session: a year. -/
def maxSessionSeconds : Nat := 365 * 24 * 60 * 60

/-- The port for direct connections. A negative number means none; what is no port leaves the
choice open. -/
def loadCliPort (env : Environment) : Option Nat :=
  match env.text? "RELAY_CLI_PORT" with
  | none => some 0
  | some value =>
    match Text.int32? (Text.trim value) with
    | none => some 0
    | some port => if port < 0 then none else if port < 65536 then some port.toNat else some 0

/-- The configuration that an environment gives a server. -/
def ServerConfig.load (env : Environment) : ServerConfig where
  key := (env.trimmed? "RELAY_SECRET_KEY").map SecretKey.mk
  rootUrl := (env.trimmed? "RELAY_ROOT_URL").getD "http://127.0.0.1:8080/"
  httpAddress :=
    ((env.trimmed? "RELAY_HTTP_ADDR").bind Net.SocketAddress.parse?).getD defaultHttpAddress
  cliPort := loadCliPort env
  sessionSeconds :=
    min maxSessionSeconds (max 1 (env.number "RELAY_SESSION_TTL" maxWord (24 * 60 * 60)))
  users := ((env.trimmed? "RELAY_USERS").map parseUsers).getD []
  maxConnections := max 1 (env.number "RELAY_MAX_CONNECTIONS" maxWord 64)
  shutdownSeconds := max 1 (env.number "RELAY_SHUTDOWN_TIMEOUT" maxWord 10)
  channel := .load env

/-- A whole number of seconds. -/
def shownSeconds (n : Nat) : String := Text.decimal n ++ "s"

/-- The tuning of a channel. -/
def ChannelConfig.shown (c : ChannelConfig) : String :=
  shownRecord "ChannelConfig"
    [("max_frame_size", Text.decimal c.frameLimit),
      ("heartbeat_interval", shownSeconds c.heartbeatSeconds)]

/-- A configuration without its key and passwords. -/
def ServerConfig.shown (c : ServerConfig) (key : SecretKey) : String :=
  shownRecord "ServerEnvConfig"
    [("secret_key", key.shown), ("root_url", Text.quoted c.rootUrl),
      ("http_addr", c.httpAddress.text),
      ("cli_port", Text.shownOption (c.cliPort.map fun (p : Nat) => Text.decimal p)),
      ("session_ttl", shownSeconds c.sessionSeconds),
      ("users", Text.shownList (c.users.map UserSeed.shown)),
      ("max_connections", Text.decimal c.maxConnections),
      ("shutdown_timeout", shownSeconds c.shutdownSeconds), ("channel", c.channel.shown)]

/-- The configuration of a client. -/
structure ClientConfig where
  url : Option String
  buildToken : Option String
  credentialsFile : Option String
  channel : ChannelConfig
  deriving DecidableEq, Repr

/-- The configuration that an environment gives a client. -/
def ClientConfig.load (env : Environment) : ClientConfig where
  url := env.trimmed? "RELAY_URL"
  buildToken := env.trimmed? buildTokenVariable
  credentialsFile := env.trimmed? "RELAY_CREDENTIALS_FILE"
  channel := .load env

end CommandLink
