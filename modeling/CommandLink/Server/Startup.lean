import CommandLink.Config
import CommandLink.Credentials.Url
import CommandLink.Realm
import CommandLink.Server.Admission
import CommandLink.Server.Dispatch

/-!
# Starting and stopping a server

A server takes its accounts and its limits from its configuration and listens at its addresses: for
direct connections first, if there are to be any, and then for requests. If it cannot listen at one
of them, it does not start. When it is told to stop, it waits for its connections until a time that
it works out from its configuration.
-/

namespace CommandLink.Server

/-- A remark in the log of a server. -/
structure Remark where
  level : String
  text : String
  deriving DecidableEq, Repr

/-- A server that runs. -/
structure Running (ρ : Type) where
  profile : Profile
  commands : Registry ρ
  realm : Realm
  runs : Runs
  admission : Admission
  channel : ChannelConfig
  /-- Direct connections are taken. -/
  direct : Bool

/-- An address with another port. -/
def withPort (address : Net.SocketAddress) (port : Nat) : Net.SocketAddress :=
  match address with
  | .v4 octets _ => .v4 octets port
  | .v6 groups scope _ => .v6 groups scope port

/-- The port of an address. -/
def portOf : Net.SocketAddress → Nat
  | .v4 _ port => port
  | .v6 _ _ port => port

/-- The addresses at which a server listens, in order. -/
def addresses (config : ServerConfig) : List Net.SocketAddress :=
  let direct := match config.cliPort with
    | some port => [withPort config.httpAddress port]
    | none => []
  direct ++ [config.httpAddress]

/-- Whether it is possible to listen at all the addresses; `isLocal` says which ones the machine has.
An address is taken once it is listened at, unless the machine chooses its port. -/
def canListen (isLocal : Net.SocketAddress → Bool) (taken : List Net.SocketAddress) :
    List Net.SocketAddress → Bool
  | [] => true
  | a :: later =>
    isLocal a && !(portOf a ≠ 0 && taken.contains a) && canListen isLocal (a :: taken) later

/-- The accounts that a configuration sets up. -/
def seededRealm (salt : Nat → Bytes) (users : List UserSeed) : Realm :=
  users.zipIdx.foldl (fun realm u => realm.addUser (salt u.2) u.1.name u.1.password) .empty

/-- The version of the server. -/
def serverVersion : String := "0.3.0"

/-- A server of a configuration. `madeUp` is the key that is used where none is configured. -/
def configured {ρ : Type} (config : ServerConfig) (madeUp : SecretKey) (salt : Nat → Bytes)
    (commands : Registry ρ) : Running ρ :=
  let codec : TokenCodec := ⟨config.key.getD madeUp⟩
  { profile :=
      { rootUrl := normalizeUrl config.rootUrl
        version := serverVersion
        sessions := ⟨codec, Duration.millis (config.sessionSeconds * 1000)⟩
        tokens := ⟨codec⟩ }
    commands := commands
    realm := seededRealm salt config.users
    runs := .empty
    admission := .empty config.maxConnections
    channel := config.channel
    direct := config.cliPort.isSome }

/-- What a server says in its log as it starts, and whether it starts. -/
def startRemarks (isLocal : Net.SocketAddress → Bool) (config : ServerConfig) :
    List Remark × Bool :=
  let key := if config.key.isNone then
      [Remark.mk "WARN" "RELAY_SECRET_KEY not set; tokens will not survive a restart"]
    else []
  let users := if config.users = [] then
      [Remark.mk "WARN" "no users configured; only anonymous access is possible"]
    else []
  let starts := canListen isLocal [] (addresses config)
  let failure := if starts then [] else [Remark.mk "ERROR" "server failed to start"]
  (key ++ users ++ failure, starts)

/-- How a server ends that is told to stop. -/
inductive Ending where
  /-- It has waited for its connections. -/
  | drained (result : Connections.DrainResult)
  /-- It breaks down, since it would have to wait until a time that the clock does not get to. -/
  | brokenDown
  deriving DecidableEq, Repr

/-- The status with which the program of a server ends. -/
def Ending.status : Ending → Nat
  | .drained _ => 0
  | .brokenDown => 101

/-- Stops a server at a time of the clock, while its slots are given back at the given times. -/
def stop (config : ServerConfig) (now : ClockTime) (slots : Connections)
    (releases : List Connections.Release) : Ending :=
  match slots.drain now (config.shutdownSeconds * 1000) releases with
  | none => .brokenDown
  | some (result, _) => .drained result

end CommandLink.Server
