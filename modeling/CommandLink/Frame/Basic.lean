import CommandLink.Json.Basic

/-!
# Frames

What the two ends of a link say to each other. A *request* carries a call and an identifier, and a
*response* carries the outcome of the call with that identifier; both travel in either direction.
A *property* makes a value known under a name, and a *ping* says nothing.
-/

namespace CommandLink

/-- The protocol version that this library speaks. Both ends must speak the same one. -/
def protocolVersion : UInt32 := 1

/-- The property under which a server publishes what it offers. -/
def entryPointProperty : String := "relay.cli.entry-point"

/-- The limit on the size of a frame body, where no other is configured. -/
def defaultFrameLimit : Nat := 16 * 1024 * 1024

/-- A command that a server offers. -/
structure CommandInfo where
  name : String
  description : String
  deriving DecidableEq, Repr

/-- What a server offers. -/
structure EntryPoint where
  protocolVersion : UInt32
  serverVersion : String
  commands : List CommandInfo
  deriving DecidableEq, Repr

/-- Credentials given on the command line. -/
structure Credentials where
  username : Option String
  password : Option String
  passwordFile : Option String
  deriving DecidableEq, Repr

/-- No credentials. -/
def Credentials.none : Credentials := ⟨.none, .none, .none⟩

/-- One run of a remote command: its name and arguments, and the credentials to run it with. -/
structure Invocation where
  args : List String
  credentials : Credentials
  deriving DecidableEq, Repr

/-- The name of the command to run. -/
def Invocation.commandName (i : Invocation) : String := i.args.headD "help"

/-- What a remote command came to. -/
structure Outcome where
  exitCode : Int32
  stdout : String
  stderr : String
  deriving DecidableEq, Repr

/-- What one end may ask of the other. A client asks for the first two, a server for the rest. -/
inductive Call where
  /-- Run a command. -/
  | execute (invocation : Invocation)
  /-- Is there a command of this name? -/
  | hasCommand (name : String)
  /-- Read a password file on the client's machine. -/
  | readPasswordFile (path : String)
  /-- Ask for a password on the client's terminal. -/
  | promptPassword (prompt : String)
  /-- The session token that the client keeps for a server. -/
  | readStoredToken (url : String)
  /-- Keep a session token for a server. -/
  | storeToken (url token : String)
  /-- Forget the session token for a server. -/
  | removeToken (url : String)
  /-- The build-scope token in the client's environment. -/
  | readBuildToken
  deriving DecidableEq, Repr

/-- What a call is answered with. -/
inductive Reply where
  | outcome (outcome : Outcome)
  | flag (value : Bool)
  /-- Passwords and tokens travel in this form. -/
  | text (value : Option String)
  | done
  deriving DecidableEq, Repr

/-- Why the end that handled a call could not answer it. -/
structure Failure where
  message : String
  deriving DecidableEq, Repr

/-- What ties a response to its request. -/
abbrev CallId := UInt64

/-- What travels on a link. -/
inductive Frame where
  | request (id : CallId) (call : Call)
  | response (id : CallId) (result : Except Failure Reply)
  | property (name : String) (value : Json)
  /-- Keeps an idle link alive. -/
  | ping
  deriving Repr

/-- The names of the kinds of calls, in the order that also numbers them. -/
def Call.kinds : List String :=
  ["execute", "has_command", "read_password_file", "prompt_password", "read_stored_token",
   "store_token", "remove_token", "read_build_token"]

/-- The name of the kind of a call. -/
def Call.kind : Call → String
  | .execute _ => "execute"
  | .hasCommand _ => "has_command"
  | .readPasswordFile _ => "read_password_file"
  | .promptPassword _ => "prompt_password"
  | .readStoredToken _ => "read_stored_token"
  | .storeToken _ _ => "store_token"
  | .removeToken _ => "remove_token"
  | .readBuildToken => "read_build_token"

theorem Call.kind_mem_kinds (call : Call) : call.kind ∈ Call.kinds := by
  cases call <;> simp [kind, kinds]

/-- The names of the kinds of replies, in the order that also numbers them. -/
def Reply.kinds : List String := ["outcome", "flag", "text", "done"]

/-- The name of the kind of a reply. -/
def Reply.kind : Reply → String
  | .outcome _ => "outcome"
  | .flag _ => "flag"
  | .text _ => "text"
  | .done => "done"

/-- The names of the kinds of frames. -/
def Frame.kinds : List String := ["request", "response", "property", "ping"]

/-- The name of the kind of a frame. -/
def Frame.kind : Frame → String
  | .request _ _ => "request"
  | .response _ _ => "response"
  | .property _ _ => "property"
  | .ping => "ping"

end CommandLink
