import CommandLink.Client.CommandLine
import CommandLink.Client.Network
import CommandLink.Telemetry.Logging

/-!
# The client program

What the client program does with its command line: it explains its usage, or says what is wrong, or
runs one command on a server and ends as the command did.
-/

namespace CommandLink.Client

/-- How the program ends. -/
structure Finished where
  exitCode : Int32
  stdout : String
  stderr : String
  files : Files

/-- The status that the operating system is given: the low byte of the exit code. -/
def Finished.status (f : Finished) : Nat := (f.exitCode.toInt % 256).toNat

/-- The machine that the program runs on. -/
structure Machine where
  environment : Environment
  /-- The home directory where the environment names none. -/
  home : Option String
  files : Files
  network : Network

/-- The store for session tokens, if it can be had. -/
def openStore (machine : Machine) (path : Option String) : Option CredentialStore := do
  let path ← match path with
    | some path => some path
    | none => (CredentialStore.defaultPath machine.environment machine.home).toOption
  (CredentialStore.openAt machine.files path).toOption

/-- Runs the command of a command line. Nobody is asked for a password: there is no terminal. -/
def runLine (machine : Machine) (line : CommandLine) : Finished :=
  if line.showUsage then ⟨0, CommandLine.usage, "", machine.files⟩
  else
    let config := ClientConfig.load machine.environment
    match line.url.orElse fun _ => config.url with
    | none => ⟨ClientError.usageExitCode, "", UsageError.noUrl.message ++ "\n", machine.files⟩
    | some url =>
      let store := openStore machine config.credentialsFile
      let state :=
        ClientState.connected url store config.buildToken (fun _ => .ok none) machine.files
      let (state, result) :=
        machine.network.runCommand url config.channel state line.command line.credentials
      match result with
      | .ok outcome => ⟨outcome.exitCode, outcome.stdout, outcome.stderr, state.files⟩
      | .error e => ⟨e.exitCode, "", e.message ++ "\n", state.files⟩

/-- Runs the program with the words behind its name. -/
def runWords (machine : Machine) (words : List String) : Finished :=
  match CommandLine.parse words with
  | .error e =>
    ⟨ClientError.usageExitCode, "", e.message ++ "\n\n" ++ CommandLine.usage, machine.files⟩
  | .ok line => runLine machine line

/-- Starts the log and runs the program; a log that cannot be started is reported and left out. -/
def run (machine : Machine) (words : List String) : Finished :=
  let config := LogConfig.load machine.environment "warn" .compact
  let (files, started) := config.start false machine.files
  let finished := runWords { machine with files := files } words
  match started with
  | .ok () => finished
  | .error e =>
    { finished with stderr := "Logging setup failed: " ++ e.message ++ "\n" ++ finished.stderr }

end CommandLink.Client
