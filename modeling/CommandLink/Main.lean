import CommandLink.Client.Program

/-!
# The client program on a machine

Takes the environment, the files and the words of the command line from the operating system, runs
the program on them and carries out what it decides. No network is built in, so no server is
reached.
-/

namespace CommandLink.Client

/-- The variables that the program looks at. -/
def variableNames : List String :=
  ["HOME", "XDG_CONFIG_HOME", "RELAY_URL", buildTokenVariable, "RELAY_CREDENTIALS_FILE",
    "RELAY_LOG", "RELAY_LOG_FORMAT", "RELAY_LOG_FILE", "RELAY_FRAME_LIMIT", "RELAY_HEARTBEAT_INTERVAL"]

/-- The environment of the process. -/
def readEnvironment : IO Environment := do
  let mut env : Environment := .empty
  for name in variableNames do
    if let some value ← IO.getEnv name then
      env := env.insert name (Text.Utf8.ofString value)
  return env

/-- The content of a file, if it can be read. -/
def readFile? (path : String) : IO (Option Bytes) := do
  try
    return some (← IO.FS.readBinFile path).toList
  catch _ => return none

/-- The files that matter to the program: the credential file, and the log file if it can be
opened. -/
def readFiles (credentials : Option String) (log : Option String) : IO Files := do
  let mut files : Files := { nodes := .empty, workingDirectory := [] }
  if let some path := credentials then
    if let some content ← readFile? path then files := files.provide path content
  if let some path := log then
    try
      let _ ← IO.FS.Handle.mk path .append
      files := files.provide path []
    catch _ => pure ()
  return files

/-- Writes the credential file back if it has changed. -/
def writeBack (path : String) (before after : Files) : IO Unit := do
  match (after.read path).toOption with
  | none => return
  | some content =>
    if (before.read path).toOption ≠ some content then
      IO.FS.writeBinFile path (ByteArray.mk content.toArray)

/-- Runs the program with the words behind its name; the result is the status of the process. -/
def runOnMachine (words : List String) : IO UInt32 := do
  let env ← readEnvironment
  let config := ClientConfig.load env
  let path := config.credentialsFile.orElse fun _ =>
    (CredentialStore.defaultPath env none).toOption
  let files ← readFiles path (LogConfig.load env "warn" .compact).file
  let finished := run ⟨env, none, files, .unreachable⟩ words
  IO.print finished.stdout
  IO.eprint finished.stderr
  if let some path := path then writeBack path files finished.files
  return UInt32.ofNat finished.status

end CommandLink.Client

/-- Runs the client program. -/
def main (words : List String) : IO UInt32 := CommandLink.Client.runOnMachine words
