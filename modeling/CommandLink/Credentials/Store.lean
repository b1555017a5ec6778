import CommandLink.Credentials.Url
import CommandLink.Environment
import CommandLink.Files
import CommandLink.Json.Printer
import CommandLink.Json.Reader

/-!
# Credential stores

A credential store keeps one token for each server, in memory and in a file. The file is written
first, as a whole, and the memory follows only when that has succeeded.
-/

namespace CommandLink

/-- Why a credential store cannot be used. -/
inductive StorageError where
  | noConfigDirectory
  | read (path : String) (error : IoError)
  | write (path : String) (error : IoError)
  | parse (path : String) (fault : Json.Fault)
  deriving DecidableEq, Repr

/-- The words for an error. -/
def StorageError.message : StorageError → String
  | .noConfigDirectory => "Could not determine the user configuration directory"
  | .read path error => "Failed to read " ++ path ++ ": " ++ error.message
  | .write path error => "Failed to write " ++ path ++ ": " ++ error.message
  | .parse path _ => "Corrupt credential file " ++ path

/-- The tokens of a store, and where they are kept. -/
structure CredentialStore where
  path : String
  entries : TextMap String

namespace CredentialStore

/-- A path below a directory. -/
def joinPath (directory name : String) : String :=
  if directory.toList.getLast? = some '/' then directory ++ name else directory ++ "/" ++ name

/-- The file where tokens are kept when no other is named. `home` is the home directory to use
where the environment names none. -/
def defaultPath (env : Environment) (home : Option String) : Except StorageError String :=
  let absolute := (env.path? "XDG_CONFIG_HOME").filter fun p => p.toList.head? = some '/'
  let userHome := ((env.path? "HOME").filter (· ≠ "")).orElse fun _ => home
  match absolute.orElse fun _ => userHome.map fun h => joinPath h ".config" with
  | some directory => .ok (joinPath (joinPath directory "relay") "credentials.json")
  | none => .error .noConfigDirectory

/-- The bytes of a file with the given tokens. -/
def content (entries : TextMap String) : Bytes :=
  Text.Utf8.encode (Json.prettyTexts entries.entries)

/-- The tokens in the bytes of a file; a blank file holds none. -/
def parseContent (path : String) (bytes : Bytes) : Except StorageError (TextMap String) :=
  match Text.Utf8.decode? bytes with
  | none => .error (.read path .notText)
  | some cs =>
    if Text.trimChars cs = [] then .ok .empty
    else (Json.parseTexts bytes).mapError (.parse path)

/-- The store of a path; where there is no file it is empty. -/
def openAt (files : Files) (path : String) : Except StorageError CredentialStore :=
  if files.hasPath path then
    match files.read path with
    | .error e => .error (.read path e)
    | .ok bytes => (parseContent path bytes).map fun entries => ⟨path, entries⟩
  else .ok ⟨path, .empty⟩

/-- The directory above a path. -/
def directoryOf (path : String) : String :=
  match Files.parent? path with
  | some "" => "."
  | some upper => upper
  | none => "."

/-- Writes tokens to the file of a path, with the directories that it needs. The result holds what
became of the files, also after a failure. -/
def writeFile (files : Files) (path : String) (entries : TextMap String) :
    Files × Except StorageError Unit :=
  let (fault, files) := files.takeFault
  match fault with
  | some (.directories e) => (files, .error (.write path e))
  | fault =>
    match files.ensureAll (directoryOf path), fault with
    | (made, .error e), _ => (made, .error (.write path e))
    | (made, .ok ()), some (.temporary e) => (made, .error (.write path e))
    | (made, .ok ()), some (.rename e) => (made, .error (.write path e))
    | (made, .ok ()), _ =>
      match made.replace path (content entries) with
      | .error e => (made, .error (.write path e))
      | .ok written => (written, .ok ())

/-- The token for a server. -/
def get? (store : CredentialStore) (url : String) : Option String :=
  store.entries.get? (normalizeUrl url)

/-- Makes `next` the tokens of the store, in the file and then in memory. -/
def commit (store : CredentialStore) (files : Files) (next : TextMap String) :
    Files × Except StorageError CredentialStore :=
  let (files, written) := writeFile files store.path next
  (files, written.map fun _ => { store with entries := next })

/-- Keeps a token for a server. -/
def put (store : CredentialStore) (files : Files) (url token : String) :
    Files × Except StorageError CredentialStore :=
  store.commit files (store.entries.insert (normalizeUrl url) token)

/-- Forgets the token for a server; nothing is written when there is none. The result says whether
there was one. -/
def remove (store : CredentialStore) (files : Files) (url : String) :
    Files × Except StorageError (CredentialStore × Bool) :=
  let key := normalizeUrl url
  if store.entries.contains key then
    let (files, committed) := store.commit files (store.entries.erase key)
    (files, committed.map fun store => (store, true))
  else (files, .ok (store, false))

end CredentialStore

end CommandLink
