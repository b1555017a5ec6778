import CommandLink.Channel.Routine
import CommandLink.Credentials.Store

/-!
# Answers to a server

What a client answers when its server asks for passwords and tokens. Whatever address the server
names, the client only ever touches the token of the server that it is connected to.
-/

namespace CommandLink

/-- What a client holds while it is connected. -/
structure ClientState where
  /-- The address of the server, in its one form. -/
  url : String
  /-- Where session tokens are kept, if there is such a place. -/
  store : Option CredentialStore
  buildToken : Option String
  /-- What is typed in for a prompt: nothing where nobody can be asked, or why asking failed. -/
  prompt : String → Except String (Option String)
  files : Files

namespace ClientState

/-- The state of a client that is connected to the server of an address. -/
def connected (url : String) (store : Option CredentialStore) (buildToken : Option String)
    (prompt : String → Except String (Option String)) (files : Files) : ClientState :=
  ⟨normalizeUrl url, store, buildToken, prompt, files⟩

/-- Why a token cannot be kept or forgotten without a store. -/
def noStore : Failure := ⟨"no credential store on this client"⟩

/-- The content of a password file. -/
def passwordFile (s : ClientState) (path : String) : Except Failure Reply :=
  match s.files.readText path with
  | .ok contents => .ok (.text (some contents))
  | .error e => .error ⟨"cannot read " ++ path ++ ": " ++ e.message⟩

/-- A password typed in. -/
def promptPassword (s : ClientState) (prompt : String) : Except Failure Reply :=
  match s.prompt prompt with
  | .ok typed => .ok (.text typed)
  | .error e => .error ⟨"prompt failed: " ++ e⟩

/-- The token kept for the server. -/
def storedToken (s : ClientState) : Except Failure Reply :=
  .ok (.text (s.store.bind fun store => store.get? s.url))

/-- Keeps a token for the server. -/
def storeToken (s : ClientState) (token : String) : ClientState × Except Failure Reply :=
  match s.store with
  | none => (s, .error noStore)
  | some store =>
    let (files, result) := store.put s.files s.url token
    match result with
    | .ok store => ({ s with files := files, store := some store }, .ok .done)
    | .error e => ({ s with files := files }, .error ⟨e.message⟩)

/-- Forgets the token kept for the server. -/
def removeToken (s : ClientState) : ClientState × Except Failure Reply :=
  match s.store with
  | none => (s, .error noStore)
  | some store =>
    let (files, result) := store.remove s.files s.url
    match result with
    | .ok (store, existed) =>
      ({ s with files := files, store := some store }, .ok (.flag existed))
    | .error e => ({ s with files := files }, .error ⟨e.message⟩)

/-- The answer to a call, and what the client holds after it. -/
def answer (s : ClientState) (call : Call) : ClientState × Except Failure Reply :=
  match call with
  | .readPasswordFile path => (s, s.passwordFile path)
  | .promptPassword prompt => (s, s.promptPassword prompt)
  | .readStoredToken _ => (s, s.storedToken)
  | .storeToken _ token => s.storeToken token
  | .removeToken _ => s.removeToken
  | .readBuildToken => (s, .ok (.text s.buildToken))
  | .execute _ => (s, .error ⟨call.kind ++ " is not accepted by the client"⟩)
  | .hasCommand _ => (s, .error ⟨call.kind ++ " is not accepted by the client"⟩)

/-- Whether an answer takes files or a person, so that others go first. -/
def takesTime (s : ClientState) (call : Call) : Bool :=
  match call with
  | .readPasswordFile _ => true
  | .promptPassword _ => true
  | .storeToken _ _ => s.store.isSome
  | .removeToken _ => s.store.isSome
  | _ => false

end ClientState

/-- Answers the calls of a server. -/
def clientHandler {ρ : Type} : Handler ClientState ρ := fun call => do
  let s ← Routine.look
  if s.takesTime call then Routine.pause
  let s ← Routine.change fun s => (s.answer call).1
  return .answered (s.answer call).2

end CommandLink
