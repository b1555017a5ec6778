import CommandLink.Auth.Error
import CommandLink.Auth.Principal
import CommandLink.Dialogue
import CommandLink.Frame.Basic
import CommandLink.Realm
import CommandLink.Telemetry.Security
import CommandLink.Text.Blank
import CommandLink.Token.BuildScope
import CommandLink.Token.Session

/-!
# Ways of authentication

A way of authentication finds a principal for a request, or finds none, or fails. It may ask the
client for passwords and tokens, look at what the server knows at the moment, and write to the
security log; these are the questions of its dialogue.
-/

namespace CommandLink.Auth

/-- What is to be authenticated. -/
structure Request where
  credentials : Credentials
  /-- The address under which the client keeps this server's token. -/
  rootUrl : String
  deriving DecidableEq, Repr

/-- What a server knows at a moment. -/
structure Knowledge where
  realm : Realm
  runs : Runs
  now : Instant

/-- What a way of authentication may ask. -/
inductive Question where
  /-- The content of a password file. -/
  | passwordFile (path : String)
  /-- A password typed in. -/
  | prompt (text : String)
  /-- The session token that the client keeps. -/
  | storedToken (url : String)
  /-- The build-scope token of the client. -/
  | buildToken
  /-- What the server knows. -/
  | knowledge
  /-- Nothing: an entry for the security log. -/
  | record (entry : SecurityRecord)

/-- What answers a question. -/
abbrev Question.Answer : Question → Type
  | .passwordFile _ => Except AuthError String
  | .prompt _ => Except AuthError (Option String)
  | .storedToken _ => Except AuthError (Option String)
  | .buildToken => Except AuthError (Option String)
  | .knowledge => Knowledge
  | .record _ => Unit

/-- A program that asks such questions. -/
abbrev Inquiry (α : Type) := Dialogue Question Question.Answer α

/-- A way of authentication: its name, and its attempt at a request. -/
structure Strategy where
  name : String
  attempt : Request → Inquiry (Except AuthError (Option Principal))

namespace Inquiry

/-- Asks for the content of a password file. -/
def passwordFile (path : String) : Inquiry (Except AuthError String) :=
  Dialogue.question (Question.passwordFile path)

/-- Asks for a password to be typed in. -/
def prompt (text : String) : Inquiry (Except AuthError (Option String)) :=
  Dialogue.question (Question.prompt text)

/-- Asks for the session token that the client keeps. -/
def storedToken (url : String) : Inquiry (Except AuthError (Option String)) :=
  Dialogue.question (Question.storedToken url)

/-- Asks for the build-scope token of the client. -/
def buildToken : Inquiry (Except AuthError (Option String)) :=
  Dialogue.question Question.buildToken

/-- Looks at what the server knows. -/
def knowledge : Inquiry Knowledge := Dialogue.question Question.knowledge

/-- Writes to the security log. -/
def record (event : SecurityEvent) (message : String) (details : List (String × String)) :
    Inquiry Unit :=
  Dialogue.question (Question.record ⟨event, message, details⟩)

end Inquiry

/-- The password that a request comes with: that of the file, if one is named, else the one given,
else one typed in. -/
def password (request : Request) (user : String) : Inquiry (Except AuthError (Option String)) := do
  match request.credentials.passwordFile, request.credentials.password with
  | some path, _ =>
    match ← Inquiry.passwordFile path with
    | .ok contents => return .ok (some (Text.trim contents))
    | .error e =>
      return .error (.authentication ("cannot read password file " ++ path ++ ": " ++ e.message))
  | none, some given => return .ok (some given)
  | none, none =>
    match ← Inquiry.prompt ("Password for " ++ user ++ ": ") with
    | .ok typed => return .ok typed
    | .error e => return .error (.authentication ("cannot prompt for password: " ++ e.message))

/-- By a user name and a password. -/
def explicit : Strategy where
  name := "explicit"
  attempt request := do
    match request.credentials.username with
    | none => return .ok none
    | some user =>
      match ← password request user with
      | .error e => return .error e
      | .ok none => return .error (.authentication "no password specified")
      | .ok (some given) =>
        let known ← Inquiry.knowledge
        if known.realm.authenticates user given then
          Inquiry.record .authSuccess "explicit credentials accepted" [("user", user)]
          return .ok (some (.user user))
        else return .error .invalidCredentials

/-- By the session token that the client keeps, for as long as the account exists. -/
def storedToken (sessions : SessionTokens) : Strategy where
  name := "stored_token"
  attempt request := do
    match ← Inquiry.storedToken request.rootUrl with
    | .error e => return .error e
    | .ok none => return .ok none
    | .ok (some token) =>
      let known ← Inquiry.knowledge
      match sessions.verifyAt token known.now with
      | .error e => return .error (.token e)
      | .ok claims =>
        if known.realm.hasUser claims.principal then
          Inquiry.record .authSuccess "stored session token accepted"
            [("user", claims.principal)]
          return .ok (some (.user claims.principal))
        else return .ok none

/-- By the build-scope token of the client, for as long as its run is going on. -/
def buildScope (tokens : BuildScopeTokens) : Strategy where
  name := "build_scope"
  attempt _ := do
    match ← Inquiry.buildToken with
    | .error e => return .error e
    | .ok none => return .ok none
    | .ok (some token) =>
      match tokens.verifiedRun token with
      | .error e => return .error (.token e)
      | .ok run =>
        let known ← Inquiry.knowledge
        if known.runs.isExecuting run then
          Inquiry.record .buildScopeGrant "build-scope token accepted" [("run", run)]
          return .ok (some .system)
        else return .ok none

/-- Nobody in particular, always. -/
def anonymous : Strategy where
  name := "anonymous"
  attempt _ := return .ok (some .anonymous)

/-- The ways of authentication of a server, in the order in which they are tried. -/
def standard (sessions : SessionTokens) (tokens : BuildScopeTokens) : List Strategy :=
  [explicit, storedToken sessions, buildScope tokens, anonymous]

end CommandLink.Auth
