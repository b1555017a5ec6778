import CommandLink.Server.Callback
import CommandLink.Server.Command

/-!
# Built-in commands

The commands that every server offers: to list the commands, to tell who one is, to tell the
version, and to log in and out.
-/

namespace CommandLink.Server

variable {ρ : Type}

/-- An exit code and what was printed. -/
def printed (exitCode : Int32) (stdout stderr : String) : Option Outcome :=
  some ⟨exitCode, stdout, stderr⟩

/-- A text with blanks behind it up to a number of characters. -/
def padded (width : Nat) (s : String) : String :=
  s ++ String.ofList (List.replicate (width - s.length) ' ')

/-- One line for each command. The descriptions start in one column, which lies behind the name
with the most bytes. -/
def listing (commands : List CommandInfo) : String :=
  let width := (commands.map fun c => c.name.utf8ByteSize).foldl Nat.max 0
  String.join (commands.map fun c => "  " ++ padded width c.name ++ "  " ++ c.description ++ "\n")

/-- Lists the commands, or describes one. -/
def help : Command ρ where
  name := "help"
  description := "Lists all the available commands."
  run ctx :=
    match ctx.args with
    | [] => return printed 0 (listing ctx.commands) ""
    | name :: _ =>
      match ctx.commands.find? fun c => c.name = name with
      | some c => return printed 0 (c.name ++ "\n    " ++ c.description ++ "\n") ""
      | none => return printed (-1) "" ("No such command: " ++ name ++ "\n")

/-- Tells who one is. -/
def whoAmI : Command ρ where
  name := "who-am-i"
  description := "Reports your credential and permissions."
  run ctx := return printed 0 ("Authenticated as: " ++ ctx.principal.name ++ "\n") ""

/-- Tells the version of the server. -/
def version : Command ρ where
  name := "version"
  description := "Outputs the current version."
  run ctx := return printed 0 (ctx.profile.version ++ "\n") ""

/-- Gives the client a session token to keep. -/
def login : Command ρ where
  name := "login"
  description :=
    "Saves the current credential to allow future commands to run without explicit credential " ++
      "information."
  run ctx := do
    match ctx.principal.account? with
    | none => return printed (-1) "" "No credentials specified. Use -u and -p to log in.\n"
    | some user =>
      let known ← Routine.look
      match ctx.profile.sessions.issueAt user known.now with
      | .error e =>
        return printed (-1) "" ("Could not issue a session token: " ++ e.message ++ "\n")
      | .ok token =>
        match ← storeToken ctx.profile.rootUrl token with
        | .ok () =>
          Routine.logSecurity .tokenIssued "session token stored on client" [("user", user)]
          return printed 0 ("Logged in as " ++ user ++ "\n") ""
        | .error e =>
          return printed (-1) "" ("Could not store the session token: " ++ e.message ++ "\n")

/-- Makes the client forget its session token. -/
def logout : Command ρ where
  name := "logout"
  description := "Deletes the credential stored with the login command."
  run ctx := do
    if ctx.principal.isAuthenticated then
      match ← removeToken ctx.profile.rootUrl with
      | .ok existed =>
        Routine.logSecurity .logout "session token removed from client"
          [("principal", ctx.principal.name)]
        let note := if existed then "" else "No stored credential for " ++ ctx.profile.rootUrl ++ "\n"
        return printed 0 "" note
      | .error e =>
        return printed (-1) "" ("Could not remove the stored credential: " ++ e.message ++ "\n")
    else return printed (-1) "" "Must provide credentials\n"

/-- The built-in commands. -/
def builtins : Registry ρ :=
  [help, whoAmI, version, login, logout].foldl Registry.register TextMap.empty

end CommandLink.Server
