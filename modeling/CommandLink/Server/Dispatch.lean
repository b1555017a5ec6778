import CommandLink.Auth.Resolver
import CommandLink.Frame.Encode
import CommandLink.Server.Builtin

/-!
# Dispatch

How a server handles the calls of a client. A command is run when its name is known and the request
has a principal, once and on behalf of that principal.
-/

namespace CommandLink.Server

variable {ρ : Type}

/-- The outcome for a name that no command has. -/
def unknownCommand (name : String) : Outcome :=
  ⟨-1, "", "No such command: " ++ name ++ "\nRun 'help' to list the available commands.\n"⟩

/-- The outcome of a request without a principal. -/
def refused (e : AuthError) : Outcome := ⟨-1, "", "authentication failed: " ++ e.message ++ "\n"⟩

/-- The principal of a request. -/
def resolve (profile : Profile) (request : Auth.Request) :
    Routine Auth.Knowledge ρ (Except AuthError Principal) :=
  (Auth.resolve (Auth.standard profile.sessions profile.tokens) request).interpret answerQuestion

/-- Runs a command that is known. -/
def runCommand (profile : Profile) (commands : Registry ρ) (command : Command ρ)
    (invocation : Invocation) : Routine Auth.Knowledge ρ (Option Outcome) := do
  let resolved ← resolve profile ⟨invocation.credentials, profile.rootUrl⟩
  match resolved with
  | .error e =>
    Routine.logAll (LogEntry.result (some e.message))
    return some (refused e)
  | .ok principal =>
    Routine.logAll (LogEntry.result none)
    Routine.log (.field "principal" (.text principal.name))
    match ← command.run ⟨invocation.args.drop 1, principal, profile, commands.infos⟩ with
    | none => return none
    | some outcome =>
      Routine.log (.field "exit_code" (.int outcome.exitCode.toInt))
      return some outcome

/-- Runs a command on the connection of the given name. -/
def execute (profile : Profile) (commands : Registry ρ) (connection : String)
    (invocation : Invocation) : Routine Auth.Knowledge ρ (Option Outcome) := do
  Routine.log (.span invocation.commandName connection)
  match commands.get? invocation.commandName with
  | none => return some (unknownCommand invocation.commandName)
  | some command => runCommand profile commands command invocation

/-- Handles the calls of a client. -/
def handler (profile : Profile) (commands : Registry ρ) (connection : String) :
    Handler Auth.Knowledge ρ := fun call => do
  match call with
  | .execute invocation =>
    match ← execute profile commands connection invocation with
    | some outcome => return .answered (.ok (.outcome outcome))
    | none => return .panicked
  | .hasCommand name => return .answered (.ok (.flag (commands.contains name)))
  | call => return .answered (.error ⟨call.kind ++ " is not served by the server"⟩)

/-- Serves one connection: publishes what the server offers, and stays until the channel closes. -/
def serveConnection (profile : Profile) (commands : Registry ρ) :
    Routine Auth.Knowledge ρ Unit := do
  match ← Routine.publish entryPointProperty (entryPoint profile commands).toJson with
  | .error _ => Routine.close
  | .ok () =>
    Routine.closed
    Routine.close

end CommandLink.Server
