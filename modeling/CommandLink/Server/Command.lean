import CommandLink.Auth.Strategy
import CommandLink.Channel.Routine
import CommandLink.TextMap

/-!
# Commands

A command has a name and a description, and a routine that runs it on the server's end of a channel
on behalf of a principal. The commands of a server are kept in the order of their names.
-/

namespace CommandLink.Server

/-- What a server is, apart from what it knows at a moment. -/
structure Profile where
  /-- The address under which clients keep this server's tokens. -/
  rootUrl : String
  version : String
  sessions : SessionTokens
  tokens : BuildScopeTokens

/-- What a command is given. -/
structure Context where
  /-- The words after the name of the command. -/
  args : List String
  principal : Principal
  profile : Profile
  /-- The commands that the server offers. -/
  commands : List CommandInfo

/-- A command. A run that comes to nothing has broken down. -/
structure Command (ρ : Type) where
  name : String
  description : String
  run : Context → Routine Auth.Knowledge ρ (Option Outcome)

/-- The name and the description of a command. -/
def Command.info {ρ : Type} (c : Command ρ) : CommandInfo := ⟨c.name, c.description⟩

/-- The commands of a server by their names. -/
abbrev Registry (ρ : Type) := TextMap (Command ρ)

namespace Registry

variable {ρ : Type}

/-- Adds a command, in place of one of the same name. -/
def register (r : Registry ρ) (c : Command ρ) : Registry ρ := r.insert c.name c

/-- What a server offers, in the order of the names. -/
def infos (r : Registry ρ) : List CommandInfo := r.entries.map fun e => e.2.info

end Registry

/-- What a server of some commands publishes. -/
def entryPoint {ρ : Type} (profile : Profile) (commands : Registry ρ) : EntryPoint :=
  ⟨protocolVersion, profile.version, commands.infos⟩

end CommandLink.Server
