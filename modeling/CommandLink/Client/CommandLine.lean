import CommandLink.Frame.Diagnostic
import CommandLink.Text.Quoted

/-!
# The command line

Options come first. The first word that is no option starts the command, and so does a double
dash, which is left out; nothing after that is read as an option.
-/

namespace CommandLink

/-- What a command line asks for. -/
structure CommandLine where
  url : Option String
  credentials : Credentials
  /-- The name of the command and its arguments. -/
  command : List String
  showUsage : Bool
  deriving DecidableEq, Repr

/-- What is wrong with a command line. -/
inductive UsageError where
  | missingValue (option : String)
  | unknownOption (option : String)
  | noUrl
  deriving DecidableEq, Repr

/-- The words for an error. -/
def UsageError.message : UsageError → String
  | .missingValue option => "option " ++ option ++ " requires a value"
  | .unknownOption option => "unknown option " ++ option
  | .noUrl => "no server URL: pass -s URL or set RELAY_URL"

namespace CommandLine

/-- The command that is run when none is given. -/
def defaultCommand : String := "help"

/-- Nothing asked for yet. -/
def start : CommandLine := ⟨none, .none, [], false⟩

/-- Takes the words of the command. -/
def withCommand (line : CommandLine) (words : List String) : CommandLine :=
  { line with command := if words = [] then [defaultCommand] else words }

/-- Whether a word is read as an option. -/
def isOption (word : String) : Bool :=
  word.toList.head? = some '-' && word ≠ "-"

/-- Puts the value of an option in place, if the option takes one. -/
def withValue? (line : CommandLine) (option : String) : Option (String → CommandLine) :=
  if option = "-s" then some fun value => { line with url := some value }
  else if option = "-u" then
    some fun value => { line with credentials := { line.credentials with username := some value } }
  else if option = "-p" then
    some fun value => { line with credentials := { line.credentials with password := some value } }
  else if option = "--password-file" then
    some fun value =>
      { line with credentials := { line.credentials with passwordFile := some value } }
  else none

/-- Reads the words of a command line after what has been read of it. -/
def parseFrom (line : CommandLine) : List String → Except UsageError CommandLine
  | [] => .ok (line.withCommand [])
  | word :: words =>
    match line.withValue? word with
    | some put =>
      match words with
      | [] => .error (.missingValue word)
      | value :: words => parseFrom (put value) words
    | none =>
      if word = "-h" ∨ word = "--help" then parseFrom { line with showUsage := true } words
      else if word = "--" then .ok (line.withCommand words)
      else if isOption word then .error (.unknownOption word)
      else .ok (line.withCommand (word :: words))

/-- Reads the words after the name of the program. -/
def parse (words : List String) : Except UsageError CommandLine := parseFrom start words

/-- A command line without its password. -/
def shown (line : CommandLine) : String :=
  shownRecord "CliArgs"
    [("url", shownText line.url), ("credentials", line.credentials.shown),
      ("command", Text.shownList (line.command.map Text.quoted)),
      ("show_usage", if line.showUsage then "true" else "false")]

/-- How the program is used. -/
def usage : String :=
  String.intercalate "\n"
    ["relay-cli - run commands on a relay server",
     "",
     "USAGE:",
     "    relay-cli [OPTIONS] [COMMAND [ARGS...]]",
     "",
     "OPTIONS:",
     "    -s URL                 Server URL (default: $RELAY_URL)",
     "    -u USER                Authenticate as USER",
     "    -p PASSWORD            Password for USER",
     "    --password-file PATH   Read the password for USER from PATH",
     "    -h, --help             Show this help",
     "",
     "COMMAND defaults to 'help', which lists the commands the server offers.",
     "",
     "EXIT CODES:",
     "    The remote command's exit code, or",
     "    2  usage error",
     "    3  transport failure",
     "    4  protocol version mismatch",
     "",
     "ENVIRONMENT:",
     "    RELAY_URL                Default server URL",
     "    RELAY_CLI_COOKIE         Build-scope token, set by the server for runs",
     "    RELAY_CREDENTIALS_FILE   Session token file",
     "    RELAY_LOG                Log filter (default: warn)",
     "    RELAY_LOG_FILE           Append logs to this file instead of stderr",
     ""]

end CommandLine

end CommandLink
