import CommandLink.Frame.Basic
import CommandLink.Text.Integer
import CommandLink.Text.Quoted

/-!
# Frames in diagnostics

How credentials, calls, replies and frames are shown in logs and error messages. Passwords and tokens
are never shown, only whether there is one.
-/

namespace CommandLink

open Text (quoted shownOption shownList)

/-- What stands in place of a secret. -/
def redacted : String := "<redacted>"

/-- A record shown by its name and its fields. -/
def shownRecord (name : String) (fields : List (String × String)) : String :=
  name ++ " \x7b " ++
    String.intercalate ", " (fields.map fun field => field.1 ++ ": " ++ field.2) ++ " \x7d"

/-- An optional text. -/
def shownText (value : Option String) : String := shownOption (value.map quoted)

/-- An optional secret: only whether there is one. -/
def shownSecret (value : Option String) : String :=
  shownOption (value.map fun _ => quoted redacted)

/-- Credentials without their password. -/
def Credentials.shown (c : Credentials) : String :=
  shownRecord "CredentialArgs"
    [("username", shownText c.username), ("password", shownSecret c.password),
      ("password_file", shownText c.passwordFile)]

/-- An invocation without its password. -/
def Invocation.shown (i : Invocation) : String :=
  shownRecord "CommandInvocation"
    [("args", shownList (i.args.map quoted)), ("credentials", i.credentials.shown)]

/-- An outcome. -/
def Outcome.shown (o : Outcome) : String :=
  shownRecord "CommandOutcome"
    [("exit_code", Text.decimal o.exitCode.toInt), ("stdout", quoted o.stdout),
      ("stderr", quoted o.stderr)]

/-- A call. Of the calls that a server makes only the kind is shown, and the server's address where
a token is to be kept. -/
def Call.shown : Call → String
  | .execute i => "Execute(" ++ i.shown ++ ")"
  | .storeToken url _ => shownRecord "StoreToken" [("url", quoted url), ("token", quoted redacted)]
  | call => call.kind

/-- A reply without its text. -/
def Reply.shown : Reply → String
  | .outcome o => "Outcome(" ++ o.shown ++ ")"
  | .flag value => shownRecord "Flag" [("value", if value then "true" else "false")]
  | .text value => shownRecord "Text" [("value", shownSecret value)]
  | .done => "Done"

/-- The result of a call. -/
def shownResult (result : Except Failure Reply) : String :=
  match result with
  | .ok reply => "Ok(" ++ reply.shown ++ ")"
  | .error failure =>
    "Err(" ++ shownRecord "RemoteFailure" [("message", quoted failure.message)] ++ ")"

mutual

/-- A document, each value behind the name of its kind. -/
def Json.shown : Json → String
  | .null => "Null"
  | .bool value => "Bool(" ++ (if value then "true" else "false") ++ ")"
  | .num value => "Number(" ++ String.ofList value.chars ++ ")"
  | .str value => "String(" ++ quoted value ++ ")"
  | .arr items => "Array " ++ shownList (shownItems items)
  | .obj members => "Object \x7b" ++ String.intercalate ", " (shownMembers members) ++ "\x7d"

/-- The items of an array. -/
def Json.shownItems : List Json → List String
  | [] => []
  | item :: items => item.shown :: shownItems items

/-- The members of an object. -/
def Json.shownMembers : List (String × Json) → List String
  | [] => []
  | (key, value) :: members => (quoted key ++ ": " ++ value.shown) :: shownMembers members

end

/-- The identifier of a call. -/
def shownCallId (id : CallId) : String := "CallId(" ++ Text.decimal id.toNat ++ ")"

/-- A frame, with its call or its result in their own forms. -/
def Frame.shown : Frame → String
  | .request id call => shownRecord "Request" [("id", shownCallId id), ("call", call.shown)]
  | .response id result =>
    shownRecord "Response" [("id", shownCallId id), ("result", shownResult result)]
  | .property name value =>
    shownRecord "Property" [("name", quoted name), ("value", value.canonical.shown)]
  | .ping => "Ping"

end CommandLink
