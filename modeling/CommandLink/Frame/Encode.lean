import CommandLink.Frame.Basic
import CommandLink.Frame.Error
import CommandLink.Json.Printer

/-!
# Encoded frames

A frame is written as an object whose first member names its kind, and whose other members are its
fields in the order of their declaration. The body travels behind its length in four bytes. A body
over the limit is not sent (`Frame.wire`).
-/

namespace CommandLink

open Json (str obj arr)

/-- A text or nothing. -/
def Json.optional (value : Option String) : Json :=
  match value with
  | some s => .str s
  | none => .null

namespace CommandInfo

/-- The document of a command description. -/
def toJson (c : CommandInfo) : Json :=
  .obj [("name", .str c.name), ("description", .str c.description)]

end CommandInfo

/-- The document of what a server offers. -/
def EntryPoint.toJson (e : EntryPoint) : Json :=
  .obj [("protocol_version", .num (.ofUInt32 e.protocolVersion)),
    ("server_version", .str e.serverVersion),
    ("commands", .arr (e.commands.map CommandInfo.toJson))]

/-- The document of credentials. -/
def Credentials.toJson (c : Credentials) : Json :=
  .obj [("username", .optional c.username), ("password", .optional c.password),
    ("password_file", .optional c.passwordFile)]

/-- The document of a call. -/
def Call.toJson (call : Call) : Json :=
  .obj (("call", .str call.kind) :: match call with
    | .execute i => [("args", .arr (i.args.map .str)), ("credentials", i.credentials.toJson)]
    | .hasCommand name => [("name", .str name)]
    | .readPasswordFile path => [("path", .str path)]
    | .promptPassword prompt => [("prompt", .str prompt)]
    | .readStoredToken url => [("url", .str url)]
    | .storeToken url token => [("url", .str url), ("token", .str token)]
    | .removeToken url => [("url", .str url)]
    | .readBuildToken => [])

/-- The document of a reply. -/
def Reply.toJson (reply : Reply) : Json :=
  .obj (("reply", .str reply.kind) :: match reply with
    | .outcome o => [("exit_code", .num (.ofInt32 o.exitCode)), ("stdout", .str o.stdout),
        ("stderr", .str o.stderr)]
    | .flag value => [("value", .bool value)]
    | .text value => [("value", .optional value)]
    | .done => [])

/-- The document of a failure. -/
def Failure.toJson (f : Failure) : Json := .obj [("message", .str f.message)]

/-- The document of the result of a call. -/
def resultToJson (result : Except Failure Reply) : Json :=
  match result with
  | .ok reply => .obj [("Ok", reply.toJson)]
  | .error failure => .obj [("Err", failure.toJson)]

namespace Frame

/-- The document of a frame. -/
def toJson (frame : Frame) : Json :=
  .obj (("frame", .str frame.kind) :: match frame with
    | .request id call => [("id", .num (.ofUInt64 id)), ("call", call.toJson)]
    | .response id result => [("id", .num (.ofUInt64 id)), ("result", resultToJson result)]
    | .property name value => [("name", .str name), ("value", value.canonical)]
    | .ping => [])

/-- The text of a frame. -/
def text (frame : Frame) : String := frame.toJson.render

/-- The bytes of a frame. -/
def body (frame : Frame) : Bytes := frame.toJson.bytes

/-- The bytes of a frame, unless there are more than `limit`. -/
def encode (limit : Nat) (frame : Frame) : Except FrameError Bytes :=
  if frame.body.length ≤ limit then .ok frame.body
  else .error (.tooLarge frame.body.length limit)

/-- The bytes of a frame behind their number in four bytes. -/
def wire (limit : Nat) (frame : Frame) : Except FrameError Bytes := do
  let body ← frame.encode limit
  if body.length < 4294967296 then .ok (Bytes.bigEndian 4 body.length ++ body)
  else .error (.tooLarge body.length limit)

end Frame

end CommandLink
