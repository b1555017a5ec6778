import CommandLink.Frame.Basic
import CommandLink.Json.Printer
import CommandLink.Json.Record

/-!
# Entry points in documents

What a server offers, as read from the value of its entry-point property. The version is read on
its own (`Json.protocolVersion?`), so that it can be checked before anything else about the value.
The members of objects are looked at in the order of their keys, and the first thing wrong with the
value is reported.
-/

namespace CommandLink

/-- What is wrong with the shape of a value. -/
inductive ShapeFault where
  | wrongType (found expected : String)
  | wrongLength (found : Nat) (expected : String)
  | missingField (name : String)
  deriving DecidableEq, Repr

/-- The words for a fault. -/
def ShapeFault.message : ShapeFault → String
  | .wrongType found expected => "invalid type: " ++ found ++ ", expected " ++ expected
  | .wrongLength found expected =>
    "invalid length " ++ Text.decimal found ++ ", expected " ++ expected
  | .missingField name => "missing field \x60" ++ name ++ "\x60"

namespace Json

/-- What a value is, in the words of a fault. -/
def described : Json → String
  | .null => "null"
  | .bool value => "boolean \x60" ++ (if value then "true" else "false") ++ "\x60"
  | .num (.int value _) => "integer \x60" ++ Text.decimal value ++ "\x60"
  | .num (.float bits) => "floating point \x60" ++ String.ofList (Number.floatChars bits) ++ "\x60"
  | .str value => "string " ++ Text.quoted value
  | .arr _ => "sequence"
  | .obj _ => "map"

/-- A text. -/
def readText : Json → Except ShapeFault String
  | .str s => .ok s
  | v => .error (.wrongType v.described "a string")

/-- The member of an object under a key, if there is one, as read by `read`. -/
def readMember {α : Type} (read : Json → Except ShapeFault α) (key : String) (v : Json) :
    Except ShapeFault (Option α) :=
  match v.get? key with
  | none => .ok none
  | some value => (read value).map some

/-- The version that a value declares: a member that holds an unsigned word. -/
def protocolVersion? (v : Json) : Option UInt32 := (v.get? "protocol_version").bind uint32?

end Json

/-- A command description: an object with both fields, or an array of them. -/
def CommandInfo.read (v : Json) : Except ShapeFault CommandInfo :=
  match v with
  | .obj _ => do
    let description ← v.readMember Json.readText "description"
    let name ← v.readMember Json.readText "name"
    match name, description with
    | none, _ => throw (.missingField "name")
    | some _, none => throw (.missingField "description")
    | some name, some description => return ⟨name, description⟩
  | .arr items => do
    match items with
    | [] => throw (.wrongLength 0 "struct CommandInfo with 2 elements")
    | [name] =>
      let _ ← name.readText
      throw (.wrongLength 1 "struct CommandInfo with 2 elements")
    | name :: description :: rest =>
      let name ← name.readText
      let description ← description.readText
      if rest ≠ [] then throw (.wrongLength items.length "fewer elements in array")
      return ⟨name, description⟩
  | v => .error (.wrongType v.described "struct CommandInfo")

/-- A list of command descriptions. -/
def CommandInfo.readAll : Json → Except ShapeFault (List CommandInfo)
  | .arr items => items.mapM CommandInfo.read
  | v => .error (.wrongType v.described "a sequence")

/-- What a server of the given version offers, from the other members of the value. -/
def EntryPoint.read (version : UInt32) (v : Json) : Except ShapeFault EntryPoint := do
  let commands ← v.readMember CommandInfo.readAll "commands"
  let server ← v.readMember Json.readText "server_version"
  match server with
  | none => throw (.missingField "server_version")
  | some server => return ⟨version, server, commands.getD []⟩

end CommandLink
