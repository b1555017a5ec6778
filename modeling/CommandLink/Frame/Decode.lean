import CommandLink.Frame.Basic
import CommandLink.Frame.Error
import CommandLink.Json.Record

/-!
# Decoded frames

The frame of a body. The body is read once from left to right; the member that names the frame's
kind may stand anywhere, and is checked as soon as it is met. `Frame.ofJson?` reads a frame from a
document that has been read before.
-/

namespace CommandLink

open Json (Record Entry)

/-- The credentials of a document. -/
def Credentials.ofJson? (v : Json) : Option Credentials := do
  let [username, password, file] ←
    (← v.record?).entries ["username", "password", "password_file"] | none
  return ⟨← username.optional Json.text?, ← password.optional Json.text?,
    ← file.optional Json.text?⟩

/-- The invocation of a record. -/
def Invocation.ofRecord? (r : Record) : Option Invocation := do
  let [args, credentials] ← r.entries ["args", "credentials"] | none
  return ⟨← args.required (Json.list? Json.text?),
    ← credentials.defaulted Credentials.ofJson? .none⟩

/-- The outcome of a record. -/
def Outcome.ofRecord? (r : Record) : Option Outcome := do
  let [code, stdout, stderr] ← r.entries ["exit_code", "stdout", "stderr"] | none
  return ⟨← code.required Json.int32?, ← stdout.defaulted Json.text? "",
    ← stderr.defaulted Json.text? ""⟩

/-- The only text of a record with one field. -/
def Json.Record.soleText? (name : String) (r : Record) : Option String := do
  let [field] ← r.entries [name] | none
  field.required Json.text?

/-- The call of a kind and a record. -/
def Call.ofRecord? (kind : String) (r : Record) : Option Call :=
  if kind = "execute" then (Invocation.ofRecord? r).map .execute
  else if kind = "has_command" then (r.soleText? "name").map .hasCommand
  else if kind = "read_password_file" then (r.soleText? "path").map .readPasswordFile
  else if kind = "prompt_password" then (r.soleText? "prompt").map .promptPassword
  else if kind = "read_stored_token" then (r.soleText? "url").map .readStoredToken
  else if kind = "store_token" then do
    let [url, token] ← r.entries ["url", "token"] | none
    return .storeToken (← url.required Json.text?) (← token.required Json.text?)
  else if kind = "remove_token" then (r.soleText? "url").map .removeToken
  else if r.isBare then some .readBuildToken else none

/-- The call of a document. -/
def Call.ofJson? (v : Json) : Option Call := do
  let (kind, r) ← v.tagged? "call"
  Call.ofRecord? (← Json.kind? Call.kinds kind) r

/-- The reply of a kind and a record. -/
def Reply.ofRecord? (kind : String) (r : Record) : Option Reply :=
  if kind = "outcome" then (Outcome.ofRecord? r).map .outcome
  else if kind = "flag" then do
    let [value] ← r.entries ["value"] | none
    return .flag (← value.required Json.bool?)
  else if kind = "text" then do
    let [value] ← r.entries ["value"] | none
    return .text (← value.optional Json.text?)
  else if r.isBare then some .done else none

/-- The reply of a document. -/
def Reply.ofJson? (v : Json) : Option Reply := do
  let (kind, r) ← v.tagged? "reply"
  Reply.ofRecord? (← Json.kind? Reply.kinds kind) r

/-- The failure of a document. -/
def Failure.ofJson? (v : Json) : Option Failure := do
  return ⟨← (← v.record?).soleText? "message"⟩

/-- The result of a call: an object with one member, which says whether it succeeded. -/
def resultOfJson? : Json → Option (Except Failure Reply)
  | .obj [(key, value)] =>
    if key = "Ok" then (Reply.ofJson? value).map .ok
    else if key = "Err" then (Failure.ofJson? value).map .error
    else none
  | _ => none

namespace Frame

/-- The frame of a kind and a record. -/
def ofRecord? (kind : String) (r : Record) : Option Frame :=
  if kind = "request" then do
    let [id, call] ← r.entries ["id", "call"] | none
    return .request (← id.required Json.uint64?) (← call.required Call.ofJson?)
  else if kind = "response" then do
    let [id, result] ← r.entries ["id", "result"] | none
    return .response (← id.required Json.uint64?) (← result.required resultOfJson?)
  else if kind = "property" then do
    let [name, value] ← r.entries ["name", "value"] | none
    return .property (← name.required Json.text?) (← value.required (some ·.canonical))
  else if r.isBare then some .ping else none

/-- The frame of a document. -/
def ofJson? (v : Json) : Option Frame := do
  let (kind, r) ← v.tagged? "frame"
  ofRecord? (← (← kind.text?) |> fun name => if name ∈ kinds then some name else none) r

/-- The members of a body so far: the kind of the frame, once it has been met, and the other
members, last first. -/
structure Members where
  kind : Option String
  others : List (String × Json)

/-- Reads the name of a kind of frame. -/
def readKind : Json.Reader String := fun input =>
  match Json.textOnly input with
  | .error f => .error f
  | .ok t => if t.value ∈ kinds then .ok t else .error .mismatched

/-- Reads one more member of a body. -/
def readMember (depth : Nat) (read : Members) : Json.Reader Members := fun input =>
  match Json.key input with
  | .error f => .error f
  | .ok k =>
    if k.value = "frame" then
      if read.kind.isSome then .error .mismatched
      else match Json.afterColon readKind k.rest with
        | .error f => .error f
        | .ok t => .ok ⟨{ read with kind := some t.value }, t.rest, Nat.lt_trans t.shorter k.shorter⟩
    else match Json.afterColon (Json.value depth) k.rest with
      | .error f => .error f
      | .ok t => .ok ⟨{ read with others := (k.value, t.value) :: read.others }, t.rest,
          Nat.lt_trans t.shorter k.shorter⟩

/-- The items of a body written as an array: the kind of the frame, then its fields, last first. -/
structure Items where
  kind : Option String
  others : List Json

/-- Reads one more item of a body. -/
def readItem (depth : Nat) (read : Items) : Json.Reader Items := fun input =>
  match read.kind with
  | none => (readKind.map fun kind => { read with kind := some kind }) input
  | some _ => ((Json.value depth).map fun v => { read with others := v :: read.others }) input

/-- Reads the kind of a frame and its content. -/
def readContent : Json.Reader (Option String × Record) := fun input =>
  match h : Json.skip input with
  | [] => .error .truncated
  | b :: rest =>
    if b = 123 then
      (Json.items 125 (readMember (Json.maxDepth - 1)) ⟨none, []⟩ rest).map fun t =>
        (t.map fun m => (m.kind, .named m.others.reverse)).weaken (Json.length_le_of_skip h)
    else if b = 91 then
      (Json.items 93 (readItem (Json.maxDepth - 1)) ⟨none, []⟩ rest).map fun t =>
        (t.map fun m => (m.kind, .positional m.others.reverse)).weaken (Json.length_le_of_skip h)
    else match Json.valueWith none input with
      | .error f => .error f
      | .ok _ => .error .mismatched

/-- The frame that the bytes of a body encode. -/
def parse (body : Bytes) : Except Json.Fault Frame :=
  match readContent body with
  | .error f => .error f
  | .ok t =>
    match t.value with
    | (none, _) => .error .mismatched
    | (some kind, r) =>
      match ofRecord? kind r with
      | none => .error .mismatched
      | some frame => Json.atEnd (t.map fun _ => frame)

/-- The frame of a body, which is refused unread when it is over the limit. -/
def decode (limit : Nat) (body : Bytes) : Except FrameError Frame :=
  if body.length ≤ limit then (parse body).mapError .document
  else .error (.tooLarge body.length limit)

end Frame

end CommandLink
