import CommandLink.Json.Number
import CommandLink.TextMap

/-!
# Documents

The values that frame bodies and credential files are written in. An object keeps its members in
the order of the document, repeated keys included; `Json.canonical` is the value that a document
stands for when only the last member under each key counts and members come in the order of their
keys.
-/

namespace CommandLink

/-- A document. -/
inductive Json where
  | null
  | bool (value : Bool)
  | num (value : Json.Number)
  | str (value : String)
  | arr (items : List Json)
  | obj (members : List (String × Json))
  deriving Repr

namespace Json

instance : Inhabited Json := ⟨.null⟩

mutual

/-- The document with the members of every object in the order of their keys, each key once and
with its last value. -/
def canonical : Json → Json
  | .arr items => .arr (canonicalItems items)
  | .obj members => .obj (TextMap.ofList (canonicalMembers members)).entries
  | .null => .null
  | .bool value => .bool value
  | .num value => .num value
  | .str value => .str value

/-- The items in canonical form. -/
def canonicalItems : List Json → List Json
  | [] => []
  | item :: items => canonical item :: canonicalItems items

/-- The members with their values in canonical form. -/
def canonicalMembers : List (String × Json) → List (String × Json)
  | [] => []
  | (key, value) :: members => (key, canonical value) :: canonicalMembers members

end

/-- The last value under a key of an object. -/
def get? (key : String) : Json → Option Json
  | .obj members => (members.reverse.find? fun m => m.1 = key).map Prod.snd
  | _ => none

end Json

end CommandLink
