import CommandLink.Json.Basic

/-!
# Records in documents

A record is written as an object, whose members may come in any order and may hold more than is
asked for, or as an array of its fields in order. `Record.entries` finds the fields of either form;
`Entry` says how a field that is not there counts. A record that is one of several kinds names its
kind in a member, or in the first item of the array (`tagged?`).
-/

namespace CommandLink.Json

/-- The content of a record. -/
inductive Record where
  | named (members : List (String × Json))
  | positional (items : List Json)

/-- The content of a document that may be a record. -/
def record? : Json → Option Record
  | .obj members => some (.named members)
  | .arr items => some (.positional items)
  | _ => none

/-- A field of a record. -/
inductive Entry where
  | given (value : Json)
  /-- No member has the field's name. -/
  | omitted
  /-- The array ends before the field. -/
  | cutOff

namespace Entry

variable {α : Type}

/-- A field that has to be there. -/
def required (read : Json → Option α) : Entry → Option α
  | .given value => read value
  | .omitted => none
  | .cutOff => none

/-- A field that may be null, or left out of an object. -/
def optional (read : Json → Option α) : Entry → Option (Option α)
  | .given .null => some none
  | .given value => (read value).map some
  | .omitted => some none
  | .cutOff => none

/-- A field that may be left out, but not be null. -/
def defaulted (read : Json → Option α) (default : α) : Entry → Option α
  | .given value => read value
  | .omitted => some default
  | .cutOff => some default

end Entry

/-- The field of an object under a name, which no two members may have. -/
def namedEntry (members : List (String × Json)) (name : String) : Option Entry :=
  match members.filter fun m => m.1 = name with
  | [] => some .omitted
  | [m] => some (.given m.2)
  | _ => none

/-- The fields of an array, as many as there are names, and no more items than that. -/
def positionalEntries : (names : List String) → List Json → Option (List Entry)
  | [], [] => some []
  | [], _ :: _ => none
  | _ :: names, [] => (positionalEntries names []).map (.cutOff :: ·)
  | _ :: names, item :: items => (positionalEntries names items).map (.given item :: ·)

/-- The fields of a record under the given names. -/
def Record.entries (names : List String) : Record → Option (List Entry)
  | .named members => names.mapM (namedEntry members)
  | .positional items => positionalEntries names items

/-- Whether a record may stand for a kind without fields: an object may hold anything, an array
nothing. -/
def Record.isBare : Record → Bool
  | .named _ => true
  | .positional items => items.isEmpty

/-- The kind and the content of a record that names its kind under `tag`. -/
def tagged? (tag : String) : Json → Option (Json × Record)
  | .obj members =>
    match namedEntry members tag with
    | some (.given kind) => some (kind, .named (members.filter fun m => m.1 ≠ tag))
    | _ => none
  | .arr (kind :: items) => some (kind, .positional items)
  | _ => none

/-- The kind that a document names, by its name or by its place among the kinds. -/
def kind? (kinds : List String) : Json → Option String
  | .str name => if name ∈ kinds then some name else none
  | .num (.int n _) => if 0 ≤ n then kinds[n.toNat]? else none
  | _ => none

/-! ## Fields -/

/-- A text. -/
def text? : Json → Option String
  | .str s => some s
  | _ => none

/-- A truth value. -/
def bool? : Json → Option Bool
  | .bool b => some b
  | _ => none

/-- An integer. -/
def int? : Json → Option Int
  | .num (.int n _) => some n
  | _ => none

/-- An unsigned word of 64 bits. -/
def uint64? (v : Json) : Option UInt64 := do
  let n ← v.int?
  if 0 ≤ n ∧ n < 18446744073709551616 then some (UInt64.ofNat n.toNat) else none

/-- An unsigned word of 32 bits. -/
def uint32? (v : Json) : Option UInt32 := do
  let n ← v.int?
  if 0 ≤ n ∧ n < 4294967296 then some (UInt32.ofNat n.toNat) else none

/-- A signed word of 32 bits. -/
def int32? (v : Json) : Option Int32 := do
  let n ← v.int?
  if -2147483648 ≤ n ∧ n < 2147483648 then some (Int32.ofInt n) else none

/-- A list, each item read by `read`. -/
def list? {α : Type} (read : Json → Option α) : Json → Option (List α)
  | .arr items => items.mapM read
  | _ => none

end CommandLink.Json
