import CommandLink.Frame.Encode
import CommandLink.Frame.Decode
import CommandLink.Proofs.Json.Canonical

/-!
# Encoded frames are decoded again

The body of a frame is decoded to that frame (`decode_body`), with the value of a property in
canonical form. Records, calls and replies are read from their documents (`ofRecord?`, `ofJson?`),
and the members of the body one after the other.
-/

namespace CommandLink

open Json (Record Entry)

/-! ## Fields -/

namespace Json

theorem uint64?_ofUInt64 (n : UInt64) : uint64? (.num (.ofUInt64 n)) = some n := by
  have hn := n.toNat_lt
  have hint : int? (.num (.ofUInt64 n)) = some (n.toNat : Int) := rfl
  have hfits : 0 ≤ (n.toNat : Int) ∧ (n.toNat : Int) < 18446744073709551616 := by omega
  rw [uint64?, hint, Option.bind_eq_bind, Option.bind_some, if_pos hfits, Int.toNat_natCast,
    UInt64.ofNat_toNat]

theorem int32?_ofInt32 (n : Int32) : int32? (.num (.ofInt32 n)) = some n := by
  have hlow := n.le_toInt
  have hhigh := n.toInt_lt
  have hint : int? (.num (.ofInt32 n)) = some n.toInt := rfl
  have hfits : -2147483648 ≤ n.toInt ∧ n.toInt < 2147483648 := by omega
  rw [int32?, hint, Option.bind_eq_bind, Option.bind_some, if_pos hfits, Int32.ofInt_toInt]

theorem list?_map_str (texts : List String) :
    list? text? (.arr (texts.map .str)) = some texts := by
  rw [list?]
  induction texts with
  | nil => rfl
  | cons text texts ih =>
    rw [List.map_cons, List.mapM_cons, ih]
    rfl

/-- A text or nothing is read as it is. -/
theorem optional_text?_optional (value : Option String) :
    Entry.optional text? (.given (.optional value)) = some value := by
  cases value <;> rfl

/-- The kind of a record is found under its tag, and its fields are the other members. -/
theorem tagged?_obj {tag : String} {members : List (String × Json)}
    (hm : ∀ m ∈ members, m.1 ≠ tag) (kind : Json) :
    tagged? tag (.obj ((tag, kind) :: members)) = some (kind, .named members) := by
  have htag : ((tag, kind) :: members).filter (fun m => m.1 = tag) = [(tag, kind)] := by
    rw [List.filter_cons, if_pos (decide_eq_true rfl), List.filter_eq_nil_iff.mpr (by simpa using hm)]
  have hothers : ((tag, kind) :: members).filter (fun m => m.1 ≠ tag) = members := by
    rw [List.filter_cons, if_neg (by simp), List.filter_eq_self.mpr (by simpa using hm)]
  simp only [tagged?, namedEntry, htag, hothers]

theorem soleText?_named (name text : String) :
    Record.soleText? name (.named [(name, .str text)]) = some text := by
  simp [Record.soleText?, Record.entries, namedEntry, Entry.required, text?]

theorem kind?_str {kinds : List String} {name : String} (h : name ∈ kinds) :
    kind? kinds (.str name) = some name := if_pos h

end Json

/-! ## Documents of records -/

theorem Credentials.ofJson?_toJson (c : Credentials) : ofJson? c.toJson = some c := by
  simp [ofJson?, toJson, Json.record?, Record.entries, Json.namedEntry,
    Json.optional_text?_optional]

namespace Call

/-- The members of a call's document behind the one that names its kind. -/
def fields : Call → List (String × Json)
  | .execute i => [("args", .arr (i.args.map .str)), ("credentials", i.credentials.toJson)]
  | .hasCommand name => [("name", .str name)]
  | .readPasswordFile path => [("path", .str path)]
  | .promptPassword prompt => [("prompt", .str prompt)]
  | .readStoredToken url => [("url", .str url)]
  | .storeToken url token => [("url", .str url), ("token", .str token)]
  | .removeToken url => [("url", .str url)]
  | .readBuildToken => []

theorem toJson_eq (call : Call) : call.toJson = .obj (("call", .str call.kind) :: call.fields) := by
  cases call <;> rfl

/-- The fields of a call make that call again. -/
theorem ofRecord?_fields (call : Call) : ofRecord? call.kind (.named call.fields) = some call := by
  cases call
  case execute i =>
    simp [kind, fields, ofRecord?, Invocation.ofRecord?, Record.entries, Json.namedEntry,
      Entry.required, Entry.defaulted, Json.list?_map_str, Credentials.ofJson?_toJson]
  case storeToken url token =>
    simp [kind, fields, ofRecord?, Record.entries, Json.namedEntry, Entry.required, Json.text?]
  case readBuildToken => rfl
  all_goals simp [kind, fields, ofRecord?, Json.soleText?_named]

theorem ofJson?_toJson (call : Call) : ofJson? call.toJson = some call := by
  have hm : ∀ m ∈ call.fields, m.1 ≠ "call" := by
    cases call <;> simp [fields]
  rw [ofJson?, toJson_eq, Json.tagged?_obj hm, Option.bind_eq_bind, Option.bind_some]
  simp only [Json.kind?_str call.kind_mem_kinds, Option.bind_eq_bind, Option.bind_some,
    ofRecord?_fields]

end Call

namespace Reply

/-- The members of a reply's document behind the one that names its kind. -/
def fields : Reply → List (String × Json)
  | .outcome o =>
    [("exit_code", .num (.ofInt32 o.exitCode)), ("stdout", .str o.stdout), ("stderr", .str o.stderr)]
  | .flag value => [("value", .bool value)]
  | .text value => [("value", .optional value)]
  | .done => []

theorem toJson_eq (reply : Reply) :
    reply.toJson = .obj (("reply", .str reply.kind) :: reply.fields) := by
  cases reply <;> rfl

theorem kind_mem_kinds (reply : Reply) : reply.kind ∈ kinds := by
  cases reply <;> simp [kind, kinds]

/-- The fields of a reply make that reply again. -/
theorem ofRecord?_fields (reply : Reply) :
    ofRecord? reply.kind (.named reply.fields) = some reply := by
  cases reply
  case outcome o =>
    simp [kind, fields, ofRecord?, Outcome.ofRecord?, Record.entries, Json.namedEntry,
      Entry.required, Entry.defaulted, Json.int32?_ofInt32, Json.text?]
  case flag value =>
    simp [kind, fields, ofRecord?, Record.entries, Json.namedEntry, Entry.required, Json.bool?]
  case text value =>
    simp [kind, fields, ofRecord?, Record.entries, Json.namedEntry, Json.optional_text?_optional]
  case done => rfl

theorem ofJson?_toJson (reply : Reply) : ofJson? reply.toJson = some reply := by
  have hm : ∀ m ∈ reply.fields, m.1 ≠ "reply" := by
    cases reply <;> simp [fields]
  rw [ofJson?, toJson_eq, Json.tagged?_obj hm, Option.bind_eq_bind, Option.bind_some]
  simp only [Json.kind?_str reply.kind_mem_kinds, Option.bind_eq_bind, Option.bind_some,
    ofRecord?_fields]

end Reply

theorem resultOfJson?_resultToJson (result : Except Failure Reply) :
    resultOfJson? (resultToJson result) = some result := by
  rcases result with failure | reply
  · simp [resultToJson, resultOfJson?, Failure.toJson, Failure.ofJson?, Json.record?,
      Record.soleText?, Record.entries, Json.namedEntry, Entry.required, Json.text?]
  · simp [resultToJson, resultOfJson?, Reply.ofJson?_toJson]

/-! ## Documents without floats -/

namespace Json

theorem floatFree_optional (value : Option String) : (optional value).FloatFree := by
  cases value <;> exact trivial

theorem depth_optional (value : Option String) : (optional value).depth = 0 := by
  cases value <;> rfl

theorem itemsDepth_map_str (texts : List String) : itemsDepth (texts.map .str) = 0 :=
  Nat.le_zero.mp (itemsDepth_le_iff.mpr (by simp [depth]))

end Json

theorem Call.floatFree_toJson (call : Call) : call.toJson.FloatFree := by
  cases call <;>
    simp [toJson, Credentials.toJson, Json.FloatFree, Json.MembersFloatFree,
      Json.itemsFloatFree_iff, Json.floatFree_optional]

theorem Call.depth_toJson_le (call : Call) : call.toJson.depth ≤ 2 := by
  cases call <;>
    simp [toJson, Credentials.toJson, Json.depth, Json.membersDepth, Json.itemsDepth_map_str,
      Json.depth_optional]

theorem floatFree_resultToJson (result : Except Failure Reply) :
    (resultToJson result).FloatFree := by
  rcases result with failure | reply
  · simp [resultToJson, Failure.toJson, Json.FloatFree, Json.MembersFloatFree]
  · cases reply <;>
      simp [resultToJson, Reply.toJson, Json.FloatFree, Json.MembersFloatFree,
        Json.Number.ofInt32, Json.floatFree_optional]

theorem depth_resultToJson_le (result : Except Failure Reply) : (resultToJson result).depth ≤ 2 := by
  rcases result with failure | reply
  · simp [resultToJson, Failure.toJson, Json.depth, Json.membersDepth]
  · cases reply <;>
      simp [resultToJson, Reply.toJson, Json.depth, Json.membersDepth, Json.depth_optional]

namespace Frame

/-- The frame whose property, if it is one, has its value in canonical form. -/
def canonical : Frame → Frame
  | .property name value => .property name value.canonical
  | frame => frame

/-- The members of a frame's document behind the one that names its kind. -/
def fields : Frame → List (String × Json)
  | .request id call => [("id", .num (.ofUInt64 id)), ("call", call.toJson)]
  | .response id result => [("id", .num (.ofUInt64 id)), ("result", resultToJson result)]
  | .property name value => [("name", .str name), ("value", value.canonical)]
  | .ping => []

theorem toJson_eq (frame : Frame) :
    frame.toJson = .obj (("frame", .str frame.kind) :: frame.fields) := by
  cases frame <;> rfl

theorem kind_mem_kinds (frame : Frame) : frame.kind ∈ kinds := by
  cases frame <;> simp [kind, kinds]

theorem ne_frame_of_mem_fields {frame : Frame} {m : String × Json} (hm : m ∈ frame.fields) :
    m.1 ≠ "frame" := by
  cases frame <;> simp [fields] at hm <;> rcases hm with rfl | rfl <;> simp

/-! ## Frames of records -/

section Fields

variable {idDocument document : Json} {id : CallId}

theorem ofRecord?_request {call : Call} (hi : Json.uint64? idDocument = some id)
    (hc : Call.ofJson? document = some call) :
    ofRecord? "request" (.named [("id", idDocument), ("call", document)]) =
      some (.request id call) := by
  simp [ofRecord?, Record.entries, Json.namedEntry, Entry.required, hi, hc]

theorem ofRecord?_response {result : Except Failure Reply}
    (hi : Json.uint64? idDocument = some id) (hr : resultOfJson? document = some result) :
    ofRecord? "response" (.named [("id", idDocument), ("result", document)]) =
      some (.response id result) := by
  simp [ofRecord?, Record.entries, Json.namedEntry, Entry.required, hi, hr]

theorem ofRecord?_property (name : String) (value : Json) :
    ofRecord? "property" (.named [("name", .str name), ("value", value)]) =
      some (.property name value.canonical) := by
  simp [ofRecord?, Record.entries, Json.namedEntry, Entry.required, Json.text?]

end Fields

/-- The fields of a frame make that frame again. -/
theorem ofRecord?_fields (frame : Frame) :
    ofRecord? frame.kind (.named frame.fields) = some frame.canonical := by
  cases frame with
  | request id call =>
    exact ofRecord?_request (Json.uint64?_ofUInt64 id) (Call.ofJson?_toJson call)
  | response id result =>
    exact ofRecord?_response (Json.uint64?_ofUInt64 id) (resultOfJson?_resultToJson result)
  | property name value =>
    have h := ofRecord?_property name value.canonical
    rwa [Json.canonical_canonical] at h
  | ping => rfl

/-! ## Bodies -/

/-- The member that names the kind of a frame is read back. -/
theorem readMember_kind {kind : String} (hk : kind ∈ kinds) (depth : ℕ)
    (others : List (String × Json)) (rest : Bytes) :
    (readMember depth ⟨none, others⟩).Yields (Json.memberBytes ("frame", .str kind))
      ⟨some kind, others⟩ rest := by
  have hread : readKind.Yields (Text.Utf8.encode (Json.textChars kind)) kind rest := by
    obtain ⟨h, htext⟩ := Json.textOnly_yields kind rest
    exact ⟨h, by rw [readKind, htext]; exact if_pos hk⟩
  have hinput : Json.memberBytes ("frame", .str kind) ++ rest =
      Text.Utf8.encode (Json.textChars "frame") ++
        (58 :: Text.Utf8.encode (Json.textChars kind) ++ rest) := List.append_assoc _ _ _
  obtain ⟨hs, hkey⟩ := (Json.key_yields "frame" _).of_eq hinput
  obtain ⟨hv, hvalue⟩ := Json.afterColon_yields hread
  refine ⟨Nat.lt_trans hv hs, ?_⟩
  rw [readMember, hkey]
  simp only [hvalue]
  rfl

/-- A field of a frame is read back. -/
theorem readMember_field {depth : ℕ} {m : String × Json} {rest : Bytes} (hm : m.1 ≠ "frame")
    (hv : (Json.value depth).Yields (Text.Utf8.encode m.2.chars) m.2 rest) (read : Members) :
    (readMember depth read).Yields (Json.memberBytes m) { read with others := m :: read.others }
      rest := by
  have hinput : Json.memberBytes m ++ rest = Text.Utf8.encode (Json.textChars m.1) ++
      (58 :: Text.Utf8.encode m.2.chars ++ rest) := List.append_assoc _ _ _
  obtain ⟨hs, hkey⟩ := (Json.key_yields m.1 _).of_eq hinput
  obtain ⟨hr, hvalue⟩ := Json.afterColon_yields hv
  refine ⟨Nat.lt_trans hr hs, ?_⟩
  rw [readMember, hkey]
  simp only [if_neg hm, hvalue]

theorem reads_fields {depth : ℕ} {members : List (String × Json)}
    (hm : ∀ m ∈ members, m.1 ≠ "frame" ∧ m.2.FloatFree ∧ m.2.depth ≤ depth) (read : Members) :
    Json.Reads (readMember depth) read (members.map Json.memberBytes)
      { read with others := members.reverse ++ read.others } := by
  induction members generalizing read with
  | nil => exact .nil read
  | cons m members ih =>
    obtain ⟨⟨hne, hf, hd⟩, hlater⟩ := List.forall_mem_cons.mp hm
    have later := ih hlater { read with others := m :: read.others }
    rw [List.reverse_cons, List.append_assoc]
    exact .cons (Json.begins_textChars m.1 _)
      (fun rest hr => readMember_field hne (Json.value_yields hf hd hr) read) later

/-- What is read back from its body: any request, response or ping, and a property whose value holds
no float, if its body nests no deeper than the reader allows. -/
def Readable (frame : Frame) : Prop :=
  match frame with
  | .property _ value => value.FloatFree ∧ frame.toJson.depth ≤ Json.maxDepth
  | _ => True

theorem Readable.floatFree {frame : Frame} (h : frame.Readable) : frame.toJson.FloatFree := by
  cases frame with
  | request id call =>
    simp [toJson, Json.FloatFree, Json.MembersFloatFree, Json.Number.ofUInt64,
      call.floatFree_toJson]
  | response id result =>
    simp [toJson, Json.FloatFree, Json.MembersFloatFree, Json.Number.ofUInt64,
      floatFree_resultToJson]
  | property name value =>
    simp [toJson, Json.FloatFree, Json.MembersFloatFree, h.1.canonical]
  | ping => simp [toJson, Json.FloatFree, Json.MembersFloatFree]

theorem Readable.depth_le {frame : Frame} (h : frame.Readable) :
    frame.toJson.depth ≤ Json.maxDepth := by
  cases frame with
  | request id call =>
    have hcall := call.depth_toJson_le
    simp only [toJson, Json.depth, Json.membersDepth, Json.maxDepth]
    omega
  | response id result =>
    have hresult := depth_resultToJson_le result
    simp only [toJson, Json.depth, Json.membersDepth, Json.maxDepth]
    omega
  | property name value => exact h.2
  | ping => decide

/-- The fields of a frame are read one after the other. -/
theorem reads_body {frame : Frame} (h : frame.Readable) :
    Json.Reads (readMember (Json.maxDepth - 1)) ⟨none, []⟩
      ((("frame", .str frame.kind) :: frame.fields).map Json.memberBytes)
      ⟨some frame.kind, frame.fields.reverse⟩ := by
  have hf := h.floatFree
  have hd := h.depth_le
  rw [toJson_eq, Json.FloatFree, Json.membersFloatFree_iff, List.forall_mem_cons] at hf
  rw [toJson_eq, Json.depth, ← Nat.le_sub_iff_add_le (by decide), Json.membersDepth_le_iff,
    List.forall_mem_cons] at hd
  have hfields := reads_fields (fun m hm => ⟨ne_frame_of_mem_fields hm, hf.2 m hm, hd.2 m hm⟩)
    ⟨some frame.kind, []⟩
  rw [List.append_nil] at hfields
  exact .cons (Json.begins_textChars _ _)
    (fun rest _ => readMember_kind (kind_mem_kinds frame) _ [] rest) hfields

/-- A body that begins with a brace is read as the members of an object. -/
theorem readContent_brace (input : Bytes) : readContent (123 :: input) =
    (Json.items 125 (readMember (Json.maxDepth - 1)) ⟨none, []⟩ input).map fun t =>
      (t.map fun m => (m.kind, Record.named m.others.reverse)).weaken (Nat.le_succ _) := rfl

theorem readContent_body {frame : Frame} (h : frame.Readable) (rest : Bytes) :
    readContent.Yields frame.body (some frame.kind, .named frame.fields) rest := by
  have hclose : (125 : UInt8) = 93 ∨ (125 : UInt8) = 125 := .inr rfl
  obtain ⟨hs, hread⟩ := (reads_body h).items_yields hclose rest
  have hbrace := readContent_brace
    (Json.parts 125 ((("frame", .str frame.kind) :: frame.fields).map Json.memberBytes) ++ rest)
  rw [hread] at hbrace
  simp only [Except.map, Taken.map, Taken.weaken, List.reverse_reverse] at hbrace
  rw [body, Json.bytes, toJson_eq, Json.encode_obj]
  exact ⟨Nat.lt_succ_of_lt hs, hbrace⟩

theorem parse_body {frame : Frame} (h : frame.Readable) :
    parse frame.body = .ok frame.canonical := by
  obtain ⟨hs, hread⟩ := (readContent_body h []).of_eq (List.append_nil _).symm
  rw [parse, hread]
  simp only [ofRecord?_fields]
  rfl

/-- **Encoded frames are decoded again.** -/
theorem decode_body {limit : ℕ} {frame : Frame} (h : frame.Readable)
    (hl : frame.body.length ≤ limit) : decode limit frame.body = .ok frame.canonical := by
  rw [decode, if_pos hl, parse_body h]
  rfl

end Frame

end CommandLink
