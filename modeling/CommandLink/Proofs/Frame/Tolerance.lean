import CommandLink.Proofs.Frame.Documents
import CommandLink.Proofs.Frame.RoundTrip
import Mathlib.Logic.Relation

/-!
# Frames stated in other ways

A frame may be stated with its members in another order, with members that nobody asks for, and with
the members of the objects in a property in another order (`Frame.Restated`). It is decoded to the
same frame, or refused in the same way (`ofJson?_restated`), since a record is read from the entries
of its fields alone (`Json.readTagged_varies`). What has been decoded is encoded to a body that is
decoded to it again (`readable_of_parse`). `decode_tolerant` is all of it for bodies.
-/

namespace CommandLink

open Json (Record Entry Varies Permuted field?)

/-! ## Records of several kinds -/

namespace Json

variable {α : Type} {tag : String} {kindOf : Json → Option String}
  {read : String → Record → Option α} {fields : String → List String}
  {members members' : List (String × Json)}

/-- Reads a record that names its kind under a tag. -/
def readTagged (tag : String) (kindOf : Json → Option String) (read : String → Record → Option α)
    (v : Json) : Option α := do
  let (kind, r) ← v.tagged? tag
  read (← kindOf kind) r

/-- The names that count in a record of several kinds: its tag, and the fields of the kind that it
names. -/
def knownNames (tag : String) (kindOf : Json → Option String) (fields : String → List String)
    (members : List (String × Json)) : List String :=
  tag :: match namedEntry members tag with
    | some (.given kind) => (kindOf kind).elim [] fields
    | _ => []

theorem readTagged_obj : readTagged tag kindOf read (.obj members) =
    match namedEntry members tag with
    | some (.given kind) =>
      (kindOf kind).bind fun kind => read kind (.named (members.filter fun m => m.1 ≠ tag))
    | _ => none := by
  rw [readTagged, tagged?]
  rcases namedEntry members tag with _ | ⟨v | _ | _⟩ <;> rfl

/-- **A record is read from the entries that count.** -/
theorem readTagged_varies
    (hread : ∀ {kind members members'},
      (Record.named members).entries (fields kind) = (Record.named members').entries (fields kind) →
      read kind (.named members) = read kind (.named members'))
    (h : Varies (knownNames tag kindOf fields members) members members') :
    readTagged tag kindOf read (.obj members) = readTagged tag kindOf read (.obj members') := by
  rw [readTagged_obj, readTagged_obj, ← h.namedEntry_eq List.mem_cons_self]
  unfold knownNames at h
  rcases hentry : namedEntry members tag with _ | ⟨v | _ | _⟩
  · rfl
  · rw [hentry] at h
    dsimp only at h ⊢
    rcases hkind : kindOf v with _ | kind
    · rfl
    · rw [hkind] at h
      refine hread (Record.entries_filter_congr fun name hname => ?_)
      exact h.namedEntry_eq (List.mem_cons_of_mem tag hname)
  · rfl
  · rfl

/-- A member may be replaced where every kind of record is read alike with either. -/
theorem readTagged_replaced {first last : List (String × Json)} {key : String} {v w : Json}
    (htag : key ≠ tag)
    (hread : ∀ kind first last, read kind (.named (first ++ (key, v) :: last)) =
      read kind (.named (first ++ (key, w) :: last))) :
    readTagged tag kindOf read (.obj (first ++ (key, v) :: last)) =
      readTagged tag kindOf read (.obj (first ++ (key, w) :: last)) := by
  rw [readTagged_obj, readTagged_obj, namedEntry_append_cons_of_ne htag,
    namedEntry_append_cons_of_ne htag]
  rcases namedEntry (first ++ last) tag with _ | ⟨kind | _ | _⟩
  · rfl
  · simp only [List.filter_append, List.filter_cons, ne_eq, htag, not_false_eq_true, decide_true,
      if_true, hread]
  · rfl
  · rfl

theorem entries_replaced {first last : List (String × Json)} {key : String} {names : List String}
    (v w : Json) (h : key ∉ names) :
    (Record.named (first ++ (key, v) :: last)).entries names =
      (Record.named (first ++ (key, w) :: last)).entries names := by
  refine Record.entries_congr fun name hname => ?_
  have hne : key ≠ name := by
    rintro rfl
    exact h hname
  rw [namedEntry_append_cons_of_ne hne, namedEntry_append_cons_of_ne hne]

end Json

/-! ## Credentials, calls, replies and failures -/

namespace Credentials

def fieldNames : List String := ["username", "password", "password_file"]

/-- The document of credentials with its members in another order, or with one that is not asked
for. -/
inductive Restated : Json → Json → Prop
  | members {members members' : List (String × Json)}
    (varies : Varies fieldNames members members') : Restated (.obj members) (.obj members')

theorem ofJson?_restated {v w : Json} (h : Restated v w) : ofJson? v = ofJson? w := by
  obtain ⟨varies⟩ := h
  have hentries := Json.Record.entries_congr fun name hname => varies.namedEntry_eq hname
  unfold fieldNames at hentries
  simp only [ofJson?, Json.record?, Option.bind_eq_bind, Option.bind_some, hentries]

end Credentials

/-- An invocation is read from its two fields. -/
theorem Invocation.ofRecord?_named (members : List (String × Json)) : ofRecord? (.named members) =
    (field? members "args" (Entry.required (Json.list? Json.text?))).bind fun args =>
      (field? members "credentials" (Entry.defaulted Credentials.ofJson? .none)).bind fun c =>
        some ⟨args, c⟩ := by
  rw [ofRecord?, Json.Record.entries_pair, field?, field?]
  rcases Json.namedEntry members "args" with _ | args
  · rfl
  · rcases Json.namedEntry members "credentials" with _ | c
    · simp
    · rfl

namespace Call

/-- The fields of a kind of calls. -/
def fieldNames (kind : String) : List String :=
  if kind = "execute" then ["args", "credentials"]
  else if kind = "has_command" then ["name"]
  else if kind = "read_password_file" then ["path"]
  else if kind = "prompt_password" then ["prompt"]
  else if kind = "read_stored_token" then ["url"]
  else if kind = "store_token" then ["url", "token"]
  else if kind = "remove_token" then ["url"]
  else []

theorem ofRecord?_congr {kind : String} {members members' : List (String × Json)}
    (h : (Record.named members).entries (fieldNames kind) =
      (Record.named members').entries (fieldNames kind)) :
    ofRecord? kind (.named members) = ofRecord? kind (.named members') := by
  unfold fieldNames at h
  simp only [ofRecord?, Json.Record.isBare, if_true]
  split_ifs at h ⊢
  case neg => rfl
  all_goals simp only [Invocation.ofRecord?, Json.Record.soleText?, h]

/-- The names that count in the document of a call. -/
def knownNames (members : List (String × Json)) : List String :=
  Json.knownNames "call" (Json.kind? kinds) fieldNames members

/-- The document of a call with its members in another order, or with one that is not asked for; or
that of its credentials. -/
inductive Restated : Json → Json → Prop
  | members {members members' : List (String × Json)}
    (varies : Varies (knownNames members) members members') :
    Restated (.obj members) (.obj members')
  | credentials (first last : List (String × Json)) {v w : Json}
    (inner : Credentials.Restated v w) : Restated (.obj (first ++ ("credentials", v) :: last))
      (.obj (first ++ ("credentials", w) :: last))
  | credentialsItem (kind args : Json) (last : List Json) {v w : Json}
    (inner : Credentials.Restated v w) :
    Restated (.arr (kind :: args :: v :: last)) (.arr (kind :: args :: w :: last))

theorem ofJson?_eq : ofJson? = Json.readTagged "call" (Json.kind? kinds) ofRecord? := rfl

theorem ofRecord?_credentials (kind : String) (first last : List (String × Json)) {v w : Json}
    (h : Credentials.ofJson? v = Credentials.ofJson? w) :
    ofRecord? kind (.named (first ++ ("credentials", v) :: last)) =
      ofRecord? kind (.named (first ++ ("credentials", w) :: last)) := by
  by_cases hkind : kind = "execute"
  · subst hkind
    have hread : Entry.defaulted Credentials.ofJson? .none (.given v) =
        Entry.defaulted Credentials.ofJson? .none (.given w) := h
    simp only [ofRecord?, if_true, Invocation.ofRecord?_named]
    rw [Json.field?_replaced (w := w) (by simp), Json.field?_replaced fun _ => hread]
  · refine ofRecord?_congr (Json.entries_replaced v w ?_)
    unfold fieldNames
    split_ifs <;> simp

/-- A call that is written as an array has credentials in its third place only if it runs a
command. -/
theorem ofRecord?_credentialsItem (kind : String) (args : Json) (last : List Json)
    {members members' : List (String × Json)}
    (h : Credentials.ofJson? (.obj members) = Credentials.ofJson? (.obj members')) :
    ofRecord? kind (.positional (args :: .obj members :: last)) =
      ofRecord? kind (.positional (args :: .obj members' :: last)) := by
  simp only [ofRecord?, Json.Record.isBare, List.isEmpty_cons, Bool.false_eq_true, if_false]
  split_ifs
  case neg => rfl
  all_goals
    rcases last with _ | ⟨x, last⟩ <;>
      simp [Invocation.ofRecord?, Json.Record.soleText?, Record.entries, Json.positionalEntries,
        Entry.required, Entry.defaulted, Json.text?, h]

theorem ofJson?_restated {v w : Json} (h : Restated v w) : ofJson? v = ofJson? w := by
  cases h with
  | members varies =>
    rw [ofJson?_eq]
    exact Json.readTagged_varies (fun hentries => ofRecord?_congr hentries) varies
  | credentials first last inner =>
    rw [ofJson?_eq]
    exact Json.readTagged_replaced (by simp) fun kind first last =>
      ofRecord?_credentials kind first last (Credentials.ofJson?_restated inner)
  | credentialsItem kind args last inner =>
    have hsame := Credentials.ofJson?_restated inner
    obtain ⟨varies⟩ := inner
    simp only [ofJson?, Json.tagged?, Option.bind_eq_bind, Option.bind_some,
      ofRecord?_credentialsItem _ args last hsame]

end Call

namespace Reply

/-- The fields of a kind of replies. -/
def fieldNames (kind : String) : List String :=
  if kind = "outcome" then ["exit_code", "stdout", "stderr"]
  else if kind = "flag" then ["value"]
  else if kind = "text" then ["value"]
  else []

theorem ofRecord?_congr {kind : String} {members members' : List (String × Json)}
    (h : (Record.named members).entries (fieldNames kind) =
      (Record.named members').entries (fieldNames kind)) :
    ofRecord? kind (.named members) = ofRecord? kind (.named members') := by
  unfold fieldNames at h
  simp only [ofRecord?, Json.Record.isBare, if_true]
  split_ifs at h ⊢
  case neg => rfl
  all_goals simp only [Outcome.ofRecord?, h]

/-- The names that count in the document of a reply. -/
def knownNames (members : List (String × Json)) : List String :=
  Json.knownNames "reply" (Json.kind? kinds) fieldNames members

/-- The document of a reply with its members in another order, or with one that is not asked for. An
outcome has its members among those of the reply. -/
inductive Restated : Json → Json → Prop
  | members {members members' : List (String × Json)}
    (varies : Varies (knownNames members) members members') :
    Restated (.obj members) (.obj members')

theorem ofJson?_eq : ofJson? = Json.readTagged "reply" (Json.kind? kinds) ofRecord? := rfl

theorem ofJson?_restated {v w : Json} (h : Restated v w) : ofJson? v = ofJson? w := by
  obtain ⟨varies⟩ := h
  rw [ofJson?_eq]
  exact Json.readTagged_varies (fun hentries => ofRecord?_congr hentries) varies

end Reply

namespace Failure

/-- The document of a failure with its members in another order, or with one that is not asked
for. -/
inductive Restated : Json → Json → Prop
  | members {members members' : List (String × Json)}
    (varies : Varies ["message"] members members') : Restated (.obj members) (.obj members')

theorem ofJson?_restated {v w : Json} (h : Restated v w) : ofJson? v = ofJson? w := by
  obtain ⟨varies⟩ := h
  have hentries := Json.Record.entries_congr fun name hname => varies.namedEntry_eq hname
  simp only [ofJson?, Json.record?, Json.Record.soleText?, Option.bind_eq_bind, Option.bind_some,
    hentries]

end Failure

/-- The document of a result whose reply or failure is restated. -/
inductive ResultRestated : Json → Json → Prop
  | reply {v w : Json} (inner : Reply.Restated v w) :
    ResultRestated (.obj [("Ok", v)]) (.obj [("Ok", w)])
  | failure {v w : Json} (inner : Failure.Restated v w) :
    ResultRestated (.obj [("Err", v)]) (.obj [("Err", w)])

theorem resultOfJson?_restated {v w : Json} (h : ResultRestated v w) :
    resultOfJson? v = resultOfJson? w := by
  cases h with
  | reply inner => simp only [resultOfJson?, if_true, Reply.ofJson?_restated inner]
  | failure inner =>
    simp only [resultOfJson?, String.reduceEq, if_false, if_true, Failure.ofJson?_restated inner]

/-! ## Frames -/

namespace Frame

/-- The fields of a kind of frames. -/
def fieldNames (kind : String) : List String :=
  if kind = "request" then ["id", "call"]
  else if kind = "response" then ["id", "result"]
  else if kind = "property" then ["name", "value"]
  else []

theorem ofRecord?_congr {kind : String} {members members' : List (String × Json)}
    (h : (Record.named members).entries (fieldNames kind) =
      (Record.named members').entries (fieldNames kind)) :
    ofRecord? kind (.named members) = ofRecord? kind (.named members') := by
  unfold fieldNames at h
  simp only [ofRecord?, Json.Record.isBare, if_true]
  split_ifs at h ⊢
  case neg => rfl
  all_goals simp only [h]

/-- The kind of frames that a document names. -/
def kind? (v : Json) : Option String :=
  v.text?.bind fun name => if name ∈ kinds then some name else none

/-- The names that count in the document of a frame. -/
def knownNames (members : List (String × Json)) : List String :=
  Json.knownNames "frame" kind? fieldNames members

theorem ofJson?_eq : ofJson? = Json.readTagged "frame" kind? ofRecord? := by
  funext v
  rw [ofJson?, Json.readTagged]
  rcases v.tagged? "frame" with _ | ⟨kind, r⟩
  · rfl
  · simp only [kind?, Option.bind_eq_bind, Option.bind_some, Option.bind_assoc]

/-- The document of a frame with its members in another order, or with one that is not asked for; or
that of its call or of its result; or the members of an object in the value of its property in
another order. -/
inductive Restated : Json → Json → Prop
  | members {members members' : List (String × Json)}
    (varies : Varies (knownNames members) members members') :
    Restated (.obj members) (.obj members')
  | call (first last : List (String × Json)) {v w : Json} (inner : Call.Restated v w) :
    Restated (.obj (first ++ ("call", v) :: last)) (.obj (first ++ ("call", w) :: last))
  | result (first last : List (String × Json)) {v w : Json} (inner : ResultRestated v w) :
    Restated (.obj (first ++ ("result", v) :: last)) (.obj (first ++ ("result", w) :: last))
  | value (first last : List (String × Json)) {v w : Json} (inner : Permuted v w) :
    Restated (.obj (first ++ ("value", v) :: last)) (.obj (first ++ ("value", w) :: last))

section Fields

variable (members : List (String × Json))

/-- A frame with two fields is read from them. -/
theorem pair_eq {α β : Type} (name other : String) (read : Entry → Option α)
    (read' : Entry → Option β) (make : α → β → Frame) :
    (do
      let [a, b] ← (Record.named members).entries [name, other] | none
      return make (← read a) (← read' b)) =
    (field? members name read).bind fun a => (field? members other read').bind fun b =>
      some (make a b) := by
  rw [Json.Record.entries_pair, field?, field?]
  rcases Json.namedEntry members name with _ | a
  · rfl
  · rcases Json.namedEntry members other with _ | b
    · simp
    · rfl

theorem ofRecord?_request_named : ofRecord? "request" (.named members) =
    (field? members "id" (Entry.required Json.uint64?)).bind fun id =>
      (field? members "call" (Entry.required Call.ofJson?)).bind fun call =>
        some (.request id call) := by
  rw [ofRecord?, if_pos rfl]
  exact pair_eq members "id" "call" _ _ _

theorem ofRecord?_response_named : ofRecord? "response" (.named members) =
    (field? members "id" (Entry.required Json.uint64?)).bind fun id =>
      (field? members "result" (Entry.required resultOfJson?)).bind fun result =>
        some (.response id result) := by
  rw [ofRecord?, if_neg (by decide), if_pos rfl]
  exact pair_eq members "id" "result" _ _ _

theorem ofRecord?_property_named : ofRecord? "property" (.named members) =
    (field? members "name" (Entry.required Json.text?)).bind fun name =>
      (field? members "value" (Entry.required (some ·.canonical))).bind fun value =>
        some (.property name value) := by
  rw [ofRecord?, if_neg (by decide), if_neg (by decide), if_pos rfl]
  exact pair_eq members "name" "value" _ _ _

end Fields

/-- A member may be replaced by one that is read alike. -/
theorem ofRecord?_replaced (kind : String) (first last : List (String × Json)) {key : String}
    {v w : Json} (hid : key ≠ "id") (hname : key ≠ "name")
    (hcall : key = "call" → Call.ofJson? v = Call.ofJson? w)
    (hresult : key = "result" → resultOfJson? v = resultOfJson? w)
    (hvalue : key = "value" → v.canonical = w.canonical) :
    ofRecord? kind (.named (first ++ (key, v) :: last)) =
      ofRecord? kind (.named (first ++ (key, w) :: last)) := by
  by_cases hrequest : kind = "request"
  · subst hrequest
    rw [ofRecord?_request_named, ofRecord?_request_named,
      Json.field?_replaced (w := w) fun h => absurd h.symm hid,
      Json.field?_replaced (w := w) fun h => hcall h.symm]
  by_cases hresponse : kind = "response"
  · subst hresponse
    rw [ofRecord?_response_named, ofRecord?_response_named,
      Json.field?_replaced (w := w) fun h => absurd h.symm hid,
      Json.field?_replaced (w := w) fun h => hresult h.symm]
  by_cases hproperty : kind = "property"
  · subst hproperty
    have hread : field? (first ++ (key, v) :: last) "value" (Entry.required (some ·.canonical)) =
        field? (first ++ (key, w) :: last) "value" (Entry.required (some ·.canonical)) :=
      Json.field?_replaced fun h => congrArg some (hvalue h.symm)
    rw [ofRecord?_property_named, ofRecord?_property_named, hread,
      Json.field?_replaced (w := w) fun h => absurd h.symm hname]
  · refine ofRecord?_congr (Json.entries_replaced v w ?_)
    simp [fieldNames, hrequest, hresponse, hproperty]

/-- **A frame that is stated in another way is the same frame**, or none either. -/
theorem ofJson?_restated {v w : Json} (h : Restated v w) : ofJson? v = ofJson? w := by
  rw [ofJson?_eq]
  cases h with
  | members varies => exact Json.readTagged_varies (fun hentries => ofRecord?_congr hentries) varies
  | call first last inner =>
    refine Json.readTagged_replaced (by simp) fun kind first last => ?_
    exact ofRecord?_replaced kind first last (by simp) (by simp)
      (fun _ => Call.ofJson?_restated inner) (fun h => by simp at h) (fun h => by simp at h)
  | result first last inner =>
    refine Json.readTagged_replaced (by simp) fun kind first last => ?_
    exact ofRecord?_replaced kind first last (by simp) (by simp) (fun h => by simp at h)
      (fun _ => resultOfJson?_restated inner) (fun h => by simp at h)
  | value first last inner =>
    refine Json.readTagged_replaced (by simp) fun kind first last => ?_
    exact ofRecord?_replaced kind first last (by simp) (by simp) (fun h => by simp at h)
      (fun h => by simp at h) (fun _ => inner.canonical_eq)

/-! ## Frames that have been decoded -/

/-- No number in the value of a property is a float. -/
def FloatFree : Frame → Prop
  | .property _ value => value.FloatFree
  | _ => True

/-- The value of a property that has been read is in canonical form, and nests less deep than the
document. -/
theorem property_of_ofJson? {v value : Json} {name : String}
    (h : ofJson? v = some (.property name value)) :
    ∃ w : Json, value = w.canonical ∧ w.depth + 1 ≤ v.depth := by
  rw [ofJson?_eq, Json.readTagged] at h
  obtain ⟨⟨tag, r⟩, htagged, h⟩ := Option.bind_eq_some_iff.mp h
  obtain ⟨kind, -, h⟩ := Option.bind_eq_some_iff.mp h
  have hdepth := Json.depth_of_tagged? htagged
  unfold ofRecord? at h
  split_ifs at h
  · obtain ⟨entries, -, h⟩ := Option.bind_eq_some_iff.mp h
    split at h
    · obtain ⟨id, -, h⟩ := Option.bind_eq_some_iff.mp h
      obtain ⟨call, -, h⟩ := Option.bind_eq_some_iff.mp h
      cases h
    · cases h
  · obtain ⟨entries, -, h⟩ := Option.bind_eq_some_iff.mp h
    split at h
    · obtain ⟨id, -, h⟩ := Option.bind_eq_some_iff.mp h
      obtain ⟨result, -, h⟩ := Option.bind_eq_some_iff.mp h
      cases h
    · cases h
  · obtain ⟨entries, hentries, h⟩ := Option.bind_eq_some_iff.mp h
    split at h
    · rename_i nameEntry valueEntry
      obtain ⟨name', -, h⟩ := Option.bind_eq_some_iff.mp h
      obtain ⟨value', hvalue, h⟩ := Option.bind_eq_some_iff.mp h
      cases h
      cases valueEntry with
      | given w =>
        cases hvalue
        have hw := Record.depth_of_given hentries (v := w) (by simp)
        exact ⟨w, rfl, by omega⟩
      | omitted => cases hvalue
      | cutOff => cases hvalue
    · cases h
  · cases h

/-- **What has been decoded can be encoded**, if it holds no float, and is its own canonical
form. -/
theorem readable_of_parse {body : Bytes} {frame : Frame} (h : parse body = .ok frame)
    (hf : frame.FloatFree) : frame.Readable ∧ frame.canonical = frame := by
  obtain ⟨v, hv, hframe⟩ := exists_document h
  obtain ⟨t, ht, -, rfl⟩ := Json.parse_eq_ok_iff.mp hv
  have hdepth := Json.depth_of_value ht
  cases frame with
  | property name value =>
    obtain ⟨w, rfl, hw⟩ := property_of_ofJson? hframe
    have hcanonical := Json.depth_canonical_le w
    refine ⟨⟨hf, ?_⟩, ?_⟩
    · simp only [toJson, Json.depth, Json.membersDepth, Json.canonical_canonical]
      omega
    · rw [canonical, Json.canonical_canonical]
  | request id call => exact ⟨trivial, rfl⟩
  | response id result => exact ⟨trivial, rfl⟩
  | ping => exact ⟨trivial, rfl⟩

/-! ## Bodies -/

/-- What a body comes to that is not over the limit. -/
theorem decode_of_document {limit : ℕ} {body : Bytes} {v : Json} (hl : body.length ≤ limit)
    (h : Json.parse body = .ok v) :
    decode limit body = (verdict (ofJson? v)).mapError .document := by
  rw [decode, if_pos hl, parse_eq h]

/-- What holds of the bodies that are decoded under a limit. -/
structure Tolerant (limit : ℕ) : Prop where
  /-- Bodies whose documents state a frame in one way and in another are decoded to the same frame,
  or are both of the wrong shape. -/
  restated : ∀ {body body' : Bytes} {v v' : Json}, body.length ≤ limit → body'.length ≤ limit →
    Json.parse body = .ok v → Json.parse body' = .ok v' → Relation.EqvGen Restated v v' →
    decode limit body = decode limit body' ∧
      ((∃ frame, decode limit body = .ok frame) ∨
        decode limit body = .error (.document .mismatched))
  /-- What has been decoded is encoded and decoded to the same frame again, under any limit that its
  body is within. -/
  again : ∀ {body : Bytes} {frame : Frame}, decode limit body = .ok frame → frame.FloatFree →
    ∀ limit', frame.body.length ≤ limit' →
    encode limit' frame = .ok frame.body ∧ decode limit' frame.body = .ok frame

/-- **Decoding is tolerant** of the order of members and of members that are not asked for. -/
theorem decode_tolerant (limit : ℕ) : Tolerant limit where
  restated {body body' v v'} hl hl' hv hv' h := by
    have hsame : ofJson? v = ofJson? v' := by
      clear hv hv'
      induction h with
      | rel v w h => exact ofJson?_restated h
      | refl v => rfl
      | symm v w _ ih => exact ih.symm
      | trans u v w _ _ ih ih' => exact ih.trans ih'
    rw [decode_of_document hl hv, decode_of_document hl' hv', hsame]
    refine ⟨rfl, ?_⟩
    rcases ofJson? v' with _ | frame
    · exact .inr rfl
    · exact .inl ⟨frame, rfl⟩
  again {body frame} h hf limit' hl' := by
    have hparse : parse body = .ok frame := by
      unfold decode at h
      split_ifs at h
      rcases hresult : parse body with f | frame'
      · rw [hresult] at h
        cases h
      · rw [hresult] at h
        cases h
        rfl
    obtain ⟨hreadable, hcanonical⟩ := readable_of_parse hparse hf
    have hdecode := decode_body hreadable hl'
    rw [hcanonical] at hdecode
    exact ⟨if_pos hl', hdecode⟩

end Frame

end CommandLink
