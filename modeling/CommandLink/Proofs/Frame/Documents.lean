import CommandLink.Frame.Decode
import CommandLink.Proofs.Json.Members
import CommandLink.Proofs.Json.Reading

/-!
# The frame of a body is the frame of its document

The bytes of a body are read once from left to right, and the member that names the kind of the frame
is checked where it stands. What comes of it is the same as if the whole document were read first and
the frame were read from the document (`parse_eq`, `exists_document`). So what holds of documents
holds of bodies.
-/

namespace CommandLink.Frame

open Json (Record Keeps)

/-! ## The member that names the kind -/

/-- A document names a kind of frames. -/
def NamesKind (v : Json) (kind : String) : Prop := v = .str kind ∧ kind ∈ kinds

/-- The name of a kind is read like any document. -/
theorem readKind_keeps (inner : Option (Json.Reader Json)) (input : Bytes) :
    Keeps NamesKind (fun v => ∀ kind, ¬ NamesKind v kind) (Json.valueWith inner input)
      (readKind input) := by
  unfold readKind
  rcases hs : Json.skip input with _ | ⟨b, rest⟩
  · rw [Json.valueWith_of_nil hs, Json.textOnly_of_nil hs]
    exact .neither _ _
  · rw [Json.valueWith_of_cons hs, Json.textOnly_of_cons hs]
    have hother : ∀ {t}, b ≠ 34 → Json.valueFrom inner b rest (Json.length_lt_of_skip hs) = .ok t →
        ∀ kind, ¬ NamesKind t.value kind :=
      fun hb h kind hnames => Json.ne_str_of_valueFrom hb h kind hnames.1
    by_cases hquote : b = 34
    · subst hquote
      rw [if_pos rfl]
      have hvalue : Json.valueFrom inner 34 rest (Json.length_lt_of_skip hs) =
          (Json.textOnto [] rest (Json.length_lt_of_skip hs)).map (Taken.map .str) := rfl
      rw [hvalue]
      rcases Json.textOnto [] rest (Json.length_lt_of_skip hs) with f | t
      · exact .neither _ _
      · dsimp only
        split_ifs with hkind
        · exact .both _ _ rfl ⟨rfl, hkind⟩
        · refine .refused _ fun kind hnames => ?_
          obtain ⟨heq, hmem⟩ := hnames
          cases heq
          exact hkind hmem
    · rw [if_neg hquote]
      rcases hvalue : Json.valueFrom inner b rest (Json.length_lt_of_skip hs) with f | t
      · by_cases hopen : b = 91 ∨ b = 123
        · rw [if_pos hopen]
          exact .neither _ _
        · rw [if_neg hopen]
          rcases Json.valueWith none input with g | t
          · exact .neither _ _
          · exact .neither _ _
      · by_cases hopen : b = 91 ∨ b = 123
        · rw [if_pos hopen]
          exact .refused t (hother hquote hvalue)
        · rw [if_neg hopen]
          rw [not_or] at hopen
          rw [Json.valueFrom_of_scalar _ _ hopen.1 hopen.2] at hvalue
          rw [Json.valueWith_of_cons hs, hvalue]
          exact .refused t fun kind hnames => Json.ne_str_of_valueFrom hquote hvalue kind hnames.1

/-! ## Bodies that are objects -/

/-- The members of a document so far, last first, are those of a body. -/
structure MembersAlike (read : List (String × Json)) (m : Members) : Prop where
  others : m.others = read.filter fun e => e.1 ≠ "frame"
  kind : read.filter (fun e => e.1 = "frame") = m.kind.toList.map fun kind => ("frame", .str kind)
  known : ∀ kind ∈ m.kind, kind ∈ kinds

/-- No object with these members is a frame: one of them names no kind, or two name a kind. -/
def NoFrame (read : List (String × Json)) : Prop :=
  (∃ m ∈ read, m.1 = "frame" ∧ ∀ kind, ¬ NamesKind m.2 kind) ∨
    2 ≤ (read.filter fun m => m.1 = "frame").length

theorem NoFrame.cons {read : List (String × Json)} (h : NoFrame read) (m : String × Json) :
    NoFrame (m :: read) := by
  rcases h with ⟨m', hm', hnames⟩ | hlength
  · exact .inl ⟨m', List.mem_cons_of_mem _ hm', hnames⟩
  · refine .inr (Nat.le_trans hlength ?_)
    rw [List.filter_cons]
    split
    · exact Nat.le_succ _
    · exact Nat.le_refl _

/-- The frame of an object. -/
theorem ofJson?_obj (members : List (String × Json)) : ofJson? (.obj members) =
    match Json.namedEntry members "frame" with
    | some (.given (.str kind)) =>
      if kind ∈ kinds then ofRecord? kind (.named (members.filter fun m => m.1 ≠ "frame")) else none
    | _ => none := by
  rw [ofJson?, Json.tagged?]
  rcases Json.namedEntry members "frame" with _ | ⟨v | _ | _⟩
  · rfl
  · cases v
    case str kind =>
      simp only [Option.bind_eq_bind, Option.bind_some, Json.text?]
      split_ifs <;> rfl
    all_goals rfl
  · rfl
  · rfl

theorem ofJson?_of_noFrame {read : List (String × Json)} (h : NoFrame read) :
    ofJson? (.obj read.reverse) = none := by
  rw [ofJson?_obj, Json.namedEntry_reverse]
  rcases hfilter : read.filter (fun m => m.1 = "frame") with _ | ⟨m, _ | ⟨m', others⟩⟩
  · rw [hfilter]
  · rw [hfilter]
    rcases h with ⟨m', hm', hname, hnames⟩ | hlength
    · have hmem : m' ∈ read.filter fun m => m.1 = "frame" :=
        List.mem_filter.mpr ⟨hm', decide_eq_true hname⟩
      rw [hfilter, List.mem_singleton] at hmem
      subst hmem
      dsimp only
      generalize m'.2 = v at hnames
      cases v
      case str kind => exact if_neg fun hkind => hnames kind ⟨rfl, hkind⟩
      all_goals rfl
    · rw [hfilter] at hlength
      simp at hlength
  · rw [hfilter]

theorem ofJson?_of_alike {read : List (String × Json)} {m : Members} (h : MembersAlike read m) :
    ofJson? (.obj read.reverse) =
      m.kind.bind fun kind => ofRecord? kind (.named m.others.reverse) := by
  rw [ofJson?_obj, Json.namedEntry_reverse, h.kind, List.filter_reverse, ← h.others]
  rcases hkind : m.kind with _ | kind
  · rfl
  · exact if_pos (h.known kind hkind)

theorem MembersAlike.cons_other {read : List (String × Json)} {m : Members} (h : MembersAlike read m)
    {e : String × Json} (he : e.1 ≠ "frame") :
    MembersAlike (e :: read) { m with others := e :: m.others } where
  others := by
    rw [List.filter_cons, if_pos (decide_eq_true he), h.others]
  kind := by
    rw [List.filter_cons, if_neg (by simpa using he), h.kind]
  known := h.known

theorem MembersAlike.cons_kind {read : List (String × Json)} {m : Members} (h : MembersAlike read m)
    (hnone : m.kind = none) {kind : String} (hkind : kind ∈ kinds) :
    MembersAlike (("frame", .str kind) :: read) { m with kind := some kind } where
  others := by
    rw [List.filter_cons, if_neg (by simp), h.others]
  kind := by
    rw [List.filter_cons, if_pos (decide_eq_true rfl), h.kind, hnone]
    rfl
  known := by
    rintro _ ⟨⟩
    exact hkind

/-- One more member is read alike. -/
theorem readMember_keeps (depth : ℕ) {read : List (String × Json)} {m : Members}
    (h : MembersAlike read m) (input : Bytes) :
    Keeps MembersAlike NoFrame (((Json.member (Json.value depth)).map (· :: read)) input)
      (readMember depth m input) := by
  unfold Json.Reader.map Json.member readMember
  rcases hkey : Json.key input with f | k
  · exact .neither _ _
  · dsimp only
    by_cases hframe : k.value = "frame"
    · rw [if_pos hframe]
      obtain ⟨inner, hinner⟩ := Json.value_eq_valueWith depth
      have hkeeps := Json.afterColon_keeps (readKind_keeps inner) k.rest
      rw [hinner]
      generalize Json.afterColon (Json.valueWith inner) k.rest = first at hkeeps
      generalize Json.afterColon readKind k.rest = second at hkeeps
      rcases hkind : m.kind with _ | kind
      · rw [if_neg (by simp)]
        cases hkeeps with
        | neither f g => exact .neither _ _
        | refused x bad => exact .refused _ (.inl ⟨_, List.mem_cons_self, hframe, bad⟩)
        | both x y rest related =>
          refine .both _ _ rest ?_
          have halike := h.cons_kind hkind related.2
          rwa [← related.1, ← hframe] at halike
      · rw [if_pos (by simp)]
        rcases first with f | x
        · exact .neither _ _
        · refine .refused _ (.inr ?_)
          have hone := congrArg List.length h.kind
          rw [hkind] at hone
          dsimp only [Except.map, Taken.map]
          rw [List.filter_cons, if_pos (decide_eq_true hframe), List.length_cons, hone]
          exact Nat.le_refl _
    · rw [if_neg hframe]
      rcases Json.afterColon (Json.value depth) k.rest with f | v
      · exact .neither _ _
      · exact .both _ _ rfl (h.cons_other hframe)

/-! ## Bodies that are arrays -/

/-- The items of a document so far, last first, are those of a body. -/
def ItemsAlike (read : List Json) (i : Items) : Prop :=
  (i.kind = none ∧ read = [] ∧ i.others = []) ∨
    ∃ kind ∈ kinds, i.kind = some kind ∧ read = i.others ++ [.str kind]

/-- The first item names no kind. -/
def NoFrameItems (read : List Json) : Prop :=
  ∃ later v, read = later ++ [v] ∧ ∀ kind, ¬ NamesKind v kind

theorem NoFrameItems.cons {read : List Json} (h : NoFrameItems read) (v : Json) :
    NoFrameItems (v :: read) := by
  obtain ⟨later, first, rfl, hnames⟩ := h
  exact ⟨v :: later, first, rfl, hnames⟩

theorem ofJson?_of_noFrameItems {read : List Json} (h : NoFrameItems read) :
    ofJson? (.arr read.reverse) = none := by
  obtain ⟨later, v, rfl, hnames⟩ := h
  rw [List.reverse_append, List.reverse_singleton, List.singleton_append]
  cases v
  case str kind =>
    have hkind : kind ∉ kinds := fun hkind => hnames kind ⟨rfl, hkind⟩
    simp [ofJson?, Json.tagged?, Json.text?, hkind]
  all_goals rfl

theorem ofJson?_of_itemsAlike {read : List Json} {i : Items} (h : ItemsAlike read i) :
    ofJson? (.arr read.reverse) =
      i.kind.bind fun kind => ofRecord? kind (.positional i.others.reverse) := by
  rcases h with ⟨hnone, rfl, -⟩ | ⟨kind, hkind, hsome, rfl⟩
  · rw [hnone]
    rfl
  · rw [hsome, List.reverse_append, List.reverse_singleton, List.singleton_append]
    simp [ofJson?, Json.tagged?, Json.text?, hkind]

/-- One more item is read alike. -/
theorem readItem_keeps (depth : ℕ) {read : List Json} {i : Items} (h : ItemsAlike read i)
    (input : Bytes) : Keeps ItemsAlike NoFrameItems (((Json.value depth).map (· :: read)) input)
      (readItem depth i input) := by
  unfold readItem
  rcases h with ⟨hnone, rfl, hothers⟩ | ⟨kind, hkind, hsome, rfl⟩
  · obtain ⟨inner, hinner⟩ := Json.value_eq_valueWith depth
    rw [hnone, hinner]
    dsimp only
    refine (readKind_keeps inner input).reader_map ?_ ?_
    · rintro v kind ⟨rfl, hkind⟩
      exact .inr ⟨kind, hkind, rfl, by rw [hothers]; rfl⟩
    · exact fun hnames => ⟨[], _, rfl, hnames⟩
  · rw [hsome]
    dsimp only [Json.Reader.map]
    rcases Json.value depth input with f | v
    · exact .neither _ _
    · exact .both _ _ rfl (.inr ⟨kind, hkind, rfl, rfl⟩)

/-! ## Whole bodies -/

/-- What is read of a frame's content is what its document holds. -/
def ContentOf (v : Json) (content : Option String × Record) : Prop :=
  ofJson? v = content.1.bind fun kind => ofRecord? kind content.2

/-- A document that is no frame. -/
def NotFrame (v : Json) : Prop := ofJson? v = none

theorem readContent_of_nil {input : Bytes} (hs : Json.skip input = []) :
    readContent input = .error .truncated := by
  unfold readContent
  split
  · rfl
  · rename_i heq
    rw [hs] at heq
    cases heq

theorem readContent_of_cons {input rest : Bytes} {b : UInt8} (hs : Json.skip input = b :: rest) :
    readContent input =
      if b = 123 then
        (Json.items 125 (readMember (Json.maxDepth - 1)) ⟨none, []⟩ rest).map fun t =>
          (t.map fun m => (m.kind, .named m.others.reverse)).weaken (Json.length_le_of_skip hs)
      else if b = 91 then
        (Json.items 93 (readItem (Json.maxDepth - 1)) ⟨none, []⟩ rest).map fun t =>
          (t.map fun m => (m.kind, .positional m.others.reverse)).weaken (Json.length_le_of_skip hs)
      else match Json.valueWith none input with
        | .error f => .error f
        | .ok _ => .error .mismatched := by
  unfold readContent
  split
  · rename_i heq
    rw [hs] at heq
    cases heq
  · rename_i heq
    rw [hs] at heq
    cases heq
    rfl

/-- The members of an object are those of a body. -/
theorem members_keeps (depth : ℕ) (input : Bytes) : Keeps MembersAlike NoFrame
    (Json.items 125 (fun read => (Json.member (Json.value depth)).map (· :: read)) [] input)
    (Json.items 125 (readMember depth) ⟨none, []⟩ input) := by
  refine Json.items_keeps (fun _ _ _ hbad ht => ?_)
    (fun input h => readMember_keeps depth h input) ⟨rfl, rfl, by simp⟩
  obtain ⟨x, -, rfl⟩ := Json.Reader.map_eq_ok ht
  exact hbad.cons x.value

/-- The items of an array are those of a body. -/
theorem elements_keeps (depth : ℕ) (input : Bytes) : Keeps ItemsAlike NoFrameItems
    (Json.items 93 (fun read => (Json.value depth).map (· :: read)) [] input)
    (Json.items 93 (readItem depth) ⟨none, []⟩ input) := by
  refine Json.items_keeps (fun _ _ _ hbad ht => ?_)
    (fun input h => readItem_keeps depth h input) (.inl ⟨rfl, rfl, rfl⟩)
  obtain ⟨x, -, rfl⟩ := Json.Reader.map_eq_ok ht
  exact hbad.cons x.value

/-- **The content of a frame is read as its document is.** -/
theorem readContent_keeps (input : Bytes) :
    Keeps ContentOf NotFrame (Json.value Json.maxDepth input)
      (readContent input) := by
  change Keeps ContentOf NotFrame (Json.valueWith (some (Json.value (Json.maxDepth - 1))) input) _
  rcases hs : Json.skip input with _ | ⟨b, rest⟩
  · rw [Json.valueWith_of_nil hs, readContent_of_nil hs]
    exact .neither _ _
  · rw [Json.valueWith_of_cons hs, readContent_of_cons hs]
    by_cases hobj : b = 123
    · subst hobj
      rw [Json.valueFrom_brace, Json.members, Json.map_reader_map, if_pos rfl]
      refine (members_keeps (Json.maxDepth - 1) rest).map (fun h => ?_) (fun h => ?_) _
      · exact ofJson?_of_alike h
      · exact ofJson?_of_noFrame h
    · by_cases harr : b = 91
      · subst harr
        rw [Json.valueFrom_bracket, Json.elements, Json.map_reader_map, if_neg hobj, if_pos rfl]
        refine (elements_keeps (Json.maxDepth - 1) rest).map (fun h => ?_) (fun h => ?_) _
        · exact ofJson?_of_itemsAlike h
        · exact ofJson?_of_noFrameItems h
      · rw [Json.valueFrom_of_scalar _ _ harr hobj, if_neg hobj, if_neg harr,
          Json.valueWith_of_cons hs]
        rcases hvalue : Json.valueFrom none b rest (Json.length_lt_of_skip hs) with f | t
        · exact .neither _ _
        · refine .refused t ?_
          have hdepth := Json.depth_of_scalar hvalue
          generalize t.value = v at hdepth
          cases v
          case arr => cases hdepth
          case obj => cases hdepth
          all_goals rfl

/-- What a document comes to as a frame. -/
def verdict : Option Frame → Except Json.Fault Frame
  | some frame => .ok frame
  | none => .error .mismatched

/-- What is made of a frame's content, where nothing follows it. -/
theorem parse_of_content {body : Bytes} {t : Taken (Option String × Record) body}
    (h : readContent body = .ok t) (hend : Json.skip t.rest = []) :
    parse body = verdict (t.value.1.bind fun kind => ofRecord? kind t.value.2) := by
  obtain ⟨⟨_ | kind, r⟩, rest, shorter⟩ := t
  · rw [parse, h]
    rfl
  · rw [parse, h]
    dsimp only [Option.bind_some]
    rcases ofRecord? kind r with _ | frame
    · rfl
    · exact Json.atEnd_eq_ok_iff.mpr ⟨hend, rfl⟩

/-- **The frame of a body** is the frame of its document. -/
theorem parse_eq {body : Bytes} {v : Json} (h : Json.parse body = .ok v) :
    parse body = verdict (ofJson? v) := by
  obtain ⟨x, hx, hend, rfl⟩ := Json.parse_eq_ok_iff.mp h
  have hkeeps := readContent_keeps body
  rw [hx] at hkeeps
  generalize hcontent : readContent body = content at hkeeps
  cases hkeeps with
  | refused _ bad =>
    rw [parse, hcontent, show ofJson? x.value = none from bad]
    rfl
  | both _ y rest related =>
    rw [parse_of_content hcontent (rest ▸ hend), related]

/-- Where a frame is read, there is a document. -/
theorem exists_document {body : Bytes} {frame : Frame} (h : parse body = .ok frame) :
    ∃ v, Json.parse body = .ok v ∧ ofJson? v = some frame := by
  have hdocument : ∃ v, Json.parse body = .ok v := by
    have hkeeps := readContent_keeps body
    unfold parse at h
    generalize hvalue : Json.value Json.maxDepth body = value at hkeeps
    generalize readContent body = content at hkeeps h
    cases hkeeps with
    | neither f g => cases h
    | refused x bad => cases h
    | both x y rest related =>
      obtain ⟨⟨_ | kind, r⟩, after, shorter⟩ := y
      · cases h
      · dsimp only at h
        split at h
        · cases h
        · obtain ⟨hend, -⟩ := Json.atEnd_eq_ok_iff.mp h
          exact ⟨_, Json.parse_eq_ok_iff.mpr ⟨x, hvalue, rest ▸ hend, rfl⟩⟩
  obtain ⟨v, hv⟩ := hdocument
  refine ⟨v, hv, ?_⟩
  rw [parse_eq hv] at h
  rcases hframe : ofJson? v with _ | frame'
  · rw [hframe] at h
    cases h
  · rw [hframe] at h
    exact congrArg some (Except.ok.inj h)

end CommandLink.Frame
