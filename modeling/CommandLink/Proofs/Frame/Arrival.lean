import CommandLink.Proofs.Frame.Stream
import CommandLink.Proofs.Json.Reading

/-!
# How frames arrive

Whatever is read from the body of a frame is a frame of the same kind (`kind_of_decode`): the kind
stands in front of everything else, and no later member can change it. So a frame arrives as what it
was sent as, but for the value of a property (`ArrivesAs`). Of a part of the bytes of some frames
what is read are the first of these frames (`exists_arrived`); a property that cannot be read is no
exception, because nothing behind it is read.
-/

namespace CommandLink

namespace Frame

variable {limit : ℕ} {frame got : Frame} {frames gots : List Frame} {w : Bytes}
  {wires : List Bytes} {kind : String}

/-! ## Kinds -/

/-- The kind of a frame is not read twice. -/
theorem kind_of_readMember {depth : ℕ} {read : Members} {input : Bytes} {t : Taken Members input}
    (hk : read.kind = some kind) (ht : readMember depth read input = .ok t) :
    t.value.kind = some kind := by
  unfold readMember at ht
  rcases hkey : Json.key input with f | k
  · rw [hkey] at ht
    cases ht
  rw [hkey] at ht
  dsimp only at ht
  by_cases hframe : k.value = "frame"
  · rw [if_pos hframe, if_pos (by rw [hk]; rfl)] at ht
    cases ht
  rw [if_neg hframe] at ht
  rcases hvalue : Json.afterColon (Json.value depth) k.rest with f | v
  · rw [hvalue] at ht
    cases ht
  rw [hvalue] at ht
  cases ht
  exact hk

/-- The kind of a frame is read first. -/
theorem kind_of_readContent {fronts : List Bytes} {input : Bytes}
    {t : Taken (Option String × Json.Record) input} (hk : kind ∈ kinds)
    (hinput : input = 123 :: Json.parts 125 (Json.memberBytes ("frame", .str kind) :: fronts))
    (ht : readContent input = .ok t) : t.value.1 = some kind := by
  subst hinput
  rw [readContent_brace] at ht
  obtain ⟨u, hu, rfl⟩ := Json.exists_of_map_eq_ok ht
  change u.value.kind = some kind
  obtain ⟨b, tail, hfront, hblank, -, hclose⟩ :=
    Json.begins_textChars "frame" (58 :: Text.Utf8.encode (Json.str kind).chars)
  have hskip : Json.skip (Json.parts 125 (Json.memberBytes ("frame", .str kind) :: fronts)) =
      b :: (tail ++ Json.moreParts 125 fronts) := by
    rw [Json.parts, Json.memberBytes, hfront, List.cons_append, Json.skip_cons hblank]
  rw [Json.items_of_cons hskip, if_neg hclose] at hu
  refine Json.itemsFrom_preserves (P := fun m : Members => m.kind = some kind) (fun v hv => ?_)
    (fun s input v hs hv => kind_of_readMember hs hv) hu
  obtain ⟨hlt, hread⟩ := readMember_kind hk (Json.maxDepth - 1) [] (Json.moreParts 125 fronts)
  cases hread.symm.trans hv
  rfl

/-- The frame of a record has the kind that is asked for. -/
theorem kind_of_ofRecord? {r : Json.Record} (hk : kind ∈ kinds)
    (h : ofRecord? kind r = some got) : got.kind = kind := by
  unfold ofRecord? at h
  split_ifs at h with hrequest hresponse hproperty hbare
  · obtain ⟨entries, -, h⟩ := Option.bind_eq_some_iff.mp h
    split at h
    · obtain ⟨id, -, h⟩ := Option.bind_eq_some_iff.mp h
      obtain ⟨call, -, h⟩ := Option.bind_eq_some_iff.mp h
      cases h
      exact hrequest.symm
    · cases h
  · obtain ⟨entries, -, h⟩ := Option.bind_eq_some_iff.mp h
    split at h
    · obtain ⟨id, -, h⟩ := Option.bind_eq_some_iff.mp h
      obtain ⟨result, -, h⟩ := Option.bind_eq_some_iff.mp h
      cases h
      exact hresponse.symm
    · cases h
  · obtain ⟨entries, -, h⟩ := Option.bind_eq_some_iff.mp h
    split at h
    · obtain ⟨name, -, h⟩ := Option.bind_eq_some_iff.mp h
      obtain ⟨value, -, h⟩ := Option.bind_eq_some_iff.mp h
      cases h
      exact hproperty.symm
    · cases h
  · cases h
    have hping : kind = "ping" := by simpa [kinds, hrequest, hresponse, hproperty] using hk
    exact hping.symm

/-- **What is read from the body of a frame is of the same kind.** -/
theorem kind_of_decode (h : decode limit frame.body = .ok got) : got.kind = frame.kind := by
  have hbody : frame.body = 123 :: Json.parts 125
      (Json.memberBytes ("frame", .str frame.kind) :: frame.fields.map Json.memberBytes) := by
    rw [body, Json.bytes, toJson_eq, Json.encode_obj, List.map_cons]
  unfold decode at h
  split_ifs at h
  unfold parse at h
  rcases hread : readContent frame.body with f | t
  · rw [hread] at h
    cases h
  have hkind := kind_of_readContent frame.kind_mem_kinds hbody hread
  obtain ⟨⟨kind?, r⟩, rest, hrest⟩ := t
  obtain rfl : kind? = some frame.kind := hkind
  rw [hread] at h
  dsimp only at h
  rcases hframe : ofRecord? frame.kind r with _ | other
  · rw [hframe] at h
    cases h
  rw [hframe] at h
  obtain rfl : other = got := by
    rcases hskip : Json.skip rest with _ | ⟨b, more⟩
    · simp only [Json.atEnd, Taken.map, hskip] at h
      cases h
      rfl
    · simp only [Json.atEnd, Taken.map, hskip] at h
      cases h
  exact kind_of_ofRecord? frame.kind_mem_kinds hframe

/-! ## Arrival -/

/-- How a frame arrives: as itself, or as some property if it is one. -/
inductive ArrivesAs : Frame → Frame → Prop
  | same (frame : Frame) : ArrivesAs frame frame
  | property (name name' : String) (value value' : Json) :
    ArrivesAs (.property name value) (.property name' value')

theorem arrivesAs_of_decode (h : decode limit frame.body = .ok got) : ArrivesAs frame got := by
  have hkind := kind_of_decode h
  have hsame : frame.Readable → frame.canonical = frame → ArrivesAs frame got := by
    intro hr hc
    have hl : frame.body.length ≤ limit := by
      unfold decode at h
      split_ifs at h with hl
      exact hl
    rw [decode_body hr hl, Except.ok.injEq] at h
    rw [← h, hc]
    exact .same frame
  cases frame with
  | request id call => exact hsame trivial rfl
  | response id result => exact hsame trivial rfl
  | ping => exact hsame trivial rfl
  | property name value =>
    cases got with
    | property name' value' => exact .property ..
    | _ => simp [kind] at hkind

/-- A body that cannot be read completes no frame. -/
theorem feed_unreadableBody {bytes : Bytes} {e : FrameError} (hpos : 0 < bytes.length)
    (hd : decode limit bytes = .error e) :
    Partial.feed limit (.body bytes.length []) bytes = ([], .error e) := by
  obtain ⟨front, b, rfl⟩ : ∃ front b, bytes = front ++ [b] :=
    ⟨_, _, (List.dropLast_concat_getLast (List.ne_nil_of_length_pos hpos)).symm⟩
  have hfront : Partial.feed limit (.body (front ++ [b]).length []) front =
      ([], .ok (.body 1 front.reverse)) := by
    rw [Partial.feed_body (by simp), List.append_nil, List.length_append, Nat.add_sub_cancel_left,
      List.length_singleton]
  have hpush : Partial.push limit (.body 1 front.reverse) b = .error e := by
    rw [Partial.push, if_neg (by decide), List.reverse_cons, List.reverse_reverse, hd]
    rfl
  rw [Partial.feed_append, hfront]
  simp only [Partial.feed, Partial.feedOnto, hpush, List.nil_append, List.reverse_nil]

/-- The bytes of a frame complete what it arrives as, or nothing is read from there on. -/
theorem feed_wire_arrives (hw : frame.wire limit = .ok w) :
    (∃ got, ArrivesAs frame got ∧ Partial.start.feed limit w = ([got], .ok .start)) ∨
      ∃ e, Partial.start.feed limit w = ([], .error e) := by
  obtain ⟨hl, hb, rfl⟩ := wire_eq_ok_iff.mp hw
  have hpos := List.length_pos_iff.mpr frame.body_ne_nil
  rw [Partial.feed_append, Partial.feed_length hb hpos hl]
  rcases hd : decode limit frame.body with e | got
  · right
    simp only [feed_unreadableBody hpos hd, List.nil_append]
    exact ⟨e, rfl⟩
  · left
    simp only [Partial.feed_wholeBody hpos hd, List.nil_append]
    exact ⟨got, arrivesAs_of_decode hd, rfl⟩

/-- **What is read of some frames** from a part of their bytes are the first of them, one after the
other. -/
theorem exists_arrived {read : Bytes} {result : Except FrameError Partial}
    (hw : List.Forall₂ (fun frame w => frame.wire limit = .ok w) frames wires)
    (hp : read <+: wires.flatten) (hfeed : Partial.start.feed limit read = (gots, result)) :
    ∃ count, List.Forall₂ ArrivesAs (frames.take count) gots := by
  induction hw generalizing read gots with
  | nil =>
    obtain rfl := List.prefix_nil.mp hp
    cases hfeed
    exact ⟨0, .nil⟩
  | @cons frame w frames wires hfirst _ ih =>
    rw [List.flatten_cons] at hp
    by_cases hwhole : w <+: read
    · obtain ⟨rest, rfl⟩ := hwhole
      rw [Partial.feed_append] at hfeed
      rcases feed_wire_arrives hfirst with ⟨got, hgot, hwire⟩ | ⟨e, hwire⟩
      · rw [hwire] at hfeed
        cases hfeed
        obtain ⟨count, hlater⟩ := ih ((List.prefix_append_right_inj w).mp hp) rfl
        exact ⟨count + 1, .cons hgot hlater⟩
      · rw [hwire] at hfeed
        cases hfeed
        exact ⟨0, .nil⟩
    · have hwithin : read <+: w :=
        (List.prefix_or_prefix_of_prefix hp (List.prefix_append w _)).resolve_right hwhole
      have hne : read ≠ w := fun h => hwhole (h ▸ List.prefix_rfl)
      obtain ⟨state, hpart, -⟩ := feed_wirePart hfirst hwithin hne
      rw [hpart] at hfeed
      cases hfeed
      exact ⟨0, .nil⟩

end Frame

end CommandLink
