import CommandLink.Frame.Stream
import CommandLink.Proofs.Frame.RoundTrip
import Mathlib.Data.List.Forall2

/-!
# Streams of frames are read back

The bytes of some frames, one behind the other and cut into any pieces, are read as these frames,
and so is every part of them up to the frames that are complete in it (`stream_readBack`). What has
arrived is followed through the parts of one frame: fewer than four bytes of the length
(`feed_header`), the length (`feed_length`), a part of the body (`feed_body`), and the whole frame
(`feed_wire`).
-/

namespace CommandLink.Frame

namespace Partial

variable {limit : ℕ}

/-! ## Parts of a frame -/

/-- Fewer than four bytes of the length complete nothing. -/
theorem feed_header {read bytes : Bytes} (h : read.length + bytes.length < 4) :
    feed limit (.header read) bytes = ([], .ok (.header (bytes.reverse ++ read))) := by
  induction bytes generalizing read with
  | nil => rfl
  | cons b bytes ih =>
    rw [List.length_cons] at h
    have hpush : push limit (.header read) b = .ok (none, .header (b :: read)) :=
      if_pos (by omega)
    have hlater : feed limit (.header (b :: read)) bytes =
        ([], .ok (.header (bytes.reverse ++ b :: read))) := ih (by rw [List.length_cons]; omega)
    rw [feed, feedOnto, hpush, List.reverse_cons, List.append_assoc]
    exact hlater

/-- A length within the limit announces a body. -/
theorem feed_length {n : ℕ} (hn : n < 4294967296) (hpos : 0 < n) (hl : n ≤ limit) :
    feed limit start (Bytes.bigEndian 4 n) = ([], .ok (.body n [])) := by
  have hlength := Bytes.length_bigEndian 3 (n / 256)
  have hvalue : Bytes.toNat (Bytes.bigEndian 4 n) = n := Bytes.toNat_bigEndian hn
  have hfirst : feed limit start (Bytes.bigEndian 3 (n / 256)) =
      ([], .ok (.header (Bytes.bigEndian 3 (n / 256)).reverse)) := by
    rw [start, feed_header (by rw [hlength]; decide), List.append_nil]
  rw [Bytes.bigEndian] at hvalue ⊢
  rw [feed_append, hfirst]
  have hpush : push limit (.header (Bytes.bigEndian 3 (n / 256)).reverse) (UInt8.ofNat (n % 256)) =
      .ok (none, .body n []) := by
    rw [push, if_neg (by rw [List.length_reverse, hlength]; decide)]
    simp only [List.reverse_cons, List.reverse_reverse, hvalue]
    rw [if_neg (by omega), if_neg (by omega)]
  simp only [feed, feedOnto, hpush, List.nil_append, List.reverse_nil]

/-- Part of a body completes nothing. -/
theorem feed_body {missing : ℕ} {read bytes : Bytes} (h : bytes.length < missing) :
    feed limit (.body missing read) bytes =
      ([], .ok (.body (missing - bytes.length) (bytes.reverse ++ read))) := by
  induction bytes generalizing missing read with
  | nil => rfl
  | cons b bytes ih =>
    rw [List.length_cons] at h
    have hpush : push limit (.body missing read) b = .ok (none, .body (missing - 1) (b :: read)) :=
      if_pos (by omega)
    have hlater : feed limit (.body (missing - 1) (b :: read)) bytes =
        ([], .ok (.body (missing - 1 - bytes.length) (bytes.reverse ++ b :: read))) :=
      ih (by omega)
    rw [feed, feedOnto, hpush, List.length_cons, Nat.add_comm, ← Nat.sub_sub, List.reverse_cons,
      List.append_assoc]
    exact hlater

/-- The rest of a body completes the frame that the body encodes. -/
theorem feed_wholeBody {bytes : Bytes} {frame : Frame} (hpos : 0 < bytes.length)
    (hd : decode limit bytes = .ok frame) :
    feed limit (.body bytes.length []) bytes = ([frame], .ok start) := by
  obtain ⟨front, b, rfl⟩ : ∃ front b, bytes = front ++ [b] :=
    ⟨_, _, (List.dropLast_concat_getLast (List.ne_nil_of_length_pos hpos)).symm⟩
  have hfront : feed limit (.body (front ++ [b]).length []) front =
      ([], .ok (.body 1 front.reverse)) := by
    rw [feed_body (by simp), List.append_nil, List.length_append, Nat.add_sub_cancel_left,
      List.length_singleton]
  have hpush : push limit (.body 1 front.reverse) b = .ok (some frame, start) := by
    rw [push, if_neg (by decide), List.reverse_cons, List.reverse_reverse, hd]
    rfl
  rw [feed_append, hfront]
  simp only [feed, feedOnto, hpush, List.nil_append, List.reverse_singleton]

end Partial

/-! ## Whole frames -/

section Wires

variable {limit : ℕ} {frame : Frame} {frames : List Frame} {w : Bytes} {wires : List Bytes}

/-- What a frame that is sent comes to. -/
theorem wire_eq_ok_iff : frame.wire limit = .ok w ↔
    frame.body.length ≤ limit ∧ frame.body.length < 4294967296 ∧
      w = Bytes.bigEndian 4 frame.body.length ++ frame.body := by
  rw [wire, encode]
  by_cases hl : frame.body.length ≤ limit
  · by_cases hb : frame.body.length < 4294967296
    · simp [bind, Except.bind, hl, hb, eq_comm]
    · simp [bind, Except.bind, hl, hb]
  · simp [bind, Except.bind, hl]

theorem body_ne_nil (frame : Frame) : frame.body ≠ [] := by
  rw [body, Json.bytes, toJson_eq, Json.encode_obj]
  exact List.cons_ne_nil _ _

/-- The bytes of a frame complete it. -/
theorem feed_wire (hr : frame.Readable) (hw : frame.wire limit = .ok w) :
    Partial.start.feed limit w = ([frame.canonical], .ok .start) := by
  obtain ⟨hl, hb, rfl⟩ := wire_eq_ok_iff.mp hw
  have hpos := List.length_pos_iff.mpr frame.body_ne_nil
  rw [Partial.feed_append, Partial.feed_length hb hpos hl]
  simp only [Partial.feed_wholeBody hpos (decode_body hr hl), List.nil_append]

/-- The bytes of frames that are all sent, one by one. -/
theorem forall₂_wire (hw : frames.mapM (wire limit) = .ok wires) :
    List.Forall₂ (fun frame w => frame.wire limit = .ok w) frames wires := by
  induction frames generalizing wires with
  | nil =>
    cases hw
    exact .nil
  | cons frame frames ih =>
    rw [List.mapM_cons] at hw
    match hfirst : frame.wire limit, hrest : frames.mapM (wire limit) with
    | .error e, _ => rw [hfirst] at hw; cases hw
    | .ok w, .error e => rw [hfirst, hrest] at hw; cases hw
    | .ok w, .ok later =>
      rw [hfirst, hrest] at hw
      cases hw
      exact .cons hfirst (ih hrest)

/-- The bytes of some frames complete these frames. -/
theorem feed_wires (hr : ∀ frame ∈ frames, frame.Readable)
    (hw : List.Forall₂ (fun frame w => frame.wire limit = .ok w) frames wires) :
    Partial.start.feed limit wires.flatten = (frames.map canonical, .ok .start) := by
  induction hw with
  | nil => rfl
  | cons hfirst _ ih =>
    obtain ⟨hframe, hlater⟩ := List.forall_mem_cons.mp hr
    rw [List.flatten_cons, Partial.feed_append, feed_wire hframe hfirst]
    simp only [ih hlater, List.map_cons, List.singleton_append]

end Wires

/-! ## Cut streams -/

/-- A part of some items that ends within one of them: `count` whole items, and then `inside` of the
next one. -/
structure CutAt (items : List Bytes) (bytes : Bytes) (count : ℕ) (inside : Bytes) : Prop where
  eq : bytes = (items.take count).flatten ++ inside
  next : ∃ item, items[count]? = some item ∧ inside <+: item ∧ inside ≠ item

/-- A part of some items that is not all of them ends within one of them. -/
theorem exists_cutAt {items : List Bytes} {bytes : Bytes} (hp : bytes <+: items.flatten)
    (hne : bytes ≠ items.flatten) : ∃ count inside, CutAt items bytes count inside := by
  induction items generalizing bytes with
  | nil => exact absurd (List.prefix_nil.mp hp) hne
  | cons item items ih =>
    rw [List.flatten_cons] at hp hne
    by_cases hitem : item <+: bytes
    · obtain ⟨rest, rfl⟩ := hitem
      have hrest : rest <+: items.flatten := (List.prefix_append_right_inj item).mp hp
      obtain ⟨count, inside, ⟨heq, hnext⟩⟩ := ih hrest fun h => hne (by rw [h])
      refine ⟨count + 1, inside, ⟨?_, hnext⟩⟩
      rw [heq, List.take_succ_cons, List.flatten_cons, List.append_assoc]
    · have hwithin : bytes <+: item :=
        (List.prefix_or_prefix_of_prefix hp (List.prefix_append item _)).resolve_right hitem
      refine ⟨0, bytes, ⟨rfl, item, rfl, hwithin, ?_⟩⟩
      rintro rfl
      exact hitem (List.prefix_refl bytes)

/-- How a stream ends when `inside` bytes of another frame have arrived. -/
def cutEnding (inside : ℕ) : Ending :=
  if inside = 0 then .ok ()
  else if inside < 4 then .error (.invalidFormat "truncated frame header")
  else .error (.io .earlyEof)

theorem cutEnding_eq_ok_iff {inside : ℕ} : cutEnding inside = .ok () ↔ inside = 0 := by
  unfold cutEnding
  split_ifs <;> simp [*]

theorem cutEnding_eq_invalidFormat_iff {inside : ℕ} :
    cutEnding inside = .error (.invalidFormat "truncated frame header") ↔
      0 < inside ∧ inside < 4 := by
  unfold cutEnding
  split_ifs <;> simp <;> omega

theorem cutEnding_eq_earlyEof_iff {inside : ℕ} :
    cutEnding inside = .error (.io .earlyEof) ↔ 4 ≤ inside := by
  unfold cutEnding
  split_ifs <;> simp <;> omega

section Cut

variable {limit : ℕ} {frame : Frame} {frames : List Frame} {w : Bytes} {wires : List Bytes}

theorem finish_header {read : Bytes} (h : read.length < 4) :
    (Partial.header read).finish = cutEnding read.length := by
  rcases read with _ | ⟨b, read⟩
  · rfl
  · exact (cutEnding_eq_invalidFormat_iff.mpr ⟨Nat.succ_pos _, h⟩).symm

/-- Part of the bytes of a frame completes nothing, and where it ends shows at the end of the
stream. -/
theorem feed_wirePart {inside : Bytes} (hw : frame.wire limit = .ok w) (hp : inside <+: w)
    (hne : inside ≠ w) :
    ∃ state, Partial.start.feed limit inside = ([], .ok state) ∧
      state.finish = cutEnding inside.length := by
  obtain ⟨hl, hb, rfl⟩ := wire_eq_ok_iff.mp hw
  by_cases hlt : inside.length < 4
  · refine ⟨.header inside.reverse, ?_, ?_⟩
    · rw [Partial.start, Partial.feed_header (by simpa using hlt), List.append_nil]
    · rw [finish_header (by simpa using hlt), List.length_reverse]
  · have hpos := List.length_pos_iff.mpr frame.body_ne_nil
    have hheader := Bytes.length_bigEndian 4 frame.body.length
    obtain ⟨part, rfl⟩ := List.prefix_of_prefix_length_le
      (List.prefix_append (Bytes.bigEndian 4 frame.body.length) frame.body) hp (by omega)
    have hpart : part <+: frame.body := (List.prefix_append_right_inj _).mp hp
    have hshort : part.length < frame.body.length := by
      refine Nat.lt_of_le_of_ne hpart.length_le fun h => hne ?_
      rw [hpart.eq_of_length h]
    refine ⟨.body (frame.body.length - part.length) part.reverse, ?_, ?_⟩
    · rw [Partial.feed_append, Partial.feed_length hb hpos hl]
      simp only [Partial.feed_body hshort, List.append_nil]
    · exact (cutEnding_eq_earlyEof_iff.mpr (Nat.le_of_not_lt hlt)).symm

/-- A stream that ends within a frame gives the frames before that one. -/
theorem readAll_cut {count : ℕ} {inside : Bytes} {pieces : List Bytes}
    (hr : ∀ frame ∈ frames, frame.Readable) (hw : frames.mapM (wire limit) = .ok wires)
    (hc : CutAt wires pieces.flatten count inside) :
    readAll limit pieces = ((frames.take count).map canonical, cutEnding inside.length) := by
  obtain ⟨heq, w, hw', hp, hne⟩ := hc
  have hwires := forall₂_wire hw
  obtain ⟨frame, hframe⟩ : ∃ frame : Frame, frame.wire limit = .ok w := by
    obtain ⟨h, rfl⟩ := List.getElem?_eq_some_iff.mp hw'
    exact ⟨_, hwires.get (by rwa [hwires.length_eq]) h⟩
  obtain ⟨state, hpart, hfinish⟩ := feed_wirePart hframe hp hne
  have hwhole := feed_wires (fun frame hf => hr frame (List.mem_of_mem_take hf))
    (List.forall₂_take count hwires)
  rw [readAll, Partial.feedAll_eq_feed_flatten, heq, Partial.feed_append, hwhole]
  simp only [hpart, hfinish, List.append_nil]

/-- **Streams of frames are read back.** The bytes of some frames, one behind the other and cut into
any pieces, are read as these frames, and then the stream ends. Of a part of these bytes that is not
all of them, the frames that are complete in it are read. Then the stream ends if the part ends
behind a frame; it is an error of the format if the part ends within the four bytes of a length, and
the early end of a body if it ends behind them. A property is read with its value in canonical form,
which is the form that values are held in. -/
theorem stream_readBack (hw : frames.mapM (wire limit) = .ok wires)
    (hr : ∀ frame ∈ frames, frame.Readable) :
    (∀ pieces : List Bytes, pieces.flatten = wires.flatten →
      readAll limit pieces = (frames.map canonical, .ok ())) ∧
    ∀ pieces : List Bytes, pieces.flatten <+: wires.flatten → pieces.flatten ≠ wires.flatten →
      ∃ count inside, CutAt wires pieces.flatten count inside ∧
        (readAll limit pieces).1 = (frames.take count).map canonical ∧
        ((readAll limit pieces).2 = .ok () ↔ inside = []) ∧
        ((readAll limit pieces).2 = .error (.invalidFormat "truncated frame header") ↔
          0 < inside.length ∧ inside.length < 4) ∧
        ((readAll limit pieces).2 = .error (.io .earlyEof) ↔ 4 ≤ inside.length) := by
  refine ⟨fun pieces hpieces => ?_, fun pieces hp hne => ?_⟩
  · rw [readAll, Partial.feedAll_eq_feed_flatten, hpieces, feed_wires hr (forall₂_wire hw)]
    rfl
  · obtain ⟨count, inside, hc⟩ := exists_cutAt hp hne
    rw [readAll_cut hr hw hc]
    exact ⟨count, inside, hc, rfl, cutEnding_eq_ok_iff.trans List.length_eq_zero_iff,
      cutEnding_eq_invalidFormat_iff, cutEnding_eq_earlyEof_iff⟩

/-- A ping and a property, read whole, and read up to a cut within the length of the property. -/
theorem stream_readBack_pingProperty :
    ∃ wires, [Frame.ping, .property "seen" (.arr [.null, .bool true])].mapM (wire 64) = .ok wires ∧
      (∀ pieces : List Bytes, pieces.flatten = wires.flatten →
        readAll 64 pieces = ([.ping, .property "seen" (.arr [.null, .bool true])], .ok ())) ∧
      ∃ count inside, CutAt wires [wires.flatten.take 22].flatten count inside ∧
        (readAll 64 [wires.flatten.take 22]).1 =
          ([Frame.ping, .property "seen" (.arr [.null, .bool true])].take count).map canonical := by
  have hr : ∀ frame ∈ [Frame.ping, .property "seen" (.arr [.null, .bool true])],
      frame.Readable := by
    simp [Readable, Json.FloatFree, Json.ItemsFloatFree, toJson, Json.canonical,
      Json.canonicalItems, Json.depth, Json.membersDepth, Json.itemsDepth, Json.maxDepth]
  obtain ⟨wires, hw, hlength⟩ : ∃ wires,
      [Frame.ping, .property "seen" (.arr [.null, .bool true])].mapM (wire 64) = .ok wires ∧
        22 < wires.flatten.length := ⟨_, rfl, by decide⟩
  have hread := stream_readBack hw hr
  have hprefix : [wires.flatten.take 22].flatten <+: wires.flatten := by
    rw [List.flatten_singleton]
    exact List.take_prefix 22 _
  have hcut : [wires.flatten.take 22].flatten ≠ wires.flatten := by
    intro h
    have hl := congrArg List.length h
    rw [List.flatten_singleton, List.length_take] at hl
    omega
  obtain ⟨count, inside, hc, hfirst, -⟩ := hread.2 _ hprefix hcut
  exact ⟨wires, hw, hread.1, count, inside, hc, hfirst⟩

end Cut

end CommandLink.Frame
