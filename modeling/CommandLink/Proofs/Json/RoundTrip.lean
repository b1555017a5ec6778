import CommandLink.Proofs.Json.Container

/-!
# Written documents are read back

A document without floats whose containers nest no deeper than the reader allows is read back as it
was written (`value_yields`). The induction is on the depth that is allowed: the items of a
container may nest one less deep.
-/

namespace CommandLink.Json

open Text.Utf8 (encode)

/-! ## Depth and floats -/

mutual

/-- How deep the containers of a document nest. -/
def depth : Json → ℕ
  | .arr items => itemsDepth items + 1
  | .obj members => membersDepth members + 1
  | _ => 0

/-- How deep the containers among some items nest. -/
def itemsDepth : List Json → ℕ
  | [] => 0
  | item :: items => max (depth item) (itemsDepth items)

/-- How deep the containers among the values of some members nest. -/
def membersDepth : List (String × Json) → ℕ
  | [] => 0
  | (_, value) :: members => max (depth value) (membersDepth members)

end

mutual

/-- No number of a document is a float. -/
def FloatFree : Json → Prop
  | .num (.float _) => False
  | .arr items => ItemsFloatFree items
  | .obj members => MembersFloatFree members
  | _ => True

/-- No number among some items is a float. -/
def ItemsFloatFree : List Json → Prop
  | [] => True
  | item :: items => FloatFree item ∧ ItemsFloatFree items

/-- No number among the values of some members is a float. -/
def MembersFloatFree : List (String × Json) → Prop
  | [] => True
  | (_, value) :: members => FloatFree value ∧ MembersFloatFree members

end

theorem itemsDepth_le_iff {items : List Json} {d : ℕ} :
    itemsDepth items ≤ d ↔ ∀ v ∈ items, v.depth ≤ d := by
  induction items with
  | nil => simp [itemsDepth]
  | cons item items ih => rw [itemsDepth, Nat.max_le, ih, List.forall_mem_cons]

theorem membersDepth_le_iff {members : List (String × Json)} {d : ℕ} :
    membersDepth members ≤ d ↔ ∀ m ∈ members, m.2.depth ≤ d := by
  induction members with
  | nil => simp [membersDepth]
  | cons member members ih =>
    obtain ⟨k, v⟩ := member
    rw [membersDepth, Nat.max_le, ih, List.forall_mem_cons]

theorem itemsFloatFree_iff {items : List Json} :
    ItemsFloatFree items ↔ ∀ v ∈ items, v.FloatFree := by
  induction items with
  | nil => simp [ItemsFloatFree]
  | cons item items ih => simp [ItemsFloatFree, ih]

theorem membersFloatFree_iff {members : List (String × Json)} :
    MembersFloatFree members ↔ ∀ m ∈ members, m.2.FloatFree := by
  induction members with
  | nil => simp [MembersFloatFree]
  | cons member members ih => simp [MembersFloatFree, ih]

/-! ## Written forms -/

/-- The written form of a member. -/
def memberBytes (member : String × Json) : Bytes :=
  encode (textChars member.1) ++ 58 :: encode member.2.chars

theorem encode_moreItems (items : List Json) :
    encode (moreItems items) = moreParts 93 (items.map fun v => encode v.chars) := by
  induction items with
  | nil => rfl
  | cons item items ih =>
    rw [moreItems, List.cons_append, Text.Utf8.encode_cons, Text.Utf8.encode_append, ih]
    rfl

theorem encode_moreMembers (members : List (String × Json)) :
    encode (moreMembers members) = moreParts 125 (members.map memberBytes) := by
  induction members with
  | nil => rfl
  | cons member members ih =>
    obtain ⟨k, v⟩ := member
    simp only [moreMembers, List.cons_append, List.append_assoc, Text.Utf8.encode_cons,
      Text.Utf8.encode_append, ih, List.map_cons, moreParts, memberBytes]
    rfl

theorem encode_arr (items : List Json) :
    encode (Json.arr items).chars = 91 :: parts 93 (items.map fun v => encode v.chars) := by
  rcases items with _ | ⟨item, items⟩
  · rfl
  · rw [chars, List.cons_append, Text.Utf8.encode_cons, Text.Utf8.encode_append, encode_moreItems]
    rfl

theorem encode_obj (members : List (String × Json)) :
    encode (Json.obj members).chars = 123 :: parts 125 (members.map memberBytes) := by
  rcases members with _ | ⟨⟨k, v⟩, members⟩
  · rfl
  · simp only [chars, List.cons_append, List.append_assoc, Text.Utf8.encode_cons,
      Text.Utf8.encode_append, encode_moreMembers, List.map_cons, parts, memberBytes]
    rfl

theorem begins_textChars (s : String) (more : Bytes) : Begins (encode (textChars s) ++ more) := by
  rw [encode_textChars]
  exact ⟨34, _, rfl, by decide, by decide, by decide⟩

/-- An integer begins with a minus sign or a digit. -/
theorem encode_int_cons (value : Int) (fits : FitsWord value) :
    ∃ b tail, encode (Number.int value fits).chars = b :: tail ∧
      (b = 45 ∨ isDigitByte b = true) := by
  rw [Number.chars, encode_integerChars]
  split_ifs
  · exact ⟨45, _, rfl, .inl rfl⟩
  · obtain ⟨b, tail, hbytes, -⟩ := naturalBytes_cons value.natAbs
    refine ⟨b, tail, hbytes, .inr (isDigitByte_of_mem_naturalBytes (n := value.natAbs) ?_)⟩
    rw [hbytes]
    exact List.mem_cons_self ..

/-- A byte that is not a minus sign and not a digit does not begin an integer. -/
theorem ne_of_beginsNumber {b x : UInt8} (hb : b = 45 ∨ isDigitByte b = true)
    (hx : x ≠ 45 ∧ isDigitByte x = false) : b ≠ x := by
  rintro rfl
  rcases hb with hb | hb
  · exact hx.1 hb
  · rw [hx.2] at hb
    cases hb

theorem begins_chars {v : Json} (hf : v.FloatFree) : Begins (encode v.chars) := by
  cases v with
  | null => exact ⟨110, _, rfl, by decide, by decide, by decide⟩
  | bool value =>
    cases value
    · exact ⟨102, _, rfl, by decide, by decide, by decide⟩
    · exact ⟨116, _, rfl, by decide, by decide, by decide⟩
  | num number =>
    rcases number with ⟨value, fits⟩ | bits
    · obtain ⟨b, tail, hbytes, hb⟩ := encode_int_cons value fits
      refine ⟨b, tail, hbytes, ?_, ne_of_beginsNumber hb (by decide),
        ne_of_beginsNumber hb (by decide)⟩
      simp only [isBlankByte, Bool.or_eq_false_iff, decide_eq_false_iff_not]
      exact ⟨⟨⟨ne_of_beginsNumber hb (by decide), ne_of_beginsNumber hb (by decide)⟩,
        ne_of_beginsNumber hb (by decide)⟩, ne_of_beginsNumber hb (by decide)⟩
    · exact absurd hf (by simp [FloatFree])
  | str s =>
    have hbegins := begins_textChars s []
    rwa [List.append_nil] at hbegins
  | arr items =>
    rw [encode_arr]
    exact ⟨91, _, rfl, by decide, by decide, by decide⟩
  | obj members =>
    rw [encode_obj]
    exact ⟨123, _, rfl, by decide, by decide, by decide⟩

/-! ## Documents -/

theorem reads_elements {item : Reader Json} {items : List Json}
    (hi : ∀ v ∈ items, Begins (encode v.chars) ∧
      ∀ rest, Stops rest → item.Yields (encode v.chars) v rest) (read : List Json) :
    Reads (fun read => item.map (· :: read)) read (items.map fun v => encode v.chars)
      (items.reverse ++ read) := by
  induction items generalizing read with
  | nil => exact .nil read
  | cons v items ih =>
    obtain ⟨⟨begins, yields⟩, hlater⟩ := List.forall_mem_cons.mp hi
    rw [List.reverse_cons, List.append_assoc]
    exact .cons begins (fun rest hr => (yields rest hr).map (· :: read)) (ih hlater (v :: read))

theorem reads_members {value : Reader Json} {members : List (String × Json)}
    (hi : ∀ m ∈ members, ∀ rest, Stops rest → value.Yields (encode m.2.chars) m.2 rest)
    (read : List (String × Json)) :
    Reads (fun read => (member value).map (· :: read)) read (members.map memberBytes)
      (members.reverse ++ read) := by
  induction members generalizing read with
  | nil => exact .nil read
  | cons m members ih =>
    obtain ⟨yields, hlater⟩ := List.forall_mem_cons.mp hi
    rw [List.reverse_cons, List.append_assoc]
    exact .cons (begins_textChars m.1 _)
      (fun rest hr => (member_yields m.1 (yields rest hr)).map (· :: read)) (ih hlater (m :: read))

/-- A document is read from its first byte on. -/
theorem valueWith_of_valueFrom {inner : Option (Reader Json)} {b : UInt8} {tail rest : Bytes}
    {v : Json} (hb : isBlankByte b = false)
    (h : ∀ hr : (tail ++ rest).length < (b :: tail ++ rest).length,
      ∃ h', valueFrom inner b (tail ++ rest) hr = .ok ⟨v, rest, h'⟩) :
    (valueWith inner).Yields (b :: tail) v rest := by
  obtain ⟨h', hv⟩ := h (Nat.lt_succ_self _)
  refine ⟨h', ?_⟩
  unfold valueWith
  split
  · rename_i heq
    rw [List.cons_append, skip_cons hb] at heq
    cases heq
  · rename_i heq
    rw [List.cons_append, skip_cons hb] at heq
    cases heq
    exact hv

theorem valueWith_array {item : Reader Json} {items : List Json}
    (hi : ∀ v ∈ items, Begins (encode v.chars) ∧
      ∀ rest, Stops rest → item.Yields (encode v.chars) v rest) (rest : Bytes) :
    (valueWith (some item)).Yields (encode (Json.arr items).chars) (.arr items) rest := by
  obtain ⟨h, hread⟩ := ((reads_elements hi []).items_yields (.inl rfl) rest).map List.reverse
  rw [List.append_nil, List.reverse_reverse] at hread
  rw [encode_arr]
  refine valueWith_of_valueFrom (by decide) fun hr => ⟨Nat.lt_trans h hr, ?_⟩
  simp only [valueFrom, elements, hread]
  rfl

theorem valueWith_object {value : Reader Json} {members : List (String × Json)}
    (hi : ∀ m ∈ members, ∀ rest, Stops rest → value.Yields (encode m.2.chars) m.2 rest)
    (rest : Bytes) :
    (valueWith (some value)).Yields (encode (Json.obj members).chars) (.obj members) rest := by
  obtain ⟨h, hread⟩ := ((reads_members hi []).items_yields (.inr rfl) rest).map List.reverse
  rw [List.append_nil, List.reverse_reverse] at hread
  rw [encode_obj]
  refine valueWith_of_valueFrom (by decide) fun hr => ⟨Nat.lt_trans h hr, ?_⟩
  simp only [valueFrom, Json.members, hread]
  rfl

theorem valueWith_number {inner : Option (Reader Json)} (value : Int) (fits : FitsWord value)
    {rest : Bytes} (hr : Stops rest) :
    (valueWith inner).Yields (encode (Json.num (.int value fits)).chars) (.num (.int value fits))
      rest := by
  have hyields := numeral_yields value fits hr
  obtain ⟨b, tail, hbytes, hb⟩ := encode_int_cons value fits
  obtain ⟨b', tail', heq, hblank, -, -⟩ :=
    begins_chars (v := .num (.int value fits)) (by simp [FloatFree])
  rw [chars, hbytes] at heq
  obtain ⟨rfl, rfl⟩ := List.cons.inj heq
  rw [hbytes] at hyields
  rw [chars, hbytes]
  obtain ⟨h, hread⟩ := hyields
  refine valueWith_of_valueFrom hblank fun hr => ⟨h, ?_⟩
  simp only [List.cons_append] at hread
  simp only [valueFrom, if_neg (ne_of_beginsNumber hb (by decide : (110 : UInt8) ≠ 45 ∧ _)),
    if_neg (ne_of_beginsNumber hb (by decide : (116 : UInt8) ≠ 45 ∧ _)),
    if_neg (ne_of_beginsNumber hb (by decide : (102 : UInt8) ≠ 45 ∧ _)),
    if_neg (ne_of_beginsNumber hb (by decide : (34 : UInt8) ≠ 45 ∧ _)), if_pos hb, hread]
  rfl

theorem valueWith_text {inner : Option (Reader Json)} (s : String) (rest : Bytes) :
    (valueWith inner).Yields (encode (Json.str s).chars) (.str s) rest := by
  rw [chars, encode_textChars]
  refine valueWith_of_valueFrom (by decide) fun hr => ?_
  obtain ⟨h', htext⟩ := textOnto_textChars s hr
  refine ⟨h', ?_⟩
  simp only [valueFrom, htext]
  rfl

theorem valueWith_word {inner : Option (Reader Json)} {v : Json}
    (hv : v = .null ∨ ∃ b, v = .bool b) (rest : Bytes) :
    (valueWith inner).Yields (encode v.chars) v rest := by
  rcases hv with rfl | ⟨_ | _, rfl⟩
  · change (valueWith inner).Yields (110 :: [117, 108, 108]) .null rest
    exact valueWith_of_valueFrom (by decide) fun hr =>
      ⟨by simp; omega, by simp [valueFrom, word, Except.map, Taken.map]⟩
  · change (valueWith inner).Yields (102 :: [97, 108, 115, 101]) (.bool false) rest
    exact valueWith_of_valueFrom (by decide) fun hr =>
      ⟨by simp; omega, by simp [valueFrom, word, Except.map, Taken.map]⟩
  · change (valueWith inner).Yields (116 :: [114, 117, 101]) (.bool true) rest
    exact valueWith_of_valueFrom (by decide) fun hr =>
      ⟨by simp; omega, by simp [valueFrom, word, Except.map, Taken.map]⟩

/-- What is no container is read whether or not containers may be opened. -/
theorem valueWith_scalar {inner : Option (Reader Json)} {v : Json} (hf : v.FloatFree)
    (hd : v.depth = 0) {rest : Bytes} (hr : Stops rest) :
    (valueWith inner).Yields (encode v.chars) v rest := by
  cases v with
  | null => exact valueWith_word (.inl rfl) rest
  | bool b => exact valueWith_word (.inr ⟨b, rfl⟩) rest
  | num number =>
    rcases number with ⟨value, fits⟩ | bits
    · exact valueWith_number value fits hr
    · exact absurd hf (by simp [FloatFree])
  | str s => exact valueWith_text s rest
  | arr | obj => exact absurd hd (by simp [depth])

/-- **Written documents are read back.** A document without floats that nests no deeper than the
reader allows is taken from the front of its written form, up to the byte that ends it. -/
theorem value_yields {d : ℕ} {v : Json} (hf : v.FloatFree) (hd : v.depth ≤ d) {rest : Bytes}
    (hr : Stops rest) : (value d).Yields (encode v.chars) v rest := by
  induction d generalizing v rest with
  | zero => exact valueWith_scalar hf (Nat.le_zero.mp hd) hr
  | succ d ih =>
    cases v
    case arr items =>
      rw [FloatFree, itemsFloatFree_iff] at hf
      rw [depth, Nat.add_le_add_iff_right, itemsDepth_le_iff] at hd
      exact valueWith_array (fun v hv =>
        ⟨begins_chars (hf v hv), fun rest hr => ih (hf v hv) (hd v hv) hr⟩) rest
    case obj members =>
      rw [FloatFree, membersFloatFree_iff] at hf
      rw [depth, Nat.add_le_add_iff_right, membersDepth_le_iff] at hd
      exact valueWith_object (fun m hm rest hr => ih (hf m hm) (hd m hm) hr) rest
    all_goals exact valueWith_scalar hf rfl hr

end CommandLink.Json
