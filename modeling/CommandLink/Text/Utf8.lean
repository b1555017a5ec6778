import CommandLink.Bytes

/-!
# UTF-8

The bytes of a text and the text of bytes. A character is taken from the front of bytes by
reading off the one scalar value that could stand there and comparing its encoding with what does
stand there (`take?`); so a reading is right by construction (`eq_of_take?`), and only shortest
forms of scalar values are read.
-/

namespace CommandLink.Text.Utf8

/-- The bytes of a list of characters. -/
def encode (cs : List Char) : Bytes := cs.flatMap String.utf8EncodeChar

@[simp]
theorem encode_nil : encode [] = [] := rfl

@[simp]
theorem encode_cons (c : Char) (cs : List Char) :
    encode (c :: cs) = String.utf8EncodeChar c ++ encode cs := by
  simp [encode]

@[simp]
theorem encode_append (cs ds : List Char) : encode (cs ++ ds) = encode cs ++ encode ds := by
  simp [encode]

/-- The bytes of a text. -/
def ofString (s : String) : Bytes := encode s.toList

/-- The six payload bits of a continuation byte. -/
def payload (b : UInt8) : Nat := b.toNat % 64

/-- The only scalar value whose encoding can stand at the front of the bytes. -/
def candidate : Bytes → Nat
  | a :: b :: c :: d :: _ =>
    let n := a.toNat
    if n < 0x80 then n
    else if n < 0xE0 then n % 32 * 64 + payload b
    else if n < 0xF0 then n % 16 * 4096 + payload b * 64 + payload c
    else n % 8 * 262144 + payload b * 4096 + payload c * 64 + payload d
  | a :: b :: c :: _ =>
    let n := a.toNat
    if n < 0x80 then n
    else if n < 0xE0 then n % 32 * 64 + payload b
    else n % 16 * 4096 + payload b * 64 + payload c
  | a :: b :: _ =>
    let n := a.toNat
    if n < 0x80 then n else n % 32 * 64 + payload b
  | a :: _ => a.toNat
  | [] => 0

/-- What remains of the bytes after the given beginning. -/
def dropPrefix? : (start bytes : Bytes) → Option Bytes
  | [], bytes => some bytes
  | _ :: _, [] => none
  | a :: start, b :: bytes => if a = b then dropPrefix? start bytes else none

theorem dropPrefix?_eq_some_iff {start bytes rest : Bytes} :
    dropPrefix? start bytes = some rest ↔ bytes = start ++ rest := by
  fun_induction dropPrefix? start bytes with
  | case1 => simp
  | case2 => simp
  | case3 start b bytes ih => simp [ih]
  | case4 a start b bytes h => simp [Ne.symm h]

/-- The character at the front of the bytes and the bytes after it. -/
def take? (bytes : Bytes) : Option (Char × Bytes) :=
  let c := Char.ofNat (candidate bytes)
  (dropPrefix? (String.utf8EncodeChar c) bytes).map fun rest => (c, rest)

theorem eq_of_take? {bytes rest : Bytes} {c : Char} (h : take? bytes = some (c, rest)) :
    bytes = String.utf8EncodeChar c ++ rest := by
  simp only [take?, Option.map_eq_some_iff, Prod.mk.injEq] at h
  obtain ⟨r, hr, rfl, rfl⟩ := h
  exact dropPrefix?_eq_some_iff.1 hr

theorem utf8EncodeChar_length_pos (c : Char) : 0 < (String.utf8EncodeChar c).length := by
  rw [String.length_utf8EncodeChar]
  exact Char.utf8Size_pos c

theorem length_lt_of_take? {bytes rest : Bytes} {c : Char} (h : take? bytes = some (c, rest)) :
    rest.length < bytes.length := by
  have := utf8EncodeChar_length_pos c
  rw [eq_of_take? h, List.length_append]
  omega

/-- Reads characters until the bytes end; `read` holds those read so far, last first. -/
def decodeOnto (read : List Char) (bytes : Bytes) : Option (List Char) :=
  match bytes with
  | [] => some read.reverse
  | b :: bytes =>
    match h : take? (b :: bytes) with
    | none => none
    | some (c, rest) =>
      have : rest.length < (b :: bytes).length := length_lt_of_take? h
      decodeOnto (c :: read) rest
termination_by bytes.length
decreasing_by assumption

/-- The characters that the bytes encode, if they encode a text. -/
def decode? (bytes : Bytes) : Option (List Char) := decodeOnto [] bytes

theorem eq_of_decodeOnto {read cs : List Char} {bytes : Bytes}
    (h : decodeOnto read bytes = some cs) : encode read.reverse ++ bytes = encode cs := by
  fun_induction decodeOnto read bytes with
  | case1 read => simp at h; simp [← h]
  | case2 => simp at h
  | case3 read b bytes c rest hc _ ih =>
    rw [← ih h, eq_of_take? hc]
    simp

/-- What is read is what was written. -/
theorem eq_encode_of_decode? {bytes : Bytes} {cs : List Char} (h : decode? bytes = some cs) :
    bytes = encode cs := by
  have := eq_of_decodeOnto h
  simpa using this

/-- The text that the bytes encode, if they encode one. -/
def toString? (bytes : Bytes) : Option String := (decode? bytes).map String.ofList

theorem ofString_of_toString? {bytes : Bytes} {s : String} (h : toString? bytes = some s) :
    ofString s = bytes := by
  simp only [toString?, Option.map_eq_some_iff] at h
  obtain ⟨cs, hcs, rfl⟩ := h
  rw [ofString, String.toList_ofList, eq_encode_of_decode? hcs]

end CommandLink.Text.Utf8
