import CommandLink.Json.Printer
import CommandLink.Json.Reader
import CommandLink.Proofs.Text.Utf8

/-!
# Written texts are read back

A reader `Yields` a value from the front of an input, whatever stands behind. The bytes of a text
between quotes yield that text (`textOnto_textChars`): an escape is read as the character it stands
for, and every other character is passed on byte by byte, none of its bytes being a quote, a
backslash or a control.
-/

namespace CommandLink.Json

open Text.Utf8 (encode)

/-- A reader takes a value from the front of an input and leaves the rest. -/
def Reader.Yields {α : Type} (reader : Reader α) (front : Bytes) (value : α) (rest : Bytes) : Prop :=
  ∃ h, reader (front ++ rest) = .ok ⟨value, rest, h⟩

theorem Reader.Yields.of_eq {α : Type} {reader : Reader α} {front input rest : Bytes} {value : α}
    (h : reader.Yields front value rest) (hi : input = front ++ rest) :
    ∃ h', reader input = .ok ⟨value, rest, h'⟩ := by
  subst hi
  exact h

theorem Reader.Yields.map {α β : Type} {reader : Reader α} {front rest : Bytes} {value : α}
    (f : α → β) (h : reader.Yields front value rest) :
    (reader.map f).Yields front (f value) rest := by
  obtain ⟨hs, hr⟩ := h
  exact ⟨hs, by rw [Reader.map, hr]; rfl⟩

/-! ## Characters of a text -/

section Characters

variable {whole : Bytes} {read input : Bytes}

theorem textOnto_quote {s : String} {rest : Bytes} (hs : Text.Utf8.toString? read.reverse = some s)
    (h : (34 :: rest).length < whole.length) :
    textOnto read (34 :: rest) h = .ok ⟨s, rest, Nat.lt_of_succ_lt h⟩ := by
  rw [textOnto]
  simp [hs]

theorem textOnto_escape {rest : Bytes} {t : Taken Char rest} (he : escape rest = .ok t)
    (h : (92 :: rest).length < whole.length) :
    textOnto read (92 :: rest) h =
      textOnto ((String.utf8EncodeChar t.value).reverse ++ read) t.rest
        (Nat.lt_trans t.shorter (Nat.lt_of_succ_lt h)) := by
  rw [textOnto]
  simp [he]

theorem textOnto_plain {b : UInt8} {rest : Bytes} (hq : b ≠ 34) (hb : b ≠ 92) (hc : ¬ b < 32)
    (h : (b :: rest).length < whole.length) :
    textOnto read (b :: rest) h = textOnto (b :: read) rest (Nat.lt_of_succ_lt h) := by
  rw [textOnto]
  simp [hq, hb, hc]

/-- Bytes that are no quote, no backslash and no control are passed on. -/
theorem textOnto_plain_append {front : Bytes}
    (hf : ∀ b ∈ front, b ≠ 34 ∧ b ≠ 92 ∧ ¬ b < 32)
    (h : (front ++ input).length < whole.length) (h' : input.length < whole.length) :
    textOnto read (front ++ input) h = textOnto (front.reverse ++ read) input h' := by
  induction front generalizing read with
  | nil => rfl
  | cons b front ih =>
    obtain ⟨hq, hb, hc⟩ := hf b (List.mem_cons_self ..)
    rw [List.reverse_cons, List.append_assoc]
    exact (textOnto_plain hq hb hc h).trans
      (ih (fun b' hb' => hf b' (List.mem_cons_of_mem b hb')) (Nat.lt_of_succ_lt h))

theorem ascii_hexDigit {n : ℕ} (h : n < 16) : (Bytes.hexDigit n).toNat < 0x80 := by
  have hall : ∀ n : Fin 16, (Bytes.hexDigit n.val).toNat < 0x80 := by decide
  exact hall ⟨n, h⟩

theorem hexByte?_hexDigit {n : ℕ} (h : n < 16) :
    hexByte? (UInt8.ofNat (Bytes.hexDigit n).toNat) = some n := by
  have hascii := ascii_hexDigit h
  rw [hexByte?, Text.Utf8.toNat_ofNat_of_lt (by omega), Char.ofNat_toNat]
  exact Bytes.hexValue?_hexDigit h

theorem encode_controlDigits (n : ℕ) :
    encode (controlDigits n) =
      [UInt8.ofNat (Bytes.hexDigit (n / 16 % 16)).toNat, UInt8.ofNat (Bytes.hexDigit (n % 16)).toNat] := by
  rw [controlDigits, Text.Utf8.encode_cons, Text.Utf8.encode_cons, Text.Utf8.encode_nil,
    Text.Utf8.utf8EncodeChar_ascii (ascii_hexDigit (by omega)),
    Text.Utf8.utf8EncodeChar_ascii (ascii_hexDigit (by omega))]
  rfl

/-- A code unit that is no surrogate stands for a character by itself. -/
theorem unicodeEscape_of_codeUnit {digits : Bytes} {t : Taken ℕ digits}
    (hu : codeUnit digits = .ok t) (h : t.value < 0xD800) :
    unicodeEscape digits = .ok (t.map Char.ofNat) := by
  have hlow : ¬ (0xDC00 ≤ t.value ∧ t.value ≤ 0xDFFF) := by omega
  have hhigh : ¬ (0xD800 ≤ t.value ∧ t.value ≤ 0xDBFF) := by omega
  rw [unicodeEscape, hu]
  exact (if_neg hlow).trans (if_neg hhigh)

/-- The four digits of a control character are read as it. -/
theorem escape_controlDigits {n : ℕ} (h : n < 32) (rest : Bytes) :
    escape.Yields (117 :: 48 :: 48 :: encode (controlDigits n)) (Char.ofNat n) rest := by
  have hzero : hexByte? 48 = some 0 := by decide
  have hvalue : ((0 * 16 + 0) * 16 + n / 16 % 16) * 16 + n % 16 = n := by omega
  rw [encode_controlDigits]
  have hunit : codeUnit (48 :: 48 :: UInt8.ofNat (Bytes.hexDigit (n / 16 % 16)).toNat ::
      UInt8.ofNat (Bytes.hexDigit (n % 16)).toNat :: rest) =
      .ok ⟨n, rest, by simp only [List.length_cons]; omega⟩ := by
    simp only [codeUnit, hzero, hexByte?_hexDigit (show n / 16 % 16 < 16 by omega),
      hexByte?_hexDigit (show n % 16 < 16 by omega), hvalue]
  have hcharacter := unicodeEscape_of_codeUnit hunit (show n < 0xD800 by omega)
  have hescape : ∀ digits : Bytes, escape (117 :: digits) =
      (unicodeEscape digits).map (·.weaken (Nat.le_succ _)) := fun _ => rfl
  have hread := hescape (48 :: 48 :: UInt8.ofNat (Bytes.hexDigit (n / 16 % 16)).toNat ::
    UInt8.ofNat (Bytes.hexDigit (n % 16)).toNat :: rest)
  rw [hcharacter] at hread
  exact ⟨by simp; omega, hread⟩

/-- A character is written as an escape that is read as it, or it stands for itself. -/
theorem textChar_cases (c : Char) :
    (∃ bytes, encode (textChar c) = 92 :: bytes ∧ ∀ rest, escape.Yields bytes c rest) ∨
      textChar c = [c] ∧ c ≠ '"' ∧ c ≠ '\\' ∧ ¬ c.toNat < 32 := by
  have hcode : ∀ {n : ℕ}, c.toNat = n → c = Char.ofNat n := by
    rintro n rfl
    exact (Char.ofNat_toNat c).symm
  by_cases hquote : c = '"'
  · subst hquote
    exact .inl ⟨[34], rfl, fun rest => ⟨Nat.lt_succ_self _, rfl⟩⟩
  by_cases hback : c = '\\'
  · subst hback
    exact .inl ⟨[92], rfl, fun rest => ⟨Nat.lt_succ_self _, rfl⟩⟩
  by_cases hline : c = '\n'
  · subst hline
    exact .inl ⟨[110], rfl, fun rest => ⟨Nat.lt_succ_self _, rfl⟩⟩
  by_cases hreturn : c = '\r'
  · subst hreturn
    exact .inl ⟨[114], rfl, fun rest => ⟨Nat.lt_succ_self _, rfl⟩⟩
  by_cases htab : c = '\t'
  · subst htab
    exact .inl ⟨[116], rfl, fun rest => ⟨Nat.lt_succ_self _, rfl⟩⟩
  by_cases hbell : c.toNat = 8
  · obtain rfl := hcode hbell
    exact .inl ⟨[98], rfl, fun rest => ⟨Nat.lt_succ_self _, rfl⟩⟩
  by_cases hform : c.toNat = 12
  · obtain rfl := hcode hform
    exact .inl ⟨[102], rfl, fun rest => ⟨Nat.lt_succ_self _, rfl⟩⟩
  rw [textChar, if_neg hquote, if_neg hback, if_neg hline, if_neg hreturn, if_neg htab, if_neg hbell,
    if_neg hform]
  by_cases hcontrol : c.toNat < 32
  · rw [if_pos hcontrol]
    refine .inl ⟨_, Text.Utf8.encode_append ['\\', 'u', '0', '0'] _, fun rest => ?_⟩
    have hy := escape_controlDigits hcontrol rest
    rwa [Char.ofNat_toNat] at hy
  · rw [if_neg hcontrol]
    exact .inr ⟨rfl, hquote, hback, hcontrol⟩

/-- The bytes of a character that stands for itself are no quote, no backslash and no control. -/
theorem plain_of_mem {c : Char} (hquote : c ≠ '"') (hback : c ≠ '\\') (hcontrol : ¬ c.toNat < 32)
    {b : UInt8} (hb : b ∈ String.utf8EncodeChar c) : b ≠ 34 ∧ b ≠ 92 ∧ ¬ b < 32 := by
  have hcode : b.toNat < 0x80 → c = Char.ofNat b.toNat := fun hlt => by
    rw [← Text.Utf8.ascii_of_mem hb hlt, Char.ofNat_toNat]
  refine ⟨?_, ?_, ?_⟩
  · rintro rfl
    exact hquote (hcode (by decide))
  · rintro rfl
    exact hback (hcode (by decide))
  · intro hlt
    have hnat : b.toNat < 32 := UInt8.lt_iff_toNat_lt.mp hlt
    rw [Text.Utf8.ascii_of_mem hb (by omega)] at hcontrol
    exact hcontrol hnat

/-- A written character is read as itself. -/
theorem textOnto_textChar (c : Char) (h : (encode (textChar c) ++ input).length < whole.length)
    (h' : input.length < whole.length) :
    textOnto read (encode (textChar c) ++ input) h =
      textOnto ((String.utf8EncodeChar c).reverse ++ read) input h' := by
  rcases textChar_cases c with ⟨bytes, hbytes, hyields⟩ | ⟨hself, hquote, hback, hcontrol⟩
  · obtain ⟨hs, hread⟩ := hyields input
    simp only [hbytes, List.cons_append]
    exact textOnto_escape hread _
  · have hone : encode [c] = String.utf8EncodeChar c := by simp
    simp only [hself, hone]
    exact textOnto_plain_append (fun b hb => plain_of_mem hquote hback hcontrol hb) _ h'

/-- Written characters are read as themselves, up to the closing quote. -/
theorem textOnto_flatMap_textChar (cs : List Char) (rest : Bytes) {done : List Char}
    (hread : read.reverse = encode done)
    (h : (encode (cs.flatMap textChar) ++ 34 :: rest).length < whole.length) :
    ∃ h', textOnto read (encode (cs.flatMap textChar) ++ 34 :: rest) h =
      .ok ⟨String.ofList (done ++ cs), rest, h'⟩ := by
  induction cs generalizing read done with
  | nil =>
    have hs : Text.Utf8.toString? read.reverse = some (String.ofList done) := by
      rw [hread, Text.Utf8.toString?_encode]
    rw [List.append_nil]
    exact ⟨Nat.lt_of_succ_lt h, textOnto_quote hs h⟩
  | cons c cs ih =>
    have hsplit : encode ((c :: cs).flatMap textChar) ++ 34 :: rest =
        encode (textChar c) ++ (encode (cs.flatMap textChar) ++ 34 :: rest) := by
      rw [List.flatMap_cons, Text.Utf8.encode_append, List.append_assoc]
    have hread' : ((String.utf8EncodeChar c).reverse ++ read).reverse = encode (done ++ [c]) := by
      rw [List.reverse_append, hread, List.reverse_reverse, Text.Utf8.encode_append]
      simp
    simp only [hsplit] at h ⊢
    have h' : (encode (cs.flatMap textChar) ++ 34 :: rest).length < whole.length := by
      rw [List.length_append] at h
      omega
    obtain ⟨h'', htext⟩ := ih hread' h'
    rw [List.append_assoc, List.singleton_append] at htext
    exact ⟨h'', (textOnto_textChar c h h').trans htext⟩

end Characters

/-! ## Texts -/

/-- The bytes of a text between quotes, without the first quote, are read as that text. -/
theorem textOnto_textChars (s : String) {whole rest : Bytes}
    (h : (encode (s.toList.flatMap textChar ++ ['"']) ++ rest).length < whole.length) :
    ∃ h', textOnto [] (encode (s.toList.flatMap textChar ++ ['"']) ++ rest) h =
      .ok ⟨s, rest, h'⟩ := by
  have hsplit : encode (s.toList.flatMap textChar ++ ['"']) ++ rest =
      encode (s.toList.flatMap textChar) ++ 34 :: rest := by
    rw [Text.Utf8.encode_append, List.append_assoc]
    rfl
  simp only [hsplit] at h ⊢
  have hnil : ([] : Bytes).reverse = encode [] := rfl
  obtain ⟨h', htext⟩ := textOnto_flatMap_textChar s.toList rest hnil h
  rw [List.nil_append, String.ofList_toList] at htext
  exact ⟨h', htext⟩

theorem encode_textChars (s : String) :
    encode (textChars s) = 34 :: encode (s.toList.flatMap textChar ++ ['"']) := by
  rw [textChars, List.cons_append, Text.Utf8.encode_cons]
  rfl

end CommandLink.Json
