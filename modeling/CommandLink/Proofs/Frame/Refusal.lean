import CommandLink.Config
import CommandLink.Proofs.Frame.Stream
import Mathlib.Data.Nat.Digits.Defs

/-!
# The refusal of an answer can be sent

An answer over the limit is replaced by the error that says so. Its text is short, whatever the
sizes in it, so it is within every limit that may be configured (`wire_refusal`).
-/

namespace CommandLink

open Text (naturalChars)

theorem Text.Utf8.length_encode_le (cs : List Char) : (Utf8.encode cs).length ≤ 4 * cs.length := by
  induction cs with
  | nil => rfl
  | cons c cs ih =>
    have hc : (String.utf8EncodeChar c).length ≤ 4 := by
      rcases utf8EncodeChar_cases c with ⟨-, h⟩ | ⟨-, -, h⟩ | ⟨-, -, h⟩ | ⟨-, h⟩ <;> simp [h]
    rw [Utf8.encode_cons, List.length_append, List.length_cons]
    omega

namespace Json

theorem length_textChar_le (c : Char) : (textChar c).length ≤ 6 := by
  unfold textChar controlDigits
  split_ifs <;> simp

/-- A written text is at most six times as long as the text. -/
theorem length_textChars_le (s : String) : (textChars s).length ≤ 6 * s.length + 2 := by
  have hflat : ∀ cs : List Char, (cs.flatMap textChar).length ≤ 6 * cs.length := by
    intro cs
    induction cs with
    | nil => rfl
    | cons c cs ih =>
      have hc := length_textChar_le c
      rw [List.flatMap_cons, List.length_append, List.length_cons]
      omega
  have hs := hflat s.toList
  rw [textChars, List.cons_append, List.length_cons, List.length_append, List.length_singleton]
  rw [String.length_toList] at hs
  omega

end Json

/-- A machine word has at most twenty digits. -/
theorem length_naturalChars_le {n : ℕ} (h : n ≤ maxWord) : (naturalChars n).length ≤ 20 :=
  Nat.toDigits_length 10 n 20 (by decide) (Nat.lt_of_le_of_lt h (by decide))

theorem length_integerChars_le {n : ℕ} (h : n ≤ maxWord) : (Text.integerChars n).length ≤ 20 := by
  rw [Text.integerChars, if_neg (by omega), Int.natAbs_natCast]
  exact length_naturalChars_le h

theorem length_decimal_le {n : ℕ} (h : n ≤ maxWord) : (Text.decimal n).length ≤ 20 := by
  rw [Text.decimal, String.length_ofList]
  exact length_integerChars_le h

/-- The words around the two sizes are few. -/
theorem length_tooLarge_le {size limit : String} (hs : size.length ≤ 20) (hl : limit.length ≤ 20) :
    ("Frame too large: " ++ size ++ " bytes (max " ++ limit ++ ")").length ≤ 70 := by
  have h₁ : "Frame too large: ".length = 17 := rfl
  have h₂ : " bytes (max ".length = 12 := rfl
  have h₃ : ")".length = 1 := rfl
  rw [String.length_append, String.length_append, String.length_append, String.length_append, h₁, h₂,
    h₃]
  omega

theorem length_message_tooLarge_le {size limit : ℕ} (hs : size ≤ maxWord) (hl : limit ≤ maxWord) :
    (FrameError.tooLarge size limit).message.length ≤ 70 :=
  length_tooLarge_le (length_decimal_le hs) (length_decimal_le hl)

namespace Frame

/-- A frame that cannot be sent is too large. -/
theorem tooLarge_of_wire {frame : Frame} {limit : ℕ} {e : FrameError}
    (h : frame.wire limit = .error e) : e = .tooLarge frame.body.length limit ∧
      ¬ (frame.body.length ≤ limit ∧ frame.body.length < 4294967296) := by
  rw [wire, encode] at h
  by_cases hl : frame.body.length ≤ limit
  · by_cases hb : frame.body.length < 4294967296
    · simp [bind, Except.bind, hl, hb] at h
    · simp [bind, Except.bind, hl, hb] at h
      exact ⟨h.symm, fun hfits => hb hfits.2⟩
  · simp [bind, Except.bind, hl] at h
    exact ⟨h.symm, fun hfits => hl hfits.1⟩

/-- A failure in few words can be sent under every limit that may be configured. -/
theorem wire_failure {limit : ℕ} {message : String} (hfloor : 4096 ≤ limit)
    (hmessage : message.length ≤ 100) (id : CallId) :
    ∃ w, (response id (.error ⟨message⟩)).wire limit = .ok w := by
  have htext := Json.length_textChars_le message
  have hid : (Text.integerChars id.toNat).length ≤ 20 :=
    length_integerChars_le (Nat.le_of_lt_succ id.toNat_lt)
  have hchars : (response id (.error ⟨message⟩)).toJson.chars.length ≤ 1000 := by
    have hname : ∀ name : String, name.length ≤ 8 → (Json.textChars name).length ≤ 50 := by
      intro name hname
      have hchars := Json.length_textChars_le name
      omega
    have hframe := hname "frame" (by decide)
    have hresponse := hname "response" (by decide)
    have hfirst := hname "id" (by decide)
    have hresult := hname "result" (by decide)
    have herror := hname "Err" (by decide)
    have hmember := hname "message" (by decide)
    simp only [toJson, kind, resultToJson, Failure.toJson, Json.chars, Json.moreMembers,
      Json.Number.chars, Json.Number.ofUInt64, List.length_append, List.length_cons, List.length_nil]
    omega
  have hbytes := Text.Utf8.length_encode_le (response id (.error ⟨message⟩)).toJson.chars
  have hbody : (response id (.error ⟨message⟩)).body.length ≤ 4000 := by
    rw [body, Json.bytes]
    omega
  exact ⟨_, wire_eq_ok_iff.mpr ⟨by omega, by omega, rfl⟩⟩

/-- **The refusal of an answer can be sent.** -/
theorem wire_refusal {limit size : ℕ} (hfloor : 4096 ≤ limit) (hlimit : limit ≤ maxWord)
    (hsize : size ≤ maxWord) (id : CallId) :
    ∃ w, (response id (.error ⟨(FrameError.tooLarge size limit).message⟩)).wire limit = .ok w := by
  have hmessage := length_message_tooLarge_le hsize hlimit
  generalize (FrameError.tooLarge size limit).message = message at hmessage ⊢
  exact wire_failure hfloor (by omega) id

theorem wire_of_refused {frame : Frame} {limit : ℕ} {e : FrameError} (hfloor : 4096 ≤ limit)
    (hlimit : limit ≤ maxWord) (hsize : frame.body.length ≤ maxWord)
    (h : frame.wire limit = .error e) (id : CallId) :
    ∃ w, (response id (.error ⟨e.message⟩)).wire limit = .ok w := by
  obtain ⟨rfl, -⟩ := tooLarge_of_wire h
  exact wire_refusal hfloor hlimit hsize id

end Frame

end CommandLink
