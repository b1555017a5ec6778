import CommandLink.Text.Utf8
import Mathlib.Tactic.Common

/-!
# Reading back UTF-8

What is written is what is read: the bytes of a text are read as that text (`toString?_ofString`),
so two texts with the same bytes are the same text (`encode_injective`). On the way it is shown that
a character is found at the front of its own bytes whatever follows them (`take?_append`), and that
a character past the ASCII range has no byte of the ASCII range (`ascii_of_mem`).
-/

namespace CommandLink.Text.Utf8

/-! ## One character -/

theorem toNat_lt (c : Char) : c.toNat < 0x110000 := by
  have h : c.toNat.isValidChar := c.valid
  rcases h with h | h <;> omega

/-- The bytes of a character by the size of its scalar value. -/
theorem utf8EncodeChar_cases (c : Char) :
    (c.toNat < 0x80 ∧ String.utf8EncodeChar c = [UInt8.ofNat c.toNat]) ∨
    (0x80 ≤ c.toNat ∧ c.toNat < 0x800 ∧ String.utf8EncodeChar c =
      [UInt8.ofNat (c.toNat / 64 % 32 + 0xC0), UInt8.ofNat (c.toNat % 64 + 0x80)]) ∨
    (0x800 ≤ c.toNat ∧ c.toNat < 0x10000 ∧ String.utf8EncodeChar c =
      [UInt8.ofNat (c.toNat / 4096 % 16 + 0xE0), UInt8.ofNat (c.toNat / 64 % 64 + 0x80),
        UInt8.ofNat (c.toNat % 64 + 0x80)]) ∨
    (0x10000 ≤ c.toNat ∧ String.utf8EncodeChar c =
      [UInt8.ofNat (c.toNat / 262144 % 8 + 0xF0), UInt8.ofNat (c.toNat / 4096 % 64 + 0x80),
        UInt8.ofNat (c.toNat / 64 % 64 + 0x80), UInt8.ofNat (c.toNat % 64 + 0x80)]) := by
  have hv : c.val.toNat = c.toNat := rfl
  unfold String.utf8EncodeChar
  simp only [hv]
  by_cases h₁ : c.toNat ≤ 0x7f
  · exact .inl ⟨by omega, by simp [h₁]⟩
  by_cases h₂ : c.toNat ≤ 0x7ff
  · exact .inr (.inl ⟨by omega, by omega, by simp [h₁, h₂]⟩)
  by_cases h₃ : c.toNat ≤ 0xffff
  · exact .inr (.inr (.inl ⟨by omega, by omega, by simp [h₁, h₂, h₃]⟩))
  · exact .inr (.inr (.inr ⟨by omega, by simp [h₁, h₂, h₃]⟩))

/-! The candidate at the front of bytes depends on the first byte and on as many more as it
announces. -/

theorem candidate_one {a : UInt8} (h : a.toNat < 0x80) (rest : Bytes) :
    candidate (a :: rest) = a.toNat := by
  rcases rest with _ | ⟨x, _ | ⟨y, _ | ⟨z, rest⟩⟩⟩ <;> simp [candidate, h]

theorem candidate_two {a : UInt8} (h : 0x80 ≤ a.toNat) (h' : a.toNat < 0xE0) (b : UInt8)
    (rest : Bytes) : candidate (a :: b :: rest) = a.toNat % 32 * 64 + payload b := by
  have hn : ¬ a.toNat < 0x80 := by omega
  rcases rest with _ | ⟨x, _ | ⟨y, rest⟩⟩ <;> simp [candidate, hn, h']

theorem candidate_three {a : UInt8} (h : 0xE0 ≤ a.toNat) (h' : a.toNat < 0xF0) (b c : UInt8)
    (rest : Bytes) :
    candidate (a :: b :: c :: rest) = a.toNat % 16 * 4096 + payload b * 64 + payload c := by
  have hn : ¬ a.toNat < 0x80 := by omega
  have hn' : ¬ a.toNat < 0xE0 := by omega
  rcases rest with _ | ⟨x, rest⟩ <;> simp [candidate, hn, hn', h']

theorem candidate_four {a : UInt8} (h : 0xF0 ≤ a.toNat) (b c d : UInt8) (rest : Bytes) :
    candidate (a :: b :: c :: d :: rest) =
      a.toNat % 8 * 262144 + payload b * 4096 + payload c * 64 + payload d := by
  have hn : ¬ a.toNat < 0x80 := by omega
  have hn' : ¬ a.toNat < 0xE0 := by omega
  have hn'' : ¬ a.toNat < 0xF0 := by omega
  simp [candidate, hn, hn', hn'']

theorem toNat_ofNat_of_lt {n : ℕ} (h : n < 256) : (UInt8.ofNat n).toNat = n := by
  rw [UInt8.toNat_ofNat', Nat.mod_eq_of_lt h]

theorem payload_ofNat (n : ℕ) : payload (UInt8.ofNat (n % 64 + 0x80)) = n % 64 := by
  rw [payload, toNat_ofNat_of_lt (by omega)]
  omega

theorem candidate_append (c : Char) (rest : Bytes) :
    candidate (String.utf8EncodeChar c ++ rest) = c.toNat := by
  have hc := toNat_lt c
  rcases utf8EncodeChar_cases c with ⟨h, e⟩ | ⟨h, h', e⟩ | ⟨h, h', e⟩ | ⟨h, e⟩ <;>
    rw [e] <;> simp only [List.cons_append, List.nil_append]
  · have ha : (UInt8.ofNat c.toNat).toNat = c.toNat := toNat_ofNat_of_lt (by omega)
    rw [candidate_one (by omega), ha]
  · have ha : (UInt8.ofNat (c.toNat / 64 % 32 + 0xC0)).toNat = c.toNat / 64 % 32 + 0xC0 :=
      toNat_ofNat_of_lt (by omega)
    rw [candidate_two (by omega) (by omega), ha, payload_ofNat]
    omega
  · have ha : (UInt8.ofNat (c.toNat / 4096 % 16 + 0xE0)).toNat = c.toNat / 4096 % 16 + 0xE0 :=
      toNat_ofNat_of_lt (by omega)
    rw [candidate_three (by omega) (by omega), ha, payload_ofNat, payload_ofNat]
    omega
  · have ha : (UInt8.ofNat (c.toNat / 262144 % 8 + 0xF0)).toNat = c.toNat / 262144 % 8 + 0xF0 :=
      toNat_ofNat_of_lt (by omega)
    rw [candidate_four (by omega), ha, payload_ofNat, payload_ofNat, payload_ofNat]
    omega

/-- A character is found at the front of its bytes. -/
theorem take?_append (c : Char) (rest : Bytes) :
    take? (String.utf8EncodeChar c ++ rest) = some (c, rest) := by
  have h : dropPrefix? (String.utf8EncodeChar c) (String.utf8EncodeChar c ++ rest) = some rest :=
    dropPrefix?_eq_some_iff.2 rfl
  simp only [take?, candidate_append, Char.ofNat_toNat, h, Option.map_some]

/-- A byte of the ASCII range stands for itself only. -/
theorem ascii_of_mem {c : Char} {b : UInt8} (hb : b ∈ String.utf8EncodeChar c)
    (h : b.toNat < 0x80) : c.toNat = b.toNat := by
  rcases utf8EncodeChar_cases c with ⟨hc, e⟩ | ⟨-, -, e⟩ | ⟨-, -, e⟩ | ⟨-, e⟩
  · rw [e, List.mem_singleton] at hb
    rw [hb, toNat_ofNat_of_lt (by omega)]
  all_goals
    rw [e] at hb
    simp only [List.mem_cons, List.not_mem_nil, or_false] at hb
    rcases hb with rfl | rfl | rfl | rfl <;> rw [toNat_ofNat_of_lt (by omega)] at h <;> omega

theorem utf8EncodeChar_ascii {c : Char} (h : c.toNat < 0x80) :
    String.utf8EncodeChar c = [UInt8.ofNat c.toNat] := by
  rcases utf8EncodeChar_cases c with ⟨-, e⟩ | ⟨h', -, -⟩ | ⟨h', -, -⟩ | ⟨h', -⟩
  · exact e
  all_goals omega

/-! ## Texts -/

theorem decodeOnto_encode (read cs : List Char) :
    decodeOnto read (encode cs) = some (read.reverse ++ cs) := by
  induction cs generalizing read with
  | nil => simp [decodeOnto]
  | cons c cs ih =>
    rw [encode_cons]
    have ht := take?_append c (encode cs)
    obtain ⟨b, bytes, hb⟩ := List.exists_cons_of_length_pos (utf8EncodeChar_length_pos c)
    rw [hb, List.cons_append] at ht ⊢
    unfold decodeOnto
    split
    · rename_i h
      rw [ht] at h
      cases h
    · rename_i c' rest h
      rw [ht] at h
      cases h
      rw [ih]
      simp

/-- The bytes of characters are read as those characters. -/
theorem decode?_encode (cs : List Char) : decode? (encode cs) = some cs := by
  rw [decode?, decodeOnto_encode, List.reverse_nil, List.nil_append]

theorem encode_injective : Function.Injective encode := fun cs ds h => by
  have := decode?_encode cs
  rw [h, decode?_encode, Option.some.injEq] at this
  exact this.symm

/-- The bytes of a text are read as that text. -/
theorem toString?_ofString (s : String) : toString? (ofString s) = some s := by
  simp [toString?, ofString, decode?_encode]

theorem toString?_encode (cs : List Char) : toString? (encode cs) = some (String.ofList cs) := by
  rw [toString?, decode?_encode, Option.map_some]

end CommandLink.Text.Utf8
