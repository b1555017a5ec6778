import CommandLink.Proofs.Text.Utf8

/-!
# The order of texts

Texts are ordered by their characters, and so are their bytes: the first character in which two
texts differ is also where their bytes differ first, and there the greater character has the greater
byte (`utf8EncodeChar_append_lt`). So what is sorted by its texts is sorted by their bytes
(`ofString_lt`).
-/

namespace CommandLink.Text.Utf8

theorem ofNat_cons_lt {m n : ℕ} {as bs : Bytes} (hm : m < 256) (hn : n < 256)
    (h : m < n ∨ m = n ∧ as < bs) : UInt8.ofNat m :: as < UInt8.ofNat n :: bs := by
  rw [List.cons_lt_cons_iff]
  refine h.imp (fun hlt => ?_) fun ⟨heq, hlater⟩ => ⟨congrArg _ heq, hlater⟩
  rw [UInt8.lt_iff_toNat_lt, toNat_ofNat_of_lt hm, toNat_ofNat_of_lt hn]
  exact hlt

/-- The bytes of a greater character are greater, whatever follows. If it has more bytes, its first
byte is greater; if it has as many, the first byte that differs is. -/
theorem utf8EncodeChar_append_lt {c d : Char} (h : c.toNat < d.toNat) (xs ys : Bytes) :
    String.utf8EncodeChar c ++ xs < String.utf8EncodeChar d ++ ys := by
  have hd := toNat_lt d
  rcases utf8EncodeChar_cases c with ⟨hc, ec⟩ | ⟨hc, hc', ec⟩ | ⟨hc, hc', ec⟩ | ⟨hc, ec⟩ <;>
    rcases utf8EncodeChar_cases d with ⟨hd', ed⟩ | ⟨hd', hd'', ed⟩ | ⟨hd', hd'', ed⟩ | ⟨hd', ed⟩ <;>
    rw [ec, ed] <;> simp only [List.cons_append, List.nil_append]
  case inr.inl.inr.inl =>
    have hbytes : c.toNat / 64 % 32 + 0xC0 < d.toNat / 64 % 32 + 0xC0 ∨
        c.toNat / 64 % 32 + 0xC0 = d.toNat / 64 % 32 + 0xC0 ∧
          c.toNat % 64 + 0x80 < d.toNat % 64 + 0x80 := by omega
    exact ofNat_cons_lt (by omega) (by omega) (hbytes.imp_right <| And.imp_right fun hlt =>
      ofNat_cons_lt (by omega) (by omega) (.inl hlt))
  case inr.inr.inl.inr.inr.inl =>
    have hbytes : c.toNat / 4096 % 16 + 0xE0 < d.toNat / 4096 % 16 + 0xE0 ∨
        c.toNat / 4096 % 16 + 0xE0 = d.toNat / 4096 % 16 + 0xE0 ∧
          (c.toNat / 64 % 64 + 0x80 < d.toNat / 64 % 64 + 0x80 ∨
            c.toNat / 64 % 64 + 0x80 = d.toNat / 64 % 64 + 0x80 ∧
              c.toNat % 64 + 0x80 < d.toNat % 64 + 0x80) := by omega
    exact ofNat_cons_lt (by omega) (by omega) (hbytes.imp_right <| And.imp_right fun hlater =>
      ofNat_cons_lt (by omega) (by omega) (hlater.imp_right <| And.imp_right fun hlt =>
        ofNat_cons_lt (by omega) (by omega) (.inl hlt)))
  case inr.inr.inr.inr.inr.inr =>
    have hparts (n : ℕ) : n / 64 / 64 = n / 4096 ∧ n / 4096 / 64 = n / 262144 :=
      ⟨Nat.div_div_eq_div_mul n 64 64, Nat.div_div_eq_div_mul n 4096 64⟩
    have hcparts := hparts c.toNat
    have hdparts := hparts d.toNat
    have hbytes : c.toNat / 262144 % 8 + 0xF0 < d.toNat / 262144 % 8 + 0xF0 ∨
        c.toNat / 262144 % 8 + 0xF0 = d.toNat / 262144 % 8 + 0xF0 ∧
          (c.toNat / 4096 % 64 + 0x80 < d.toNat / 4096 % 64 + 0x80 ∨
            c.toNat / 4096 % 64 + 0x80 = d.toNat / 4096 % 64 + 0x80 ∧
              (c.toNat / 64 % 64 + 0x80 < d.toNat / 64 % 64 + 0x80 ∨
                c.toNat / 64 % 64 + 0x80 = d.toNat / 64 % 64 + 0x80 ∧
                  c.toNat % 64 + 0x80 < d.toNat % 64 + 0x80)) := by
      rcases Nat.lt_trichotomy (c.toNat / 262144) (d.toNat / 262144) with hfirst | hfirst | hfirst
      · exact .inl (by omega)
      · refine .inr ⟨by omega, ?_⟩
        rcases Nat.lt_trichotomy (c.toNat / 4096) (d.toNat / 4096) with hnext | hnext | hnext
        · exact .inl (by omega)
        · exact .inr ⟨by omega, by omega⟩
        · omega
      · omega
    exact ofNat_cons_lt (by omega) (by omega) (hbytes.imp_right <| And.imp_right fun hlater =>
      ofNat_cons_lt (by omega) (by omega) (hlater.imp_right <| And.imp_right fun hlater =>
        ofNat_cons_lt (by omega) (by omega) (hlater.imp_right <| And.imp_right fun hlt =>
          ofNat_cons_lt (by omega) (by omega) (.inl hlt))))
  all_goals exact ofNat_cons_lt (by omega) (by omega) (.inl (by omega))

theorem encode_lt {cs ds : List Char} (h : cs < ds) : encode cs < encode ds := by
  induction cs generalizing ds with
  | nil =>
    rcases ds with _ | ⟨d, ds⟩
    · exact absurd h (List.lt_irrefl _)
    · obtain ⟨b, bytes, hb⟩ := List.exists_cons_of_length_pos (utf8EncodeChar_length_pos d)
      rw [encode_cons, hb]
      exact List.nil_lt_cons _ _
  | cons c cs ih =>
    rcases ds with _ | ⟨d, ds⟩
    · exact absurd h (List.not_lt_nil _)
    · rw [encode_cons, encode_cons]
      rcases List.cons_lt_cons_iff.mp h with hlt | ⟨rfl, hlater⟩
      · exact utf8EncodeChar_append_lt hlt _ _
      · exact List.append_left_lt (ih hlater)

/-- **The bytes of a greater text are greater.** -/
theorem ofString_lt {a b : String} (h : a < b) : ofString a < ofString b := encode_lt h

end CommandLink.Text.Utf8
