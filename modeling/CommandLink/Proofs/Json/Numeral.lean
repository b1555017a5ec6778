import CommandLink.Proofs.Json.Text

/-!
# Written integers are read back

The digits of an integer up to the byte that ends a value yield that integer (`numeral_yields`):
they have no leading zero, the reader takes all of them, and an integer that fits a word is no
float.
-/

namespace CommandLink.Json

open Text.Utf8 (encode)

/-- What stands behind a value within a container: the end of the container, or a comma. -/
def Stops (rest : Bytes) : Prop := ∃ b tail, rest = b :: tail ∧ (b = 44 ∨ b = 93 ∨ b = 125)

/-! ## Digits -/

/-- The digits of a number. -/
def naturalBytes (n : ℕ) : Bytes := encode (Text.naturalChars n)

theorem encode_digitChar {n : ℕ} (h : n < 10) : encode [n.digitChar] = [UInt8.ofNat (48 + n)] := by
  have hall : ∀ n : Fin 10, encode [n.val.digitChar] = [UInt8.ofNat (48 + n.val)] := by decide
  exact hall ⟨n, h⟩

theorem naturalBytes_eq (n : ℕ) : naturalBytes n =
    if n < 10 then [UInt8.ofNat (48 + n)]
    else naturalBytes (n / 10) ++ [UInt8.ofNat (48 + n % 10)] := by
  rw [naturalBytes, Text.naturalChars, Nat.toDigits_eq_if (by omega)]
  split_ifs with h
  · exact encode_digitChar h
  · rw [Text.Utf8.encode_append, encode_digitChar (Nat.mod_lt n (by omega))]
    rfl

theorem digitByte_ofNat {n : ℕ} (h : n < 10) :
    isDigitByte (UInt8.ofNat (48 + n)) = true ∧ digitByte (UInt8.ofNat (48 + n)) = n := by
  have hall : ∀ n : Fin 10, isDigitByte (UInt8.ofNat (48 + n.val)) = true ∧
      digitByte (UInt8.ofNat (48 + n.val)) = n.val := by decide
  exact hall ⟨n, h⟩

theorem isDigitByte_of_mem_naturalBytes {n : ℕ} {b : UInt8} (hb : b ∈ naturalBytes n) :
    isDigitByte b = true := by
  induction n using Nat.strongRecOn with
  | ind n ih =>
    rw [naturalBytes_eq] at hb
    split_ifs at hb with h
    · rw [List.mem_singleton] at hb
      rw [hb]
      exact (digitByte_ofNat h).1
    · rw [List.mem_append, List.mem_singleton] at hb
      rcases hb with hb | rfl
      · exact ih (n / 10) (by omega) hb
      · exact (digitByte_ofNat (Nat.mod_lt n (by omega))).1

/-- The digits of a number write it. -/
theorem foldl_naturalBytes (n : ℕ) :
    ((naturalBytes n).map digitByte).foldl (fun n d => n * 10 + d) 0 = n := by
  induction n using Nat.strongRecOn with
  | ind n ih =>
    rw [naturalBytes_eq]
    split_ifs with h
    · simp only [List.map_cons, List.map_nil, List.foldl_cons, List.foldl_nil,
        (digitByte_ofNat h).2]
      omega
    · rw [List.map_append, List.foldl_append, ih (n / 10) (by omega)]
      simp only [List.map_cons, List.map_nil, List.foldl_cons, List.foldl_nil,
        (digitByte_ofNat (Nat.mod_lt n (show 0 < 10 by omega))).2]
      omega

/-- Only zero begins with a zero. -/
theorem naturalBytes_cons (n : ℕ) :
    ∃ b tail, naturalBytes n = b :: tail ∧ (b = 48 → naturalBytes n = [48] ∧ n = 0) := by
  induction n using Nat.strongRecOn with
  | ind n ih =>
    by_cases h : n < 10
    · refine ⟨UInt8.ofNat (48 + n), [], by rw [naturalBytes_eq, if_pos h], fun hb => ?_⟩
      have hn : n = 0 := by
        have hd := (digitByte_ofNat h).2
        rw [hb] at hd
        exact hd.symm
      subst hn
      exact ⟨rfl, rfl⟩
    · obtain ⟨b, tail, hbytes, hzero⟩ := ih (n / 10) (by omega)
      refine ⟨b, tail ++ [UInt8.ofNat (48 + n % 10)], ?_, fun hb => ?_⟩
      · rw [naturalBytes_eq, if_neg h, hbytes]
        rfl
      · have hn := (hzero hb).2
        omega

/-! ## Numerals -/

theorem Stops.not_isDigitByte {b : UInt8} {tail : Bytes} (h : Stops (b :: tail)) :
    isDigitByte b = false ∧ b ≠ 46 ∧ b ≠ 101 ∧ b ≠ 69 := by
  obtain ⟨b', tail', heq, hb⟩ := h
  obtain ⟨rfl, -⟩ := List.cons.inj heq
  rcases hb with rfl | rfl | rfl
  all_goals decide

theorem digitsFront_append (front : Bytes) {rest : Bytes} (hf : ∀ b ∈ front, isDigitByte b = true)
    (hr : Stops rest) : digitsFront (front ++ rest) = (front.map digitByte, rest) := by
  obtain ⟨b, tail, rfl, -⟩ := id hr
  have hb := hr.not_isDigitByte.1
  rw [digitsFront, List.takeWhile_append_of_pos hf, List.dropWhile_append_of_pos hf]
  simp [hb]

theorem wholePart_naturalBytes (n : ℕ) {rest : Bytes} (hr : Stops rest) :
    wholePart (naturalBytes n ++ rest) = .ok ((naturalBytes n).map digitByte, rest) := by
  obtain ⟨b, tail, hbytes, hzero⟩ := naturalBytes_cons n
  have hb : isDigitByte b = true :=
    isDigitByte_of_mem_naturalBytes (n := n) (by rw [hbytes]; exact List.mem_cons_self ..)
  have hdigits : digits (naturalBytes n ++ rest) = .ok ((naturalBytes n).map digitByte, rest) := by
    have hfront := digitsFront_append (naturalBytes n)
      (fun _ h => isDigitByte_of_mem_naturalBytes h) hr
    rw [hbytes, List.cons_append] at hfront ⊢
    rw [digits, if_pos hb, hfront]
  by_cases h48 : b = 48
  · obtain ⟨hone, -⟩ := hzero h48
    obtain ⟨b', tail', rfl, -⟩ := id hr
    rw [hone]
    simp only [List.cons_append, List.nil_append, wholePart, hr.not_isDigitByte.1]
    rfl
  · rw [hbytes, List.cons_append] at hdigits ⊢
    unfold wholePart
    split
    · rename_i heq
      exact absurd (List.cons.inj heq).1 h48
    · exact hdigits

/-- The digits of a number, after its sign, are read as the integer, if it fits a word. -/
theorem unsignedNumeral_naturalBytes (negative : Bool) (n : ℕ) {rest : Bytes} (hr : Stops rest)
    (value : Int) (hvalue : value = if negative then -(n : Int) else n) (fits : FitsWord value)
    (hzero : ¬ (negative = true ∧ n = 0)) :
    unsignedNumeral negative (naturalBytes n ++ rest) = .ok (.int value fits, rest) := by
  obtain ⟨b, tail, rfl, -⟩ := id hr
  obtain ⟨-, hpoint, hexp, hExp⟩ := hr.not_isDigitByte
  have hfraction : fractionPart (b :: tail) = .ok (none, b :: tail) := by
    unfold fractionPart
    split
    · rename_i heq
      exact absurd (List.cons.inj heq).1 hpoint
    · rfl
  have hexponent : exponentPart (b :: tail) = .ok (none, b :: tail) := by
    simp only [exponentPart, hexp, hExp, or_self, if_false]
  have hparts : Number.ofParts? ⟨negative, (naturalBytes n).map digitByte, none, none⟩ =
      some (.int value fits) := by
    have hcond : FitsWord (if negative = true then -(n : Int) else n) := hvalue ▸ fits
    simp only [Number.ofParts?, foldl_naturalBytes, Option.isNone_none, true_and]
    rw [dif_pos ⟨hcond, hzero⟩]
    subst hvalue
    rfl
  simp only [unsignedNumeral, wholePart_naturalBytes n hr, hfraction, hexponent, hparts, bind,
    Except.bind]

theorem encode_integerChars (value : Int) : encode (Text.integerChars value) =
    if value < 0 then 45 :: naturalBytes value.natAbs else naturalBytes value.natAbs := by
  unfold Text.integerChars
  split_ifs
  · rw [Text.Utf8.encode_cons]
    rfl
  · rfl

theorem magnitude_of_unsignedNumeral {negative : Bool} {input after : Bytes} {n : Number}
    (h : unsignedNumeral negative input = .ok (n, after)) :
    magnitude negative input = .ok ⟨n, after, length_of_unsignedNumeral h⟩ := by
  unfold magnitude
  split
  · rename_i h'
    rw [h] at h'
    cases h'
  · rename_i h'
    rw [h] at h'
    cases h'
    rfl

/-- A written integer is read as itself. -/
theorem numeral_yields (value : Int) (fits : FitsWord value) {rest : Bytes} (hr : Stops rest) :
    Reader.Yields numeral (encode (Number.int value fits).chars) (.int value fits) rest := by
  rw [Number.chars, encode_integerChars]
  by_cases hneg : value < 0
  · rw [if_pos hneg]
    have hvalue : value = if true then -(value.natAbs : Int) else value.natAbs := by
      rw [if_pos rfl]
      omega
    have hread := unsignedNumeral_naturalBytes true value.natAbs hr value hvalue fits (by omega)
    refine ⟨by rw [List.length_append, List.length_cons]; omega, ?_⟩
    simp only [List.cons_append, numeral, if_true, magnitude_of_unsignedNumeral hread]
    rfl
  · rw [if_neg hneg]
    have hvalue : value = if false then -(value.natAbs : Int) else value.natAbs := by
      rw [if_neg Bool.false_ne_true]
      omega
    have hread := unsignedNumeral_naturalBytes false value.natAbs hr value hvalue fits (by simp)
    obtain ⟨b, tail, hbytes, -⟩ := naturalBytes_cons value.natAbs
    have hb : b ≠ 45 := by
      rintro rfl
      have hdigit := isDigitByte_of_mem_naturalBytes (n := value.natAbs) (b := 45)
        (by rw [hbytes]; exact List.mem_cons_self ..)
      exact absurd hdigit (by decide)
    rw [hbytes, List.cons_append] at hread
    rw [hbytes]
    refine ⟨by rw [List.length_append, List.length_cons]; omega, ?_⟩
    simp only [List.cons_append, numeral, if_neg hb, magnitude_of_unsignedNumeral hread]

end CommandLink.Json
