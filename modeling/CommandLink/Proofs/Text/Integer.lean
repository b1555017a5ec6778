import CommandLink.Text.Integer
import Mathlib.Data.Nat.Digits.Defs

/-!
# Integers read back

The decimal text of an integer is read as that integer (`integer?_integerChars`), also where it has
to fit a machine word (`int64?_decimal`).
-/

namespace CommandLink.Text

theorem isDigit_of_isDigit {c : Char} (h : c.isDigit = true) : isDigit c = true := by
  simp only [Char.isDigit, Bool.and_eq_true, decide_eq_true_eq, ge_iff_le, UInt32.le_iff_toNat_le]
    at h
  simpa [isDigit] using h

theorem isDigit_of_mem_naturalChars {n : ℕ} {c : Char} (h : c ∈ naturalChars n) :
    isDigit c = true :=
  isDigit_of_isDigit (Nat.isDigit_of_mem_toDigits (by omega) (by omega) h)

theorem digitsValue_naturalChars (n : ℕ) : digitsValue (naturalChars n) = n := by
  have hvalue : digitsValue (naturalChars n) = Nat.ofDigitChars 10 (naturalChars n) 0 := by
    simp only [digitsValue, digitValue, Nat.ofDigitChars, Nat.mul_comm]
    rfl
  rw [hvalue, naturalChars, Nat.ofDigitChars_toDigits (by omega) (by omega)]

/-- The digits of a number are read as the number. -/
theorem digits?_naturalChars (n : ℕ) : digits? (naturalChars n) = some n := by
  have hall : (naturalChars n).all isDigit = true :=
    List.all_eq_true.mpr fun _ hc => isDigit_of_mem_naturalChars hc
  rw [digits?, if_pos ⟨Nat.toDigits_ne_nil, hall⟩, digitsValue_naturalChars]

/-- **An integer is read back from its text.** -/
theorem integer?_integerChars (n : ℤ) : integer? (integerChars n) = some n := by
  by_cases hn : n < 0
  · have habs : -(n.natAbs : ℤ) = n := by omega
    rw [integerChars, if_pos hn, integer?, digits?_naturalChars]
    exact congrArg some habs
  · rw [integerChars, if_neg hn]
    have hsign : ∀ c cs, naturalChars n.natAbs = c :: cs → c ≠ '-' ∧ c ≠ '+' := by
      intro c cs hc
      have hdigit : isDigit c = true :=
        isDigit_of_mem_naturalChars (n := n.natAbs) (hc ▸ List.mem_cons_self)
      constructor
      · rintro rfl
        exact absurd hdigit (by decide)
      · rintro rfl
        exact absurd hdigit (by decide)
    unfold integer?
    split
    · rename_i heq
      exact absurd rfl (hsign _ _ heq).1
    · rename_i heq
      exact absurd rfl (hsign _ _ heq).2
    · have habs : (n.natAbs : ℤ) = n := by omega
      rw [digits?_naturalChars]
      exact congrArg some habs

theorem int64?_decimal {n : ℤ} (hlow : -9223372036854775808 ≤ n) (hhigh : n ≤ 9223372036854775807) :
    int64? (decimal n) = some n := by
  rw [int64?, integerIn?, decimal, String.toList_ofList, integer?_integerChars]
  simp [Option.filter, hlow, hhigh]

end CommandLink.Text
