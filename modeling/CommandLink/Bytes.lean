/-!
# Bytes

Strings of bytes as they travel on a stream, the four-byte lengths that announce a body
(`bigEndian`, most significant byte first), a comparison that looks at every byte (`agree`) and the
hexadecimal form of bytes.
-/

namespace CommandLink

/-- A string of bytes. -/
abbrev Bytes := List UInt8

namespace Bytes

/-- The number written by bytes, most significant first. -/
def toNat (bytes : Bytes) : Nat :=
  bytes.foldl (fun n b => n * 256 + b.toNat) 0

/-- A number in `width` bytes, most significant first; higher parts of the number are dropped. -/
def bigEndian : (width : Nat) → Nat → Bytes
  | 0, _ => []
  | width + 1, n => bigEndian width (n / 256) ++ [UInt8.ofNat (n % 256)]

@[simp]
theorem length_bigEndian (width n : Nat) : (bigEndian width n).length = width := by
  induction width generalizing n with
  | zero => rfl
  | succ width ih => simp [bigEndian, ih]

theorem toNat_append_singleton (bytes : Bytes) (b : UInt8) :
    toNat (bytes ++ [b]) = toNat bytes * 256 + b.toNat := by
  simp [toNat, List.foldl_append]

theorem toNat_bigEndian {width n : Nat} (h : n < Nat.pow 256 width) :
    toNat (bigEndian width n) = n := by
  induction width generalizing n with
  | zero => simp at h; simp [bigEndian, toNat, h]
  | succ width ih =>
    have hn : n < Nat.pow 256 width * 256 := h
    rw [bigEndian, toNat_append_singleton, ih (by omega)]
    have : (UInt8.ofNat (n % 256)).toNat = n % 256 := by
      simp [UInt8.toNat_ofNat']
    omega

/-- Whether two strings of bytes are the same. Of two that are equally long every byte is looked at,
wherever they differ. -/
def agree (a b : Bytes) : Bool :=
  if a.length ≠ b.length then false
  else (a.zipWith (· ^^^ ·) b).foldl (· ||| ·) 0 = 0

theorem foldl_or_eq_zero_iff (bytes : Bytes) (seen : UInt8) :
    bytes.foldl (· ||| ·) seen = 0 ↔ seen = 0 ∧ ∀ b ∈ bytes, b = 0 := by
  induction bytes generalizing seen with
  | nil => simp
  | cons b bytes ih =>
    rw [List.foldl_cons, ih, UInt8.or_eq_zero_iff]
    simp [and_assoc]

theorem zipWith_xor_eq_zero_iff {a b : Bytes} (h : a.length = b.length) :
    (∀ x ∈ a.zipWith (· ^^^ ·) b, x = 0) ↔ a = b := by
  induction a generalizing b with
  | nil => simpa [eq_comm] using h
  | cons x a ih =>
    cases b with
    | nil => simp at h
    | cons y b =>
      have hl : a.length = b.length := by simpa using h
      rw [List.zipWith_cons_cons, List.forall_mem_cons, ih hl, UInt8.xor_eq_zero_iff,
        List.cons.injEq]

/-- The comparison is equality. -/
theorem agree_iff (a b : Bytes) : agree a b = true ↔ a = b := by
  rw [agree]
  split
  · rename_i h
    simp only [Bool.false_eq_true, false_iff]
    exact fun hab => h (congrArg List.length hab)
  · rename_i h
    rw [decide_eq_true_iff, foldl_or_eq_zero_iff, zipWith_xor_eq_zero_iff (by omega)]
    simp

/-- The lower-case hexadecimal digit of a number below sixteen. -/
def hexDigit (n : Nat) : Char :=
  if n < 10 then Char.ofNat (48 + n) else Char.ofNat (87 + n)

/-- The hexadecimal form: two digits for each byte. -/
def toHexChars (bytes : Bytes) : List Char :=
  bytes.flatMap fun b => [hexDigit (b.toNat / 16), hexDigit (b.toNat % 16)]

/-- The hexadecimal form as a text. -/
def toHex (bytes : Bytes) : String := String.ofList bytes.toHexChars

theorem length_toHexChars (bytes : Bytes) : bytes.toHexChars.length = 2 * bytes.length := by
  induction bytes with
  | nil => rfl
  | cons b bytes ih => simp [toHexChars] at ih ⊢; omega

/-- The value of a hexadecimal digit, of either case. -/
def hexValue? (c : Char) : Option Nat :=
  let n := c.toNat
  if 48 ≤ n ∧ n ≤ 57 then some (n - 48)
  else if 97 ≤ n ∧ n ≤ 102 then some (n - 87)
  else if 65 ≤ n ∧ n ≤ 70 then some (n - 55)
  else none

/-- The bytes that a text of hexadecimal digits writes, two digits for each. -/
def ofHexChars? : List Char → Option Bytes
  | [] => some []
  | high :: low :: rest => do
    let high ← hexValue? high
    let low ← hexValue? low
    let bytes ← ofHexChars? rest
    return UInt8.ofNat (high * 16 + low) :: bytes
  | [_] => none

theorem hexValue?_hexDigit {n : Nat} (h : n < 16) : hexValue? (hexDigit n) = some n := by
  have : ∀ n : Fin 16, hexValue? (hexDigit n.val) = some n.val := by decide
  exact this ⟨n, h⟩

/-- The hexadecimal form of bytes writes those bytes. -/
theorem ofHexChars?_toHexChars (bytes : Bytes) : ofHexChars? bytes.toHexChars = some bytes := by
  induction bytes with
  | nil => rfl
  | cons b bytes ih =>
    have hb : b.toNat / 16 * 16 + b.toNat % 16 = b.toNat := by omega
    have h : b.toNat < 256 := b.toNat_lt
    simp only [toHexChars] at ih
    simp only [toHexChars, List.flatMap_cons, List.cons_append, List.nil_append, ofHexChars?,
      hexValue?_hexDigit (show b.toNat / 16 < 16 by omega),
      hexValue?_hexDigit (show b.toNat % 16 < 16 by omega), ih, Option.bind_eq_bind,
      Option.bind_some, Option.pure_def, hb, UInt8.ofNat_toNat]

theorem isSome_hexValue?_of_mem {bytes : Bytes} {c : Char} (h : c ∈ bytes.toHexChars) :
    (hexValue? c).isSome := by
  simp only [toHexChars, List.mem_flatMap, List.mem_cons, List.not_mem_nil, or_false] at h
  obtain ⟨b, -, hc⟩ := h
  have hb : b.toNat < 256 := b.toNat_lt
  rcases hc with rfl | rfl
  · rw [hexValue?_hexDigit (by omega), Option.isSome_some]
  · rw [hexValue?_hexDigit (by omega), Option.isSome_some]

end Bytes

end CommandLink
