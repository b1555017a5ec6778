import CommandLink.Text.Utf8

/-!
# Texts from any bytes

A text read from bytes that need not encode one: what is not the beginning of a character is
replaced. Bytes that could have begun the same character are replaced together.
-/

namespace CommandLink.Text

/-- The character that stands for bytes that encode none. -/
def replacement : Char := Char.ofNat 0xFFFD

/-- How many bytes can follow the first byte of a character, and the bounds of the first of
them. -/
def followers (first : UInt8) : Nat × Nat × Nat :=
  let n := first.toNat
  if 0xC2 ≤ n && n ≤ 0xDF then (1, 0x80, 0xBF)
  else if n = 0xE0 then (2, 0xA0, 0xBF)
  else if n = 0xED then (2, 0x80, 0x9F)
  else if 0xE1 ≤ n && n ≤ 0xEF then (2, 0x80, 0xBF)
  else if n = 0xF0 then (3, 0x90, 0xBF)
  else if 0xF1 ≤ n && n ≤ 0xF3 then (3, 0x80, 0xBF)
  else if n = 0xF4 then (3, 0x80, 0x8F)
  else (0, 0, 0)

/-- How many of the bytes behind the first one could belong to the same character. `count` bounds
them, and the first of them lies between `low` and `high`. -/
def begun (count low high : Nat) : Bytes → Nat
  | [] => 0
  | b :: bytes =>
    if count = 0 || b.toNat < low || high < b.toNat then 0
    else begun (count - 1) 0x80 0xBF bytes + 1

/-- The text of bytes, with replacements; `read` holds what has been read, last first. -/
def repairOnto (read : List Char) (bytes : Bytes) : List Char :=
  match bytes with
  | [] => read.reverse
  | b :: bytes =>
    match h : Utf8.take? (b :: bytes) with
    | some (c, rest) =>
      have : rest.length < (b :: bytes).length := Utf8.length_lt_of_take? h
      repairOnto (c :: read) rest
    | none =>
      let (count, low, high) := followers b
      repairOnto (replacement :: read) (bytes.drop (begun count low high bytes))
termination_by bytes.length
decreasing_by
  · assumption
  · simp only [List.length_drop, List.length_cons]
    omega

/-- The text of bytes, with replacements for what encodes no text. -/
def repaired (bytes : Bytes) : String := String.ofList (repairOnto [] bytes)

end CommandLink.Text
