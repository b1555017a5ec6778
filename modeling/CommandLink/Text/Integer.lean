/-!
# Integers as text

Decimal integers, written without leading zeros (`decimal`) and read from ASCII digits with an
optional sign (`integer?`, `natural?`). A reader may ask for a range (`integerIn?`), such as that of
a machine word (`int32?`, `int64?`).
-/

namespace CommandLink.Text

/-- Whether a character is one of the ten ASCII digits. -/
def isDigit (c : Char) : Bool := 48 ≤ c.toNat && c.toNat ≤ 57

/-- The value of an ASCII digit. -/
def digitValue (c : Char) : Nat := c.toNat - 48

/-- The number that a list of digits writes. -/
def digitsValue (digits : List Char) : Nat :=
  digits.foldl (fun n c => n * 10 + digitValue c) 0

/-- The number written by characters that are all digits, of which there is at least one. -/
def digits? (cs : List Char) : Option Nat :=
  if cs ≠ [] ∧ cs.all isDigit then some (digitsValue cs) else none

/-- The integer written by digits, with at most one sign before them. -/
def integer? (cs : List Char) : Option Int :=
  match cs with
  | '-' :: digits => (digits? digits).map fun n => -(n : Int)
  | '+' :: digits => (digits? digits).map fun n => (n : Int)
  | digits => (digits? digits).map fun n => (n : Int)

/-- The number written by digits, with at most one plus sign before them. -/
def natural? (cs : List Char) : Option Nat :=
  match cs with
  | '+' :: digits => digits? digits
  | digits => digits? digits

/-- The integer of a text, if it lies between the bounds. -/
def integerIn? (low high : Int) (s : String) : Option Int :=
  (integer? s.toList).filter fun n => low ≤ n && n ≤ high

/-- The integer of a text, if it fits a signed 32-bit word. -/
def int32? (s : String) : Option Int := integerIn? (-2147483648) 2147483647 s

/-- The integer of a text, if it fits a signed 64-bit word. -/
def int64? (s : String) : Option Int := integerIn? (-9223372036854775808) 9223372036854775807 s

/-- The number of a text, if it is at most `high`. -/
def naturalUpTo? (high : Nat) (s : String) : Option Nat :=
  (natural? s.toList).filter fun n => n ≤ high

/-- The digits of a number, most significant first. -/
def naturalChars (n : Nat) : List Char := Nat.toDigits 10 n

/-- The digits of an integer after its minus sign, if it has one. -/
def integerChars (n : Int) : List Char :=
  if n < 0 then '-' :: naturalChars n.natAbs else naturalChars n.natAbs

/-- An integer in decimal. -/
def decimal (n : Int) : String := String.ofList (integerChars n)

end CommandLink.Text
