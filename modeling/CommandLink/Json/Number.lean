import CommandLink.Decimal.Shortest
import CommandLink.Text.Integer

/-!
# Numbers of documents

A number is an integer in the common range of signed and unsigned 64-bit words, or a
double-precision float, held by its bits. `Number.chars` writes it: integers plainly, floats with
the fewest digits that read back, always with a point or an exponent. `Number.ofParts?` gives the
number that a numeral stands for.
-/

namespace CommandLink.Json

/-- Whether an integer fits a signed or an unsigned 64-bit word. -/
abbrev FitsWord (n : Int) : Prop := -9223372036854775808 ≤ n ∧ n < 18446744073709551616

/-- A number of a document. -/
inductive Number where
  | int (value : Int) (fits : FitsWord value)
  | float (bits : UInt64)
  deriving DecidableEq, Repr

namespace Number

instance : Inhabited Number := ⟨.int 0 (by decide)⟩

/-- The number of an unsigned 64-bit word. -/
def ofUInt64 (n : UInt64) : Number :=
  .int n.toNat ⟨by omega, by have := n.toNat_lt; omega⟩

/-- The number of an unsigned 32-bit word. -/
def ofUInt32 (n : UInt32) : Number :=
  .int n.toNat ⟨by omega, by have := n.toNat_lt; omega⟩

/-- The number of a signed 32-bit word. -/
def ofInt32 (n : Int32) : Number :=
  .int n.toInt ⟨by have := n.le_toInt; omega, by have := n.toInt_lt; omega⟩

/-! ## Written form -/

/-- The digits of a decimal with a point or an exponent: positional from `1e-5` up to `1e16`. -/
def scientificChars (s : Decimal.Scientific) : List Char :=
  let digits := Text.naturalChars s.digits
  let point := (digits.length : Int) + s.exponent
  if 0 ≤ s.exponent ∧ point ≤ 16 then
    digits ++ List.replicate s.exponent.toNat '0' ++ ['.', '0']
  else if 0 < point ∧ point ≤ 16 then
    digits.take point.toNat ++ '.' :: digits.drop point.toNat
  else if -5 < point ∧ point ≤ 0 then
    '0' :: '.' :: List.replicate (-point).toNat '0' ++ digits
  else
    let exponent := point - 1
    let mark := if exponent < 0 then ['e', '-'] else ['e', '+']
    let exponentChars := mark ++ Text.naturalChars exponent.natAbs
    match digits with
    | first :: second :: rest => first :: '.' :: second :: rest ++ exponentChars
    | _ => digits ++ exponentChars

/-- A float of the given bits; what is not finite has no numeral and is written as nothing. -/
def floatChars (bits : UInt64) : List Char :=
  let sign := if bits >>> 63 = 1 then ['-'] else []
  let biased := (bits >>> 52 &&& 0x7FF).toNat
  let fraction := (bits &&& 0xFFFFFFFFFFFFF).toNat
  if biased = 2047 then ['n', 'u', 'l', 'l']
  else if biased = 0 ∧ fraction = 0 then sign ++ ['0', '.', '0']
  else if biased = 0 then sign ++ scientificChars (Decimal.shortest fraction (-1074) false)
  else
    sign ++ scientificChars
      (Decimal.shortest (0x10000000000000 + fraction) ((biased : Int) - 1075)
        (fraction = 0 ∧ 1 < biased))

/-- The numeral of a number. -/
def chars : Number → List Char
  | .int value _ => Text.integerChars value
  | .float bits => floatChars bits

/-! ## Value of a numeral -/

/-- The parts of a numeral. -/
structure Parts where
  negative : Bool
  whole : List Nat
  fraction : Option (List Nat)
  /-- The sign and the digits after the exponent mark. -/
  exponent : Option (Bool × List Nat)

/-- Takes digits into a word for as long as it holds them; with the digits left over. -/
def absorb (significand : Nat) : List Nat → Nat × List Nat
  | [] => (significand, [])
  | d :: digits =>
    if significand * 10 + d < 18446744073709551616 then absorb (significand * 10 + d) digits
    else (significand, d :: digits)

/-- A power of ten as a float. -/
def powerOfTen (n : Nat) : Float := Float.ofScientific 1 false n

/-- Shrinks a float by `1e308` at a time until what remains of a negative exponent has a power of
ten, then by that power. -/
def shrink : (rounds : Nat) → Float → (exponent : Nat) → Float
  | 0, f, _ => f
  | rounds + 1, f, exponent =>
    if exponent ≤ 308 then f / powerOfTen exponent
    else if f == 0 then f
    else shrink rounds (f / powerOfTen 308) (exponent - 308)

/-- The float `significand * 10 ^ exponent`, unless it is too large to be one. -/
def scale? (significand : Nat) (exponent : Int) : Option Float :=
  let f := (UInt64.ofNat significand).toFloat
  match exponent with
  | .ofNat e =>
    if e ≤ 308 then
      let f := f * powerOfTen e
      if f.isInf then none else some f
    else if f == 0 then some f else none
  | .negSucc e => some (shrink 4 f (e + 1))

/-- The float that stands for a numeral's parts: digits beyond a word are dropped, and an exponent
beyond 32 bits makes zero or no float at all. -/
def float? (p : Parts) : Option Float :=
  let (significand, dropped) := absorb 0 p.whole
  let fraction := p.fraction.getD []
  let (significand, ignored) := absorb significand fraction
  let shift : Int := (dropped.length : Int) - ((fraction.length : Int) - ignored.length)
  let magnitude := match p.exponent with
    | none => scale? significand shift
    | some (down, digits) =>
      let e : Nat := digits.foldl (fun n d => n * 10 + d) 0
      if e < 2147483648 then scale? significand (if down then shift - e else shift + e)
      else if down ∨ significand = 0 then some 0 else none
  magnitude.map fun f => if p.negative then -f else f

/-- The number that a numeral stands for: an integer when it has neither point nor exponent and
its value fits a word, else a float; none when it is out of the floats' range. -/
def ofParts? (p : Parts) : Option Number :=
  let n : Nat := p.whole.foldl (fun n d => n * 10 + d) 0
  let value : Int := if p.negative then -n else n
  if h : FitsWord value ∧ p.fraction.isNone ∧ p.exponent.isNone ∧ ¬ (p.negative ∧ n = 0) then
    some (.int value h.1)
  else (float? p).map fun f => .float f.toBits

end Number

end CommandLink.Json
