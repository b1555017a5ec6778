/-!
# The shortest decimal of a binary number

A positive binary number `m * 2 ^ q` stands for every real nearer to it than to its neighbours.
`shortest` finds the coarsest power of ten that has a multiple among these reals, and of its
multiples there the one nearest to the number; so no decimal with fewer digits reads back as the
same number.
-/

namespace CommandLink.Decimal

/-- A positive binary number and the reals that round to it, all in units of a quarter of its last
place: `middle` is the number, `low` and `high` bound the reals, and `closed` says whether the
bounds round to it too. -/
structure Window where
  low : Nat
  middle : Nat
  high : Nat
  closed : Bool
  /-- The unit is `2 ^ exponent`. -/
  exponent : Int

/-- The window of `m * 2 ^ q`; the number below is nearer when `m` is the least of its binade. -/
def Window.of (m : Nat) (q : Int) (leastOfBinade : Bool) : Window where
  low := if leastOfBinade then 4 * m - 1 else 4 * m - 2
  middle := 4 * m
  high := 4 * m + 2
  closed := m % 2 = 0
  exponent := q - 2

/-- A decimal `digits * 10 ^ exponent`. -/
structure Scientific where
  digits : Nat
  exponent : Int
  deriving DecidableEq, Repr

/-- The multiple of `10 ^ e` in the window that is nearest to the number, if there is one. Of two
equally near the even one is taken. -/
def Window.onGrid? (w : Window) (e : Int) : Option Nat :=
  let scale := Nat.pow 2 w.exponent.toNat * Nat.pow 10 (-e).toNat
  let unit := Nat.pow 2 (-w.exponent).toNat * Nat.pow 10 e.toNat
  let inside (t : Nat) : Bool :=
    if w.closed then w.low * scale ≤ t * unit && t * unit ≤ w.high * scale
    else w.low * scale < t * unit && t * unit < w.high * scale
  let below := w.middle * scale / unit
  let twice := 2 * (w.middle * scale - below * unit)
  match inside below, inside (below + 1) with
  | true, true =>
    if twice < unit then some below
    else if unit < twice then some (below + 1)
    else if below % 2 = 0 then some below else some (below + 1)
  | true, false => some below
  | false, true => some (below + 1)
  | false, false => none

/-- Searches the grids from `10 ^ e` downwards. -/
def Window.search (w : Window) : (grids : Nat) → (e : Int) → Scientific
  | 0, e => ⟨w.middle, e⟩
  | grids + 1, e =>
    match w.onGrid? e with
    | some digits => ⟨digits, e⟩
    | none => w.search grids (e - 1)

/-- The shortest decimal of a positive binary number of double precision. -/
def shortest (m : Nat) (q : Int) (leastOfBinade : Bool) : Scientific :=
  (Window.of m q leastOfBinade).search 1400 310

end CommandLink.Decimal
