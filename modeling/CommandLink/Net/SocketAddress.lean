import CommandLink.Text.Integer
import CommandLink.Text.Quoted

/-!
# Socket addresses

A socket address is an address of version 4 or 6 and a port. Version 4 is written as four decimal
numbers, version 6 in brackets as eight hexadecimal groups, of which the first longest run of at
least two zeros is left out; the last two groups may also be written as an address of version 4.
-/

namespace CommandLink.Net

/-- A socket address. Versions are told apart by their constructor; `scope` names the interface of
a local address, or is zero. -/
inductive SocketAddress where
  | v4 (octets : List Nat) (port : Nat)
  | v6 (groups : List Nat) (scope port : Nat)
  deriving DecidableEq, Repr

/-- Every machine has the addresses that name no machine or the machine itself: version 4 from
zeros and from 127 on, version 6 the numbers zero and one. -/
def SocketAddress.isLocal : SocketAddress → Bool
  | .v4 octets _ => octets.head? = some 127 || octets.all (· = 0)
  | .v6 groups _ _ => groups.dropLast.all (· = 0) && groups.getLast?.all (· ≤ 1)

/-! ## Reading -/

/-- Takes a value from the front of a text. -/
abbrev Scanner (α : Type) := List Char → Option (α × List Char)

/-- The value of a digit in a base of at most sixteen. -/
def digit? (base : Nat) (c : Char) : Option Nat :=
  let n := c.toNat
  let value :=
    if 48 ≤ n ∧ n ≤ 57 then some (n - 48)
    else if 97 ≤ n ∧ n ≤ 102 then some (n - 87)
    else if 65 ≤ n ∧ n ≤ 70 then some (n - 55)
    else none
  value.filter (· < base)

/-- The digits at the front of a text. -/
def digitsFront (base : Nat) : List Char → List Nat × List Char
  | [] => ([], [])
  | c :: cs =>
    match digit? base c with
    | none => ([], c :: cs)
    | some d =>
      let (digits, rest) := digitsFront base cs
      (d :: digits, rest)

/-- A number of at most `high`, with at most `width` digits and, unless `leadingZeros` holds, none
of them a leading zero. -/
def scanNumber (base high : Nat) (width : Option Nat) (leadingZeros : Bool) : Scanner Nat :=
  fun cs =>
    let (digits, rest) := digitsFront base cs
    let value := digits.foldl (fun n d => n * base + d) 0
    let tooWide := match width with
      | some w => w < digits.length
      | none => false
    if digits = [] || tooWide || high < value then none
    else if !leadingZeros && digits.head? = some 0 && 1 < digits.length then none
    else some (value, rest)

/-- Requires a character at the front of a text. -/
def scanChar (c : Char) : Scanner Unit
  | d :: rest => if c = d then some ((), rest) else none
  | [] => none

/-- Four decimal numbers with points between them. -/
def scanV4 : Scanner (List Nat) := fun cs => do
  let number := scanNumber 10 255 (some 3) false
  let (a, cs) ← number cs
  let (_, cs) ← scanChar '.' cs
  let (b, cs) ← number cs
  let (_, cs) ← scanChar '.' cs
  let (c, cs) ← number cs
  let (_, cs) ← scanChar '.' cs
  let (d, cs) ← number cs
  return ([a, b, c, d], cs)

/-- Up to `limit` groups with colons between them, and whether they end in an address of version
4, which stands for two groups. `first` says that no colon is due. -/
def scanGroups : (limit : Nat) → (first : Bool) → List Char → (List Nat × Bool) × List Char
  | 0, _, cs => (([], false), cs)
  | limit + 1, first, cs =>
    let separated := if first then some ((), cs) else scanChar ':' cs
    let embedded := if limit = 0 then none else separated.bind fun s => scanV4 s.2
    match embedded with
    | some ([a, b, c, d], rest) => (([a * 256 + b, c * 256 + d], true), rest)
    | _ =>
      match separated.bind fun s => scanNumber 16 65535 (some 4) true s.2 with
      | none => (([], false), cs)
      | some (group, rest) =>
        let ((groups, embedded), rest) := scanGroups limit false rest
        ((group :: groups, embedded), rest)

/-- Eight groups, or fewer around a double colon that stands for at least one zero group. -/
def scanV6 : Scanner (List Nat) := fun cs => do
  let ((head, embedded), rest) := scanGroups 8 true cs
  if head.length = 8 then return (head, rest)
  if embedded then none
  let (_, rest) ← scanChar ':' rest
  let (_, rest) ← scanChar ':' rest
  let ((tail, _), rest) := scanGroups (7 - head.length) true rest
  return (head ++ List.replicate (8 - head.length - tail.length) 0 ++ tail, rest)

/-- A colon and a port. -/
def scanPort : Scanner Nat := fun cs => do
  let (_, cs) ← scanChar ':' cs
  scanNumber 10 65535 none true cs

/-- The scope of an address after a percent sign, or zero where there is none. -/
def scanScope (cs : List Char) : Nat × List Char :=
  let given : Option (Nat × List Char) := do
    let (_, cs) ← scanChar '%' cs
    scanNumber 10 4294967295 none true cs
  given.getD (0, cs)

/-- An address of version 4 and a port. -/
def scanSocketV4 : Scanner SocketAddress := fun cs => do
  let (octets, cs) ← scanV4 cs
  let (port, cs) ← scanPort cs
  return (.v4 octets port, cs)

/-- An address of version 6 in brackets and a port. -/
def scanSocketV6 : Scanner SocketAddress := fun cs => do
  let (_, cs) ← scanChar '[' cs
  let (groups, cs) ← scanV6 cs
  let (scope, cs) := scanScope cs
  let (_, cs) ← scanChar ']' cs
  let (port, cs) ← scanPort cs
  return (.v6 groups scope port, cs)

/-- The socket address that a whole text writes. -/
def SocketAddress.parse? (s : String) : Option SocketAddress :=
  match (scanSocketV4 s.toList).orElse fun _ => scanSocketV6 s.toList with
  | some (address, []) => some address
  | _ => none

/-! ## Writing -/

/-- The first longest run of zeros in a list: where it starts, and its length. `position` is the
place of the list's head; `current` is the run that ends there. -/
def longestZeroRun (position : Nat) (current best : Nat × Nat) : List Nat → Nat × Nat
  | [] => if best.2 < current.2 then current else best
  | g :: groups =>
    if g = 0 then longestZeroRun (position + 1) (current.1, current.2 + 1) best groups
    else
      let best := if best.2 < current.2 then current else best
      longestZeroRun (position + 1) (position + 1, 0) best groups

/-- Groups in hexadecimal with colons between them. -/
def groupsText (groups : List Nat) : String :=
  String.intercalate ":" (groups.map fun g => String.ofList (Text.hexNumber g))

/-- Octets in decimal with points between them. -/
def octetsText (octets : List Nat) : String :=
  String.intercalate "." (octets.map fun (o : Nat) => Text.decimal o)

/-- Groups with their first longest run of zeros left out. -/
def compressedText (groups : List Nat) : String :=
  let (start, length) := longestZeroRun 0 (0, 0) (0, 0) groups
  if 1 < length then
    groupsText (groups.take start) ++ "::" ++ groupsText (groups.drop (start + length))
  else groupsText groups

/-- An address of version 6; one that stands for an address of version 4 shows it. -/
def v6Text (groups : List Nat) : String :=
  match groups with
  | [0, 0, 0, 0, 0, 0xffff, high, low] =>
    "::ffff:" ++ octetsText [high / 256, high % 256, low / 256, low % 256]
  | groups => compressedText groups

/-- The text of a socket address. -/
def SocketAddress.text : SocketAddress → String
  | .v4 octets port => octetsText octets ++ ":" ++ Text.decimal port
  | .v6 groups scope port =>
    let scopeText := if scope = 0 then "" else "%" ++ Text.decimal scope
    "[" ++ v6Text groups ++ scopeText ++ "]:" ++ Text.decimal port

end CommandLink.Net
