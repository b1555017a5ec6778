/-!
# Punycode

Names outside ASCII written in letters, digits and hyphens: the ASCII characters of the name come
first, and behind the last hyphen stands where the others belong. The others are taken in the order
of their code points; each insertion is the number of places passed over since the one before it, in
digits whose ranges adapt to the numbers seen so far.
-/

namespace CommandLink.Net.Punycode

/-- The digit of a number below 36: letters first. -/
def digit (n : Nat) : Char := if n < 26 then Char.ofNat (97 + n) else Char.ofNat (22 + n)

/-- The least digit that another one follows, at a position of a number. -/
def threshold (position bias : Nat) : Nat := min 26 (max 1 (position - bias))

/-- A number, written so that its last digit is the first one below its threshold. -/
def number (bias position n : Nat) : List Char :=
  let t := threshold position bias
  if n < t then [digit n]
  else digit (t + (n - t) % (36 - t)) :: number bias (position + 36) ((n - t) / (36 - t))
termination_by n
decreasing_by
  have ht : 1 ≤ threshold position bias := by unfold threshold; omega
  have := Nat.div_le_self (n - threshold position bias) (36 - threshold position bias)
  omega

/-- How often a number is divided by 35 until it is at most 455, and what is left. -/
def shrink (n : Nat) : Nat × Nat :=
  if 455 < n then ((shrink (n / 35)).1 + 1, (shrink (n / 35)).2) else (0, n)
termination_by n
decreasing_by all_goals omega

/-- The bias after a number has been written as one of the first `count`. -/
def adapt (n count : Nat) (first : Bool) : Nat :=
  let n := if first then n / 700 else n / 2
  let (times, rest) := shrink (n + n / count)
  36 * times + 36 * rest / (rest + 38)

/-- What has been written, and what is known of the places passed over. -/
structure Progress where
  written : List Char
  passed : Nat
  bias : Nat
  /-- How many characters of the name are written. -/
  count : Nat

/-- Passes over one place of the name on the way to the occurrences of a code point. -/
def pass (plain code : Nat) (p : Progress) (c : Char) : Progress :=
  if c.toNat < code then { p with passed := p.passed + 1 }
  else if c.toNat = code then
    { written := p.written ++ number p.bias 36 p.passed
      passed := 0
      bias := adapt p.passed (p.count + 1) (p.count = plain)
      count := p.count + 1 }
  else p

/-- Writes all occurrences of some code points, which ascend from `next` on. -/
def insertAll (name : List Char) (plain : Nat) (next : Nat) (p : Progress) :
    List Nat → List Char
  | [] => p.written
  | code :: codes =>
    let p := { p with passed := p.passed + (code - next) * (p.count + 1) }
    let p := name.foldl (pass plain code) p
    insertAll name plain (code + 1) { p with passed := p.passed + 1 } codes

/-- A name in letters, digits and hyphens. -/
def encode (name : List Char) : List Char :=
  let plain := name.filter fun c => c.toNat < 128
  let codes := ((name.map Char.toNat).filter fun n => 128 ≤ n).mergeSort.eraseDups
  plain ++ (if plain = [] then [] else ['-']) ++
    insertAll name plain.length 128 ⟨[], 0, 72, plain.length⟩ codes

/-! ## Reading -/

/-- The number of a digit. -/
def digitValue? (c : Char) : Option Nat :=
  if 'a' ≤ c && c ≤ 'z' then some (c.toNat - 97)
  else if c.isDigit then some (c.toNat - 22)
  else none

/-- Numbers stay below this one, and so do the weights of their digits. -/
def limit : Nat := 4294967296

/-- Reads a number and adds it to `value`. -/
def readNumber (bias : Nat) : List Char → Nat → Nat → Nat → Option (Nat × List Char)
  | [], _, _, _ => none
  | c :: cs, position, weight, value =>
    match digitValue? c with
    | none => none
    | some d =>
      let t := threshold position bias
      if limit ≤ value + d * weight then none
      else if d < t then some (value + d * weight, cs)
      else if limit ≤ weight * (36 - t) then none
      else readNumber bias cs (position + 36) (weight * (36 - t)) (value + d * weight)

theorem length_lt_of_readNumber {bias position weight value n : Nat} {cs rest : List Char}
    (h : readNumber bias cs position weight value = some (n, rest)) :
    rest.length < cs.length := by
  fun_induction readNumber bias cs position weight value with
  | case1 => simp at h
  | case2 => simp at h
  | case3 => simp at h
  | case4 => simp_all
  | case5 => simp at h
  | case6 =>
    rename_i ih
    have := ih h
    simp only [List.length_cons]
    omega

/-- Inserts the characters that numbers tell into a name: a number counts the places passed over,
behind the character inserted last, and with each turn through the name the code point grows. -/
def readInsertions (bias code place : Nat) (name : List Char) (cs : List Char) :
    Option (List Char) :=
  if cs = [] then some name
  else match _reading : readNumber bias cs 36 1 place with
    | none => none
    | some (value, rest) =>
      let count := name.length + 1
      let code := code + value / count
      if code.isValidChar then
        readInsertions (adapt (value - place) count (place = 0)) code (value % count + 1)
          (name.insertIdx (value % count) (Char.ofNat code)) rest
      else none
termination_by cs.length
decreasing_by exact length_lt_of_readNumber _reading

/-- The name that lower-case letters, digits and hyphens write. -/
def decode? (cs : List Char) : Option (List Char) :=
  let digits := (cs.reverse.takeWhile (· ≠ '-')).reverse
  if digits.length = cs.length then readInsertions 72 128 0 [] cs
  else match cs.take (cs.length - digits.length - 1) with
    | [] => none
    | plain => readInsertions 72 128 0 plain digits

end CommandLink.Net.Punycode
