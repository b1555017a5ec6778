import CommandLink.Pattern.Atom

/-!
# Sets of characters in patterns

Between brackets stand characters, ranges of characters, classes with a name, and sets again; two of
the signs `&`, `-` and `~` in a row take the set before them and the one behind them together. The
sign `^` at the front takes all other characters.

A set is read from left to right with a list of the sets around it. What counts of a set that has
been read is how deep it nests.
-/

namespace CommandLink.Pattern

/-- How deep sets and expressions nest, from those of their parts, last first: several parts are one
level above the deepest of them. -/
def heightOf : List Nat → Nat
  | [] => 0
  | [height] => height
  | heights => heights.foldl max 0 + 1

/-- A set that is being read. -/
structure OpenSet where
  /-- The height of what stands before the last sign that takes two sets together. -/
  left : Option Nat
  /-- The heights of the parts behind it, last first. -/
  parts : List Nat
  deriving DecidableEq, Repr

namespace OpenSet

/-- The set with one more part. -/
def add (set : OpenSet) (height : Nat) : OpenSet := { set with parts := height :: set.parts }

/-- The height of the set if it ends here. -/
def height (set : OpenSet) : Nat :=
  match set.left with
  | none => heightOf set.parts
  | some left => max left (heightOf set.parts) + 1

/-- The set behind a sign that takes two sets together. -/
def combine (set : OpenSet) : OpenSet := ⟨some set.height, []⟩

end OpenSet

/-! ## Parts of sets -/

/-- Whether a character may stand in a set. Sets of bytes hold ASCII alone. -/
def isAllowedInSet (flags : Flags) (code : Nat) : Bool :=
  if flags.unicode then !flags.anyCase else code < 128

/-- The names of classes that stand between colons. -/
def classNames : List (List Char) :=
  ["alnum", "alpha", "ascii", "blank", "cntrl", "digit", "graph", "lower", "print", "punct", "space",
    "upper", "word", "xdigit"].map String.toList

/-- The class with a name between colons whose opening bracket has been read: whether it is that of
all other characters. -/
def namedClass? (cs : List Char) : Option (Taken Bool cs) :=
  match cs with
  | ':' :: cs =>
    let negated := cs.head? = some '^'
    let inner := if negated then cs.drop 1 else cs
    let name := inner.takeWhile (· ≠ ':')
    match h : inner.dropWhile (· ≠ ':') with
    | ':' :: ']' :: rest =>
      if classNames.contains name then
        some ⟨negated, rest, by
          have short := (List.dropWhile_sublist (l := inner) (· ≠ ':')).length_le
          have drop : inner.length ≤ cs.length := by
            simp only [inner]
            split <;> simp
          rw [h] at short
          simp only [List.length_cons] at short ⊢
          omega⟩
      else none
    | _ => none
  | _ => none

/-- The character that follows the one at the front of a text. Where blanks are skipped, a comment
counts as far as its first character that is not blank. -/
def following (spaced : Bool) (cs : List Char) : Option Char :=
  let rest := cs.drop 1
  if !spaced then rest.head?
  else
    let rest := rest.dropWhile Text.isBlank
    match rest with
    | '#' :: comment =>
      match comment.dropWhile Text.isBlank with
      | [] => (cs.drop 1).head?
      | c :: _ => some c
    | c :: _ => some c
    | [] => (cs.drop 1).head?

/-- A character in a set, by its code point, or a class with a name, and what follows it. -/
def setAtom (flags : Flags) (cs : List Char) : Option (Taken (Option Nat) cs) :=
  match cs with
  | [] => none
  | '\\' :: rest =>
    (@escape ('\\' :: rest) flags.spaced rest (Nat.lt_succ_self _)).bind fun t =>
      match t.value with
      | .character code _ => some (t.map fun _ => some code)
      | .named negated =>
        if (Atom.named negated).isAllowed flags then some (t.map fun _ => none) else none
      | _ => none
  | c :: rest => some ⟨some c.toNat, rest, Nat.lt_succ_self _⟩

/-- A character, a range or a class with a name of one letter, and what follows it. -/
def setPart (flags : Flags) (cs : List Char) : Option (Taken Unit cs) :=
  (setAtom flags cs).bind fun first =>
    match h : skipBlanks flags.spaced first.rest with
    | [] => none
    | c :: rest =>
      have shorter : rest.length < cs.length :=
        Nat.lt_trans (length_lt_of_skipBlanks h) first.shorter
      let next := following flags.spaced (c :: rest)
      if c ≠ '-' || next = some ']' || next = some '-' then
        if first.value.all (isAllowedInSet flags) then some (first.map fun _ => ()) else none
      else
        (setAtom flags (skipBlanks flags.spaced rest)).bind fun last =>
          match first.value, last.value with
          | some low, some high =>
            if low ≤ high && isAllowedInSet flags low && isAllowedInSet flags high then
              some ⟨(), last.rest, by
                have := last.shorter
                have := length_skipBlanks_le flags.spaced rest
                omega⟩
            else none
          | _, _ => none

/-! ## Sets -/

/-- The hyphens at the front of a set, which stand for themselves: how many there are, and what
follows them. -/
def hyphens (spaced : Bool) : List Char → Nat × List Char
  | [] => (0, [])
  | c :: cs =>
    if c = '-' then
      let (count, rest) := hyphens spaced (skipBlanks spaced cs)
      (count + 1, rest)
    else (0, c :: cs)
termination_by cs => cs.length
decreasing_by
  have := length_skipBlanks_le spaced cs
  simp only [List.length_cons]
  omega

theorem length_hyphens_le (spaced : Bool) (cs : List Char) :
    (hyphens spaced cs).2.length ≤ cs.length := by
  fun_induction hyphens spaced cs with
  | case1 => simp
  | case2 cs count rest eq ih =>
    have := length_skipBlanks_le spaced cs
    rw [eq] at ih
    simp only [List.length_cons] at ih ⊢
    omega
  | case3 => simp

/-- Whether a sign stands at the front of a text, and what follows it and the blanks behind it. -/
def takeSign (spaced : Bool) (sign : Char) : List Char → Bool × List Char
  | [] => (false, [])
  | c :: cs => if c = sign then (true, skipBlanks spaced cs) else (false, c :: cs)

theorem length_takeSign_le (spaced : Bool) (sign : Char) (cs : List Char) :
    (takeSign spaced sign cs).2.length ≤ cs.length := by
  cases cs with
  | nil => simp [takeSign]
  | cons c cs =>
    have := length_skipBlanks_le spaced cs
    simp only [takeSign]
    split <;> simp only [List.length_cons] <;> omega

/-- The characters at the front of a set that stand for themselves there: hyphens or, without any, a
closing bracket. -/
def takeFront (spaced : Bool) (cs : List Char) : Nat × List Char :=
  match hyphens spaced cs with
  | (0, rest) =>
    let bracket := takeSign spaced ']' rest
    (if bracket.1 then 1 else 0, bracket.2)
  | front => front

theorem length_takeFront_le (spaced : Bool) (cs : List Char) :
    (takeFront spaced cs).2.length ≤ cs.length := by
  have front := length_hyphens_le spaced cs
  unfold takeFront
  split
  · rename_i rest eq
    have := length_takeSign_le spaced ']' rest
    rw [eq] at front
    dsimp only at front ⊢
    omega
  · exact front

/-- Opens a set behind its bracket. -/
def openSet (flags : Flags) (cs : List Char) : Option (OpenSet × List Char) :=
  let negation := takeSign flags.spaced '^' (skipBlanks flags.spaced cs)
  let front := takeFront flags.spaced negation.2
  if negation.1 && !flags.unicode then none
  else if 0 < front.1 && !isAllowedInSet flags '-'.toNat then none
  else some (⟨none, List.replicate front.1 0⟩, front.2)

theorem length_openSet_le {flags : Flags} {cs rest : List Char} {set : OpenSet}
    (h : openSet flags cs = some (set, rest)) : rest.length ≤ cs.length := by
  have blanks := length_skipBlanks_le flags.spaced cs
  have negation := length_takeSign_le flags.spaced '^' (skipBlanks flags.spaced cs)
  have front := length_takeFront_le flags.spaced
    (takeSign flags.spaced '^' (skipBlanks flags.spaced cs)).2
  unfold openSet at h
  dsimp only at h
  split at h
  · simp at h
  · split at h
    · simp at h
    · simp only [Option.some.injEq, Prod.mk.injEq] at h
      rw [← h.2]
      omega

/-- Reads a set to its end: `outer` holds the sets around it, innermost first. -/
def readSet (flags : Flags) (set : OpenSet) (outer : List OpenSet) (cs : List Char) :
    Option (Nat × List Char) :=
  match h : skipBlanks flags.spaced cs with
  | [] => none
  | c :: rest =>
    have := length_lt_of_skipBlanks h
    if c = ']' then
      match outer with
      | [] => some (set.height + 1, rest)
      | next :: outer => readSet flags (next.add (set.height + 1)) outer rest
    else if c = '[' then
      match namedClass? rest with
      | some t =>
        have := t.shorter
        if if flags.unicode then flags.anyCase else t.value then none
        else readSet flags (set.add 0) outer t.rest
      | none =>
        match opening : openSet flags rest with
        | none => none
        | some (inner, inside) =>
          have := length_openSet_le opening
          readSet flags inner (set :: outer) inside
    else if (c = '&' || c = '-' || c = '~') && rest.head? = some c then
      readSet flags set.combine outer (rest.drop 1)
    else
      match setPart flags (c :: rest) with
      | none => none
      | some t =>
        have := t.shorter
        readSet flags (set.add 0) outer t.rest
termination_by cs.length
decreasing_by
  all_goals first | omega | (simp only [List.length_drop, List.length_cons] at *; omega)

theorem length_readSet_lt {flags : Flags} {set : OpenSet} {outer : List OpenSet} {n : Nat}
    {cs rest : List Char} (h : readSet flags set outer cs = some (n, rest)) :
    rest.length < cs.length := by
  fun_induction readSet flags set outer cs <;> grind

end CommandLink.Pattern
