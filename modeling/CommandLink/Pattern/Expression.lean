import CommandLink.Pattern.Set
import CommandLink.Text.Alphanumeric

/-!
# Patterns

A pattern is a row of alternatives with bars between them; an alternative is a row of atoms, sets and
groups, and signs behind them say how often they are repeated. A group may have a name of its own,
and it may set flags, which otherwise hold from where they are set to the end of the group around
them. A pattern nests at most 250 deep, and it repeats nothing a given number of times: an opening
brace is a character of a set or behind a backslash only.

Main statement: `isPattern` says whether a text is a pattern.
-/

namespace CommandLink.Pattern

/-! ## Alternatives -/

/-- Alternatives that are being read. -/
structure Row where
  /-- The heights of the alternatives that are complete, last first. -/
  before : List Nat
  /-- The heights of the parts of the last one, last first. A place where flags are set has none, and
  it is not repeated. -/
  parts : List (Option Nat)
  deriving DecidableEq, Repr

namespace Row

def empty : Row := ⟨[], []⟩

/-- The row with one more part in its last alternative. -/
def add (row : Row) (height : Option Nat) : Row := { row with parts := height :: row.parts }

/-- The height of the last alternative. -/
def last (row : Row) : Nat := heightOf (row.parts.map (·.getD 0))

/-- The row with a new alternative. -/
def next (row : Row) : Row := ⟨row.last :: row.before, []⟩

/-- The height of the row if it ends here. -/
def height (row : Row) : Nat := heightOf (row.last :: row.before)

/-- The row with its last part repeated. -/
def repeated? (row : Row) : Option Row :=
  match row.parts with
  | some height :: parts => some { row with parts := some (height + 1) :: parts }
  | _ => none

end Row

/-! ## Groups -/

/-- What the opening of a group tells. -/
inductive Opening where
  /-- It is no group, but sets flags. -/
  | setting (items : List Char)
  | group (items : List Char)
  | named (name : List Char)
  deriving DecidableEq, Repr

/-- The letters of the flags, and the sign that turns those behind it off. -/
def flagSigns : List Char := "imsUuRx-".toList

/-- Reads flags, none of them twice, up to the sign that ends them; `read` holds those before, last
first. -/
def takeFlags (read : List Char) : (cs : List Char) → Option (Taken (List Char × Char) cs)
  | [] => none
  | c :: cs =>
    if c = ':' || c = ')' then
      if read.head? = some '-' then none else some ⟨(read.reverse, c), cs, by simp⟩
    else if flagSigns.contains c && !read.contains c then
      (takeFlags (c :: read) cs).map (·.weaken (by simp))
    else none

/-- What some flags say about one of them, which is `old` where they are silent. -/
def flagAfter (items : List Char) (flag : Char) (old : Bool) : Bool :=
  if (items.takeWhile (· ≠ '-')).contains flag then true
  else if items.contains flag then false
  else old

/-- The flags after some of them have been set. -/
def Flags.set (flags : Flags) (items : List Char) : Flags where
  anyCase := flagAfter items 'i' flags.anyCase
  unicode := flagAfter items 'u' flags.unicode
  spaced := flagAfter items 'x' flags.spaced

/-- Whether a character may stand in the name of a group. -/
def isNameCharacter (first : Bool) (c : Char) : Bool :=
  c = '_' || if first then Text.isLetter c else ".[]".toList.contains c || Text.isAlphanumeric c

theorem length_lt_of_dropWhile {p : Char → Bool} {cs rest : List Char} {c : Char}
    (h : cs.dropWhile p = c :: rest) : rest.length < cs.length := by
  have := (List.dropWhile_sublist (l := cs) p).length_le
  rw [h, List.length_cons] at this
  exact this

/-- The name of a group up to its closing bracket. -/
def takeName (cs : List Char) : Option (Taken (List Char) cs) :=
  let name := cs.takeWhile (· ≠ '>')
  match h : cs.dropWhile (· ≠ '>') with
  | [] => none
  | _ :: rest =>
    match name with
    | [] => none
    | c :: more =>
      if isNameCharacter true c && more.all (isNameCharacter false) then
        some ⟨c :: more, rest, length_lt_of_dropWhile h⟩
      else none

/-- Reads the opening of a group behind its bracket. -/
def opening (cs : List Char) : Option (Opening × List Char) :=
  match cs with
  | '?' :: 'P' :: '<' :: rest => (takeName rest).map fun t => (.named t.value, t.rest)
  | '?' :: '<' :: rest => (takeName rest).map fun t => (.named t.value, t.rest)
  | '?' :: rest =>
    (takeFlags [] rest).bind fun t =>
      if t.value.2 = ':' then some (.group t.value.1, t.rest)
      else if t.value.1 = [] then none
      else some (.setting t.value.1, t.rest)
  | cs => some (.group [], cs)

theorem length_opening_le {cs rest : List Char} {value : Opening}
    (h : opening cs = some (value, rest)) : rest.length ≤ cs.length := by
  unfold opening at h
  split at h
  · obtain ⟨t, -, h⟩ := Option.map_eq_some_iff.1 h
    have := t.shorter
    simp only [Prod.mk.injEq] at h
    rw [← h.2]
    simp only [List.length_cons]
    omega
  · obtain ⟨t, -, h⟩ := Option.map_eq_some_iff.1 h
    have := t.shorter
    simp only [Prod.mk.injEq] at h
    rw [← h.2]
    simp only [List.length_cons]
    omega
  · obtain ⟨t, -, h⟩ := Option.bind_eq_some_iff.1 h
    have := t.shorter
    simp only [List.length_cons]
    split at h
    · simp only [Option.some.injEq, Prod.mk.injEq] at h
      rw [← h.2]
      omega
    · split at h
      · simp at h
      · simp only [Option.some.injEq, Prod.mk.injEq] at h
        rw [← h.2]
        omega
  · simp only [Option.some.injEq, Prod.mk.injEq] at h
    exact Nat.le_of_eq (congrArg List.length h.2.symm)

/-! ## Expressions -/

/-- Reads a pattern to its end: `outer` holds the rows around the one that is being read, innermost
first, with the flags that hold there, and `names` the names of groups. The result is the height. -/
def readPattern (flags : Flags) (names : List (List Char)) (row : Row)
    (outer : List (Row × Flags)) (cs : List Char) : Option Nat :=
  match h : skipBlanks flags.spaced cs with
  | [] => if outer = [] then some row.height else none
  | c :: rest =>
    have := length_lt_of_skipBlanks h
    if c = '(' then
      have := length_skipBlanks_le flags.spaced rest
      match opened : opening (skipBlanks flags.spaced rest) with
      | none => none
      | some (.setting items, inside) =>
        have := length_opening_le opened
        readPattern (flags.set items) names (row.add none) outer inside
      | some (.group items, inside) =>
        have := length_opening_le opened
        readPattern (flags.set items) names .empty ((row, flags) :: outer) inside
      | some (.named name, inside) =>
        have := length_opening_le opened
        if names.contains name then none
        else readPattern flags (name :: names) .empty ((row, flags) :: outer) inside
    else if c = ')' then
      match outer with
      | [] => none
      | (next, old) :: outer =>
        readPattern old names (next.add (some (row.height + 1))) outer rest
    else if c = '|' then readPattern flags names row.next outer rest
    else if c = '?' || c = '*' || c = '+' then
      match row.repeated? with
      | none => none
      | some row =>
        have := length_takeSign_le false '?' rest
        readPattern flags names row outer (takeSign false '?' rest).2
    else if c = '\x7b' then none
    else if c = '[' then
      match opened : openSet flags rest with
      | none => none
      | some (set, inside) =>
        have := length_openSet_le opened
        match read : readSet flags set [] inside with
        | none => none
        | some (height, behind) =>
          have := length_readSet_lt read
          readPattern flags names (row.add (some height)) outer behind
    else
      match atom flags.spaced (c :: rest) with
      | none => none
      | some t =>
        have := t.shorter
        if t.value.isAllowed flags then readPattern flags names (row.add (some 0)) outer t.rest
        else none
termination_by cs.length
decreasing_by
  all_goals first | omega | (simp only [List.length_cons] at *; omega)

/-- Whether a text is a pattern. -/
def isPattern (cs : List Char) : Bool :=
  (readPattern .plain [] .empty [] cs).any (· ≤ 250)

end CommandLink.Pattern
