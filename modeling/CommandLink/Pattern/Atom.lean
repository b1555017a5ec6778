import CommandLink.Bytes
import CommandLink.Taken
import CommandLink.Text.Blank

/-!
# Atoms of patterns

A pattern describes texts. Its atoms are characters, the dot, classes of characters with a name of
one letter, and places between characters. Flags say how an atom is read and what it may be: where
the flag `x` is set, blanks and comments stand between the parts of a pattern.

Patterns know no tables of characters: letters of either case are told apart in ASCII alone, and so
are digits, blanks and the characters of words. What would need a table is therefore no pattern, and
neither is what could match a part of an encoded character.
-/

namespace CommandLink.Pattern

/-- The flags that decide whether a text is a pattern. -/
structure Flags where
  /-- Letters are compared without regard to case. -/
  anyCase : Bool
  /-- Atoms stand for characters, not for bytes. -/
  unicode : Bool
  /-- Blanks and comments are skipped. -/
  spaced : Bool
  deriving DecidableEq, Repr

/-- The flags of a pattern that sets none. -/
def Flags.plain : Flags := ⟨false, true, false⟩

/-! ## Blanks -/

/-- What follows blanks and comments; the first argument says whether a comment has begun, which
ends with its line. -/
def skipSpaced : Bool → List Char → List Char
  | _, [] => []
  | true, c :: cs => skipSpaced (c ≠ '\n') cs
  | false, c :: cs =>
    if Text.isBlank c then skipSpaced false cs
    else if c = '#' then skipSpaced true cs
    else c :: cs

/-- What follows the blanks and comments at the front of a text, if they count as nothing. -/
def skipBlanks (spaced : Bool) (cs : List Char) : List Char :=
  if spaced then skipSpaced false cs else cs

theorem length_skipSpaced_le (comment : Bool) (cs : List Char) :
    (skipSpaced comment cs).length ≤ cs.length := by
  fun_induction skipSpaced comment cs <;> simp_all <;> omega

theorem length_skipBlanks_le (spaced : Bool) (cs : List Char) :
    (skipBlanks spaced cs).length ≤ cs.length := by
  unfold skipBlanks
  split
  · exact length_skipSpaced_le false cs
  · exact Nat.le_refl _

theorem length_lt_of_skipBlanks {spaced : Bool} {c : Char} {cs rest : List Char}
    (h : skipBlanks spaced cs = c :: rest) : rest.length < cs.length := by
  have := length_skipBlanks_le spaced cs
  rw [h, List.length_cons] at this
  omega

/-! ## Atoms -/

/-- An atom of a pattern. -/
inductive Atom where
  /-- A character by its code point; `short` says that it was given by two digits. -/
  | character (code : Nat) (short : Bool)
  /-- The digits, the blanks or the characters of words, or all others. -/
  | named (negated : Bool)
  | dot
  /-- The beginning or the end of a word, or any other place. -/
  | wordEdge
  /-- The beginning or the end of the text or of a line. -/
  | edge
  deriving DecidableEq, Repr

/-- Reads hexadecimal digits, between which blanks may stand. -/
def hexDigits (spaced : Bool) : Nat → Nat → List Char → Option (Nat × List Char)
  | 0, value, cs => some (value, cs)
  | _ + 1, _, [] => none
  | count + 1, value, c :: cs =>
    (Bytes.hexValue? c).bind fun d =>
      hexDigits spaced count (value * 16 + d) (skipBlanks spaced cs)

theorem length_hexDigits_le {spaced : Bool} {count value n : Nat} {cs rest : List Char}
    (h : hexDigits spaced count value cs = some (n, rest)) : rest.length ≤ cs.length := by
  induction count generalizing value cs with
  | zero =>
    simp only [hexDigits, Option.some.injEq, Prod.mk.injEq] at h
    simp [h.2]
  | succ count ih =>
    cases cs with
    | nil => simp [hexDigits] at h
    | cons c cs =>
      obtain ⟨d, -, h⟩ := Option.bind_eq_some_iff.1 h
      have := ih h
      have := length_skipBlanks_le spaced cs
      simp only [List.length_cons]
      omega

/-- The character of some hexadecimal digits. -/
def hexAtom {whole : List Char} (spaced : Bool) (count : Nat) (cs : List Char)
    (h : cs.length < whole.length) : Option (Taken Atom whole) :=
  match reading : hexDigits spaced count 0 (skipBlanks spaced cs) with
  | none => none
  | some (n, rest) =>
    if n.isValidChar then
      have shorter := Nat.le_trans (length_hexDigits_le reading) (length_skipBlanks_le spaced cs)
      some ⟨.character n (count = 2), rest, Nat.lt_of_le_of_lt shorter h⟩
    else none

/-- The control characters that have a letter. -/
def controls : List (Char × Nat) :=
  [('a', 7), ('t', 9), ('n', 10), ('v', 11), ('f', 12), ('r', 13)]

/-- The atom that a backslash begins. Letters and digits have meanings of their own there, and other
characters of ASCII stand for themselves. -/
def escape {whole : List Char} (spaced : Bool) (cs : List Char) (h : cs.length < whole.length) :
    Option (Taken Atom whole) :=
  match cs with
  | [] => none
  | c :: cs =>
    have hc : cs.length < whole.length := Nat.lt_of_succ_lt h
    let plain (atom : Atom) : Option (Taken Atom whole) := some ⟨atom, cs, hc⟩
    if c = 'x' then hexAtom spaced 2 cs hc
    else if c = 'u' then hexAtom spaced 4 cs hc
    else if c = 'U' then hexAtom spaced 8 cs hc
    else if c = 'd' || c = 's' || c = 'w' then plain (.named false)
    else if c = 'D' || c = 'S' || c = 'W' then plain (.named true)
    else if c = 'b' || c = 'B' || c = '<' || c = '>' then plain .wordEdge
    else if c = 'A' || c = 'z' then plain .edge
    else match controls.lookup c with
      | some code => plain (.character code false)
      | none =>
        if c.isAlphanum || 128 ≤ c.toNat then none else plain (.character c.toNat false)

/-- The atom at the front of a text. -/
def atom (spaced : Bool) : (cs : List Char) → Option (Taken Atom cs)
  | [] => none
  | c :: cs =>
    if c = '\\' then escape spaced cs (by simp)
    else
      some ⟨if c = '.' then .dot
        else if c = '^' || c = '$' then .edge
        else .character c.toNat false, cs, by simp⟩

/-- Whether an atom may stand in a pattern under some flags. -/
def Atom.isAllowed (flags : Flags) : Atom → Bool
  | .character code short =>
    if flags.unicode then !flags.anyCase else !(short && 128 ≤ code)
  | .named negated => !flags.unicode && !negated
  | .dot => flags.unicode
  | .wordEdge => !flags.unicode
  | .edge => true

end CommandLink.Pattern
