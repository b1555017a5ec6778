import CommandLink.Net.Punycode
import CommandLink.Text.Direction
import CommandLink.Text.Folded
import CommandLink.Text.Joining
import CommandLink.Text.Normal

/-!
# Names of hosts

A name is a row of labels between full stops. It is compared without regard to case and to variants
of its characters, and it is written in ASCII: a label outside ASCII follows the mark `xn--` in
letters, digits and hyphens. A label that is given in that form must be the one that is written for
the label it stands for.

A label outside ASCII does not begin with a mark, holds the joiners only where they change how
letters are joined, and is not longer than 1000 characters. If any label is written from right to
left, each of them keeps to one direction.
-/

namespace CommandLink.Net.Name

open Text

/-- Whether a character may not stand in a name. -/
def isForbidden (c : Char) : Bool :=
  if c.toNat < 128 then c.toNat ≤ 32 || c.toNat = 127 || "#%/:<>?@[\\]^|".toList.contains c
  else !isNameCharacter c

def isAscii (cs : List Char) : Bool := cs.all fun c => c.toNat < 128

/-- A text in the form in which names are compared. -/
def comparable (cs : List Char) : List Char := normal (cs.flatMap folded)

/-! ## Labels -/

/-- A label, as it is read and as it is written in ASCII. -/
structure Label where
  text : List Char
  ascii : List Char
  deriving DecidableEq, Repr

/-- What a label that stands for one outside ASCII begins with. -/
def asciiMark : List Char := "xn--".toList

/-- The label that a text in comparable form names. -/
def Label.ofText? (text : List Char) : Option Label :=
  if asciiMark.isPrefixOf text then
    if !isAscii text || text.getLast? = some '-' || 2004 < text.length then none
    else
      (Punycode.decode? (text.drop 4)).bind fun name =>
        if comparable name = name && !name.any isForbidden then some ⟨name, text⟩ else none
  else if isAscii text then some ⟨text, text⟩
  else some ⟨text, asciiMark ++ Punycode.encode text⟩

/-! ## Joiners -/

def nonJoiner : Char := Char.ofNat 0x200C

def joiner : Char := Char.ofNat 0x200D

/-- Whether the nearest character that is not transparent joins. -/
def nearestJoins (joins : Char → Bool) : List Char → Bool
  | [] => false
  | c :: cs => joins c || (isTransparent c && nearestJoins joins cs)

/-- Whether a joiner has its place between what precedes it, last first, and what follows it: behind
a consonant that has lost its vowel, or, to part them, between letters that would be joined. -/
def joinerFits (before : List Char) (c : Char) (after : List Char) : Bool :=
  match before with
  | [] => false
  | previous :: _ =>
    isVirama previous ||
      (c = nonJoiner && nearestJoins joinsNext before && nearestJoins joinsPrevious after)

/-- Whether all joiners of a text have their places; `before` precedes it, last first. -/
def joinersFit (before : List Char) : List Char → Bool
  | [] => true
  | c :: cs =>
    ((c ≠ nonJoiner && c ≠ joiner) || joinerFits before c cs) && joinersFit (c :: before) cs

/-- Whether a label outside ASCII is well formed. -/
def Label.isWellFormed (label : Label) : Bool :=
  !(label.text.head?.any isMark) && joinersFit [] label.text &&
    (isAscii label.text || label.text.length ≤ 1000)

/-! ## Directions -/

/-- Whether a label holds something that is written from right to left. -/
def Label.turns (label : Label) : Bool :=
  label.text.any fun c => direction c = .rightToLeft || direction c = .arabicDigit

/-- Whether the directions of a label agree: it begins with a letter and ends, marks aside, with a
letter of the same direction or a digit, holds no letter of the other direction, and has digits of
one kind. -/
def agree : List Direction → Bool
  | [] => true
  | first :: rest =>
    let marked := rest.reverse.dropWhile (· = .mark)
    match first with
    | .leftToRight =>
      (marked.head?.all fun d => d = .leftToRight || d = .digit) &&
        marked.all fun d => d ≠ .rightToLeft && d ≠ .arabicDigit
    | .rightToLeft =>
      (marked.head?.all fun d => d = .rightToLeft || d = .digit || d = .arabicDigit) &&
        (marked.all fun d => d ≠ .leftToRight) &&
        !(marked.contains .digit && marked.contains .arabicDigit)
    | _ => false

/-! ## Names -/

/-- A name in ASCII. -/
def ascii? (text : List Char) : Option (List Char) :=
  let text := comparable text
  if text.any isForbidden then none
  else
    ((splitOn '.' text).mapM Label.ofText?).bind fun labels =>
      let directed := !labels.any Label.turns || labels.all fun l => agree (l.text.map direction)
      if labels.all Label.isWellFormed && directed then
        some (['.'].intercalate (labels.map Label.ascii))
      else none

end CommandLink.Net.Name
