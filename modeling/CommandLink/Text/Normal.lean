import CommandLink.Text.Composites
import CommandLink.Text.MarkClass

/-!
# Normal form

One spelling for texts that read alike: every character is taken apart into letter and marks, the
marks of a letter are put in the order of their classes, and what can be put together is put
together again.

Main statements: the marks are only moved, `perm_ordered`, and a text in ASCII is in normal form,
`normal_ascii`.
-/

namespace CommandLink.Text

/-! ## Taking apart -/

/-- The parts of a Korean syllable: leading consonant, vowel and, where there is one, final
consonant. -/
def syllableParts (index : Nat) : List Char :=
  let final := index % 28
  [Char.ofNat (0x1100 + index / 588), Char.ofNat (0x1161 + index % 588 / 28)] ++
    if final = 0 then [] else [Char.ofNat (0x11A7 + final)]

/-- A character taken apart by one step. -/
def apart (c : Char) : List Char :=
  let n := c.toNat
  if n < 0xC0 then [c]
  else if 0xAC00 ≤ n && n ≤ 0xD7A3 then syllableParts (n - 0xAC00)
  else match wordIn? replacedRows n with
    | some word => word
    | none => match parts? c with
      | some (letter, mark) => [letter, mark]
      | none => [c]

/-- A text taken apart for good: no character has parts of parts of parts of parts. -/
def decomposed (cs : List Char) : List Char :=
  (((cs.flatMap apart).flatMap apart).flatMap apart).flatMap apart

/-! ## Ordering the marks -/

/-- Places a character before others, behind the marks of lower class that they begin with if it is
a mark itself. -/
def placed (c : Char) : List Char → List Char
  | [] => [c]
  | d :: ds =>
    if 0 < markClass d && markClass d < markClass c then d :: placed c ds else c :: d :: ds

/-- A text with the marks of each letter in the order of their classes. -/
def ordered (cs : List Char) : List Char := cs.foldr placed []

theorem perm_placed (c : Char) (ds : List Char) : (placed c ds).Perm (c :: ds) := by
  induction ds with
  | nil => exact .refl _
  | cons d ds ih =>
    unfold placed
    split
    · exact (ih.cons d).trans (.swap c d ds)
    · exact .refl _

theorem perm_ordered (cs : List Char) : (ordered cs).Perm cs := by
  induction cs with
  | nil => exact .refl _
  | cons c cs ih => exact (perm_placed c (ordered cs)).trans (ih.cons c)

/-! ## Putting together -/

/-- A Korean syllable put together from a leading consonant and a vowel, or from a syllable without
a final consonant and one. -/
def syllable? (a b : Nat) : Option Char :=
  if 0x1100 ≤ a && a < 0x1113 && 0x1161 ≤ b && b < 0x1176 then
    some (Char.ofNat (0xAC00 + ((a - 0x1100) * 21 + (b - 0x1161)) * 28))
  else if 0xAC00 ≤ a && a ≤ 0xD7A3 && (a - 0xAC00) % 28 = 0 && 0x11A8 ≤ b && b < 0x11C3 then
    some (Char.ofNat (a + (b - 0x11A7)))
  else none

/-- What two characters that follow each other become. -/
def together? (a b : Char) : Option Char :=
  if b.toNat < 0x300 then none
  else match syllable? a.toNat b.toNat with
    | some c => some c
    | none => composite? a b

/-- Whether a mark that stands last among those kept at a letter keeps a character from joining the
letter: one of the same or a higher class does. -/
def blocks (kept : List Char) (c : Char) : Bool :=
  match kept with
  | [] => false
  | d :: _ => markClass c ≤ markClass d

/-- Joins what follows a letter to it as far as possible; `kept` holds, last first, the marks that
did not join. -/
def joined (letter : Char) (kept : List Char) : List Char → List Char
  | [] => letter :: kept.reverse
  | c :: cs =>
    match if blocks kept c then none else together? letter c with
    | some both => joined both kept cs
    | none =>
      if markClass c = 0 then letter :: kept.reverse ++ joined c [] cs
      else joined letter (c :: kept) cs

/-- A text put together: marks before the first letter stay as they are. -/
def composed : List Char → List Char
  | [] => []
  | c :: cs => if markClass c = 0 then joined c [] cs else c :: composed cs

/-- The normal form of a text. -/
def normal (cs : List Char) : List Char := composed (ordered (decomposed cs))

/-! ## Texts in ASCII -/

theorem markClass_ascii {c : Char} (h : c.toNat < 128) : markClass c = 0 := by
  have : c.toNat < 0x300 := by omega
  simp [markClass, this]

theorem flatMap_apart_ascii {cs : List Char} (h : ∀ c ∈ cs, c.toNat < 128) :
    cs.flatMap apart = cs := by
  induction cs with
  | nil => rfl
  | cons c cs ih =>
    have hc : c.toNat < 0xC0 := by have := h c (by simp); omega
    rw [List.flatMap_cons, ih fun d hd => h d (by simp [hd])]
    simp [apart, hc]

theorem ordered_ascii {cs : List Char} (h : ∀ c ∈ cs, c.toNat < 128) : ordered cs = cs := by
  induction cs with
  | nil => rfl
  | cons c cs ih =>
    have e : ordered (c :: cs) = placed c (ordered cs) := rfl
    rw [e, ih fun d hd => h d (by simp [hd])]
    cases cs with
    | nil => rfl
    | cons d ds => simp [placed, markClass_ascii (h d (by simp))]

theorem joined_ascii {cs : List Char} (h : ∀ c ∈ cs, c.toNat < 128) (letter : Char) :
    joined letter [] cs = letter :: cs := by
  induction cs generalizing letter with
  | nil => rfl
  | cons c cs ih =>
    have hc := h c (by simp)
    have hm : c.toNat < 0x300 := by omega
    simp [joined, blocks, together?, hm, markClass_ascii hc, ih (fun d hd => h d (by simp [hd])) c]

/-- A text in ASCII is in normal form. -/
theorem normal_ascii {cs : List Char} (h : ∀ c ∈ cs, c.toNat < 128) : normal cs = cs := by
  have apart_eq := flatMap_apart_ascii h
  rw [normal, decomposed, apart_eq, apart_eq, apart_eq, apart_eq, ordered_ascii h]
  cases cs with
  | nil => rfl
  | cons c cs =>
    have rest : ∀ d ∈ cs, d.toNat < 128 := fun d hd => h d (by simp [hd])
    simp [composed, markClass_ascii (h c (by simp)), joined_ascii rest]

end CommandLink.Text
