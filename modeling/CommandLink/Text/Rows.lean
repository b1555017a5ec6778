import CommandLink.Text.Split

/-!
# Rows of words

Properties of characters whose values are texts are given as rows: the words of a row, between
blanks, belong to consecutive characters.
-/

namespace CommandLink.Text

/-- Words for consecutive characters, from a first one on. -/
structure Row where
  first : Nat
  words : List (List Char)

/-- The row that a text of words writes. -/
def Row.ofText (row : Nat × String) : Row :=
  ⟨row.1, (splitOn ' ' row.2.toList).filter (· ≠ [])⟩

/-- The word for a character. -/
def Row.word? (row : Row) (code : Nat) : Option (List Char) :=
  if row.first ≤ code then row.words[code - row.first]? else none

/-- The word for a character in the first row that has one. -/
def wordIn? (rows : List Row) (code : Nat) : Option (List Char) :=
  rows.findSome? (·.word? code)

end CommandLink.Text
