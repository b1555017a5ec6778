import CommandLink.Text.Printable
import CommandLink.Text.Combining

/-!
# Quoted texts

The form in which diagnostics show a text: between double quotes, with an escape for every
character that could not be read back from the page.
-/

namespace CommandLink.Text

/-- A number in lower-case hexadecimal, without leading zeros. -/
def hexNumber (n : Nat) : List Char := Nat.toDigits 16 n

/-- The form of one character inside quotes: a letter escape for the quote, the backslash and the
common controls, the code point for whatever else has no visible form of its own. -/
def quotedChar (c : Char) : List Char :=
  if c = '"' then ['\\', '"']
  else if c = '\\' then ['\\', '\\']
  else if c = '\n' then ['\\', 'n']
  else if c = '\r' then ['\\', 'r']
  else if c = '\t' then ['\\', 't']
  else if c.toNat = 0 then ['\\', '0']
  else if isPrintable c && !isCombining c then [c]
  else ['\\', 'u', '{'] ++ hexNumber c.toNat ++ ['}']

/-- A text between double quotes. -/
def quoted (s : String) : String :=
  String.ofList ('"' :: s.toList.flatMap quotedChar ++ ['"'])

/-- An optional value, shown by name. -/
def shownOption (value : Option String) : String :=
  match value with
  | none => "None"
  | some text => "Some(" ++ text ++ ")"

/-- A list of shown values between brackets. -/
def shownList (values : List String) : String :=
  "[" ++ String.intercalate ", " values ++ "]"

end CommandLink.Text
