import CommandLink.Json.Basic
import CommandLink.Text.Quoted
import CommandLink.Text.Utf8

/-!
# Written documents

`Json.chars` writes a document on one line without blanks. `prettyTexts` writes an object of texts
with one member on each line.
-/

namespace CommandLink.Json

/-- The two low hexadecimal digits of a control character. -/
def controlDigits (n : Nat) : List Char := [Bytes.hexDigit (n / 16 % 16), Bytes.hexDigit (n % 16)]

/-- The written form of one character of a text. Only the quote, the backslash and the controls
are escaped. -/
def textChar (c : Char) : List Char :=
  if c = '"' then ['\\', '"']
  else if c = '\\' then ['\\', '\\']
  else if c = '\n' then ['\\', 'n']
  else if c = '\r' then ['\\', 'r']
  else if c = '\t' then ['\\', 't']
  else if c.toNat = 8 then ['\\', 'b']
  else if c.toNat = 12 then ['\\', 'f']
  else if c.toNat < 32 then ['\\', 'u', '0', '0'] ++ controlDigits c.toNat
  else [c]

/-- A text between double quotes. -/
def textChars (s : String) : List Char := '"' :: s.toList.flatMap textChar ++ ['"']

mutual

/-- A document without blanks. -/
def chars : Json → List Char
  | .null => ['n', 'u', 'l', 'l']
  | .bool true => ['t', 'r', 'u', 'e']
  | .bool false => ['f', 'a', 'l', 's', 'e']
  | .num value => value.chars
  | .str value => textChars value
  | .arr [] => ['[', ']']
  | .arr (item :: items) => '[' :: chars item ++ moreItems items
  | .obj [] => ['{', '}']
  | .obj ((key, value) :: members) => '{' :: textChars key ++ ':' :: chars value ++ moreMembers members

/-- Further items of an array and its end. -/
def moreItems : List Json → List Char
  | [] => [']']
  | item :: items => ',' :: chars item ++ moreItems items

/-- Further members of an object and its end. -/
def moreMembers : List (String × Json) → List Char
  | [] => ['}']
  | (key, value) :: members => ',' :: textChars key ++ ':' :: chars value ++ moreMembers members

end

/-- The text of a document. -/
def render (v : Json) : String := String.ofList v.chars

/-- The bytes of a document. -/
def bytes (v : Json) : Bytes := Text.Utf8.encode v.chars

/-- One member of an object of texts on a line of its own. -/
def prettyMember (entry : String × String) : List Char :=
  [' ', ' '] ++ textChars entry.1 ++ [':', ' '] ++ textChars entry.2

/-- An object of texts, one member on each line. -/
def prettyTexts (entries : List (String × String)) : List Char :=
  match entries with
  | [] => ['{', '}']
  | entries => ['{', '\n'] ++ [',', '\n'].intercalate (entries.map prettyMember) ++ ['\n', '}']

end CommandLink.Json
