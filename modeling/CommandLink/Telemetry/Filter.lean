import CommandLink.Pattern.Expression
import CommandLink.Text.Integer
import CommandLink.Text.Split
import CommandLink.Text.Utf8

/-!
# Log filters

A log filter is a list of directives with commas between them. A directive is a level, or a target
with a span in brackets and a level after an equals sign, each of them optional. A span may have a
field in braces, whose value is a number, a truth value or a pattern.

A directive is read without the blanks at its ends. What is read in it is cut from the directive as
it was given, though, at the places that it has without its blanks; so blanks behind a level are
part of it, and blanks in front move whatever is cut out.

Main statement: `isFilter` says whether a filter is well formed.
-/

namespace CommandLink.Telemetry

/-! ## Levels -/

/-- The names of the levels. -/
def levelNames : List (List Char) :=
  ["error", "warn", "info", "debug", "trace", "off"].map String.toList

/-- Whether a text names a level: by its name in either case, by a number up to five, or by
nothing. -/
def isLevel (cs : List Char) : Bool :=
  cs.isEmpty || levelNames.contains (cs.map Char.toLower) ||
    (match Text.natural? cs with
      | some n => n ≤ 5
      | none => false)

/-! ## Fields -/

/-- Whether a text is digits, perhaps with an exponent behind them. -/
def isScaled (cs : List Char) : Bool :=
  match cs.dropWhile Text.isDigit with
  | [] => true
  | c :: cs =>
    (c = 'e' || c = 'E') && match cs with
      | '+' :: digits => (Text.digits? digits).isSome
      | '-' :: digits => (Text.digits? digits).isSome
      | digits => (Text.digits? digits).isSome

/-- Whether a text is a number without a sign: a decimal fraction with digits before or behind its
point, infinite, or none at all. -/
def isUnsigned (cs : List Char) : Bool :=
  let word := cs.map Char.toLower
  ["inf", "infinity", "nan"].contains (String.ofList word) ||
    match cs.takeWhile Text.isDigit, cs.dropWhile Text.isDigit with
    | [], '.' :: c :: cs => Text.isDigit c && isScaled cs
    | [], _ => false
    | _, '.' :: cs => isScaled cs
    | _, _ => isScaled cs

/-- Whether a field may have a value. Numbers and truth values without a plus sign are patterns. -/
def isValue (cs : List Char) : Bool :=
  Pattern.isPattern cs ||
    match cs with
    | '+' :: cs => isUnsigned cs
    | _ => false

/-- Whether a text is a field: a name, and a value between the first equals sign and the second. -/
def isField (cs : List Char) : Bool :=
  cs ≠ [] &&
    match Text.splitOn '=' cs with
    | _ :: value :: _ => isValue value
    | _ => true

/-! ## Directives -/

/-- Where the reading of a directive stands. -/
inductive DirectiveState where
  | start
  /-- Within a target, which may turn out to be a level. -/
  | target
  /-- Within the name of a span. -/
  | span
  /-- Within a field of a span that begins at a place. -/
  | field (first : Nat)
  /-- After the fields of a span. -/
  | fields
  /-- After a span. -/
  | afterSpan
  /-- Within a level that begins at a place. -/
  | level (first : Nat)
  | malformed
  deriving DecidableEq, Repr

/-- Whether a directive may begin with a character. -/
def startsTarget (c : Char) : Bool := c = '-' || c = ':' || c = '_' || Text.isAlphanumeric c

/-- The text of a directive between two places. -/
def cut (given : Bytes) (first last : Nat) : Option (List Char) :=
  Text.Utf8.decode? ((given.take last).drop first)

namespace DirectiveState

/-- Reads one more character, which stands at a place of a directive. -/
def next (given : Bytes) (state : DirectiveState) (place : Nat) (c : Char) : DirectiveState :=
  match state with
  | .start => if c = '[' then .span else if startsTarget c then .target else .malformed
  | .target => if c = '=' then .level (place + 1) else if c = '[' then .span else .target
  | .span => if c = ']' then .afterSpan else if c = '\x7b' then .field (place + 1) else .span
  | .field first =>
    if c ≠ '\x7d' then .field first
    else if (cut given first place).any isField then .fields
    else .malformed
  | .fields => if c = ']' then .afterSpan else .malformed
  | .afterSpan => if c = '=' then .level (place + 1) else .malformed
  | .level first => .level first
  | .malformed => .malformed

/-- Whether a directive may end here. -/
def accepts (given : Bytes) : DirectiveState → Bool
  | .target => true
  | .afterSpan => true
  | .level first => (cut given first given.length).any isLevel
  | _ => false

/-- Reads characters from a place on. -/
def read (given : Bytes) (state : DirectiveState) (place : Nat) : List Char → DirectiveState
  | [] => state
  | c :: cs => read given (state.next given place c) (place + c.utf8Size) cs

end DirectiveState

/-- Whether a text is a directive. -/
def isDirective (cs : List Char) : Bool :=
  let given := Text.Utf8.encode cs
  (DirectiveState.start.read given 0 (Text.trimChars cs)).accepts given

/-- Whether a text is a filter. -/
def isFilter (filter : String) : Bool :=
  ((Text.splitOn ',' filter.toList).filter (· ≠ [])).all isDirective

end CommandLink.Telemetry
