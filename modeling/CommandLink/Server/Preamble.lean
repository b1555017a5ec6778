import CommandLink.Telemetry.Security
import CommandLink.Text.Repaired

/-!
# The opening of a direct connection

A direct connection starts with one line that says what it is for. The line is read byte by byte, so
that what follows it stays for the channel, and no further than a line may be long. Carriage returns
at its end do not count.
-/

namespace CommandLink.Server

/-- The line that opens a direct connection. -/
def preamble : String := "Protocol:CLI-connect"

/-- What a client writes to open a direct connection. -/
def greeting : Bytes := Text.Utf8.ofString (preamble ++ "\n")

/-- The most bytes that are read for the line. -/
def preambleLimit : Nat := 64

/-- What the bytes so far say about a connection. -/
inductive Preamble where
  /-- The bytes of the line so far, last first. -/
  | reading (line : Bytes)
  | accepted
  /-- Another line, or none. -/
  | rejected (line : String)
  deriving DecidableEq, Repr

namespace Preamble

/-- Nothing has been read. -/
def start : Preamble := .reading []

/-- A text without the carriage returns at its end. -/
def withoutReturns (text : String) : String :=
  String.ofList (text.toList.reverse.dropWhile (· = '\r')).reverse

/-- A whole line, last byte first. -/
def ofLine (line : Bytes) : Preamble :=
  let text := Text.repaired line.reverse
  if withoutReturns text = preamble then .accepted else .rejected text

/-- One more byte. -/
def push (line : Bytes) (b : UInt8) : Preamble :=
  if b = 10 then ofLine line
  else if line.length + 1 < preambleLimit then .reading (b :: line)
  else .rejected (Text.repaired (b :: line).reverse)

/-- Reads as many bytes as it takes; the others are left. -/
def read : Preamble → Bytes → Preamble × Bytes
  | .reading line, b :: bytes => (push line b).read bytes
  | p, bytes => (p, bytes)
termination_by structural _ bytes => bytes

/-- Reads from a stream that arrives in pieces; what it does not take is left in its pieces. -/
def readAll : Preamble → List Bytes → Preamble × List Bytes
  | p, [] => (p, [])
  | p, piece :: pieces =>
    match p.read piece with
    | (.reading line, _) => readAll (.reading line) pieces
    | (decided, rest) => (decided, rest :: pieces)

/-- What the end of the stream means. -/
def finish : Preamble → Preamble
  | .reading _ => .rejected "<read failed: unexpected end of file>"
  | p => p

/-- What is logged when a connection does not open as it should. -/
def rejection (peer : String) (line : Option String) : SecurityRecord :=
  match line with
  | some line => ⟨.preambleRejected, "unexpected preamble", [("peer", peer), ("line", line)]⟩
  | none => ⟨.preambleRejected, "preamble timed out", [("peer", peer)]⟩

end Preamble

end CommandLink.Server
