import CommandLink.Channel.Step

/-!
# What a channel shows

The steps of a channel show events. Put together they are what the channel has written so far
(`Trace.written`), whether it has ended its stream, what it has logged and what its routines have
reported. `Peer` is the other end of the link as far as it takes notice of what is written: it puts
the bytes together to bodies of frames.
-/

namespace CommandLink

variable {ρ : Type}

namespace Event

/-- The bytes that an event writes. -/
def bytes : Event ρ → Bytes
  | .wrote bytes => bytes
  | _ => []

/-- Whether an event ends the stream. -/
def endsStream : Event ρ → Bool
  | .shutWriter => true
  | _ => false

/-- The entry that an event adds to the log. -/
def entry? : Event ρ → Option LogEntry
  | .logged entry => some entry
  | _ => none

/-- The value that an event reports. -/
def report? : Event ρ → Option ρ
  | .reported value => some value
  | _ => none

end Event

/-- What the steps of a channel have shown, in order. -/
abbrev Trace (ρ : Type) := List (Event ρ)

namespace Trace

/-- The bytes that have been written. -/
def written (t : Trace ρ) : Bytes := t.flatMap Event.bytes

/-- Whether the stream has been ended. -/
def isEnded (t : Trace ρ) : Bool := t.any Event.endsStream

/-- The entries of the log. -/
def entries (t : Trace ρ) : List LogEntry := t.filterMap Event.entry?

/-- The values that have been reported. -/
def reports (t : Trace ρ) : List ρ := t.filterMap Event.report?

theorem written_append (s t : Trace ρ) : written (s ++ t) = written s ++ written t :=
  List.flatMap_append

end Trace

/-- The other end of a link. -/
structure Peer where
  /-- It takes notice of what is written. -/
  reads : Bool
  /-- What it has of the next frame. -/
  incomplete : Bytes
  /-- It has seen the end of the stream. -/
  sawEnd : Bool
  deriving DecidableEq, Repr

namespace Peer

/-- The other end of a link that has just been opened. -/
def start (reads : Bool) : Peer := ⟨reads, [], false⟩

/-- Takes notice of what has been shown; the result holds the bodies of the frames that are now
complete. -/
def notice (p : Peer) (t : Trace ρ) : Peer × List Bytes :=
  if p.reads then
    let (bodies, rest) := Frame.bodies (p.incomplete ++ t.written)
    ({ p with incomplete := rest, sawEnd := p.sawEnd || t.isEnded }, bodies)
  else (p, [])

end Peer

end CommandLink
