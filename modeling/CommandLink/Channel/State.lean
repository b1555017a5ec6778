import CommandLink.Channel.Routine
import CommandLink.Frame.Encode
import CommandLink.Frame.Stream
import CommandLink.Table
import CommandLink.Time.Clock
import CommandLink.Transport.Error

/-!
# The state of a channel

A channel is one end of a link. Its *reader* takes frames from the incoming stream, its *heartbeat*
pings the other end of a tunneled link, and every request of the other end as well as everything
started on this end runs as a *task* of its own. All of them write through one writer, which one of
them holds at a time.

What an agent is in the middle of is data: `SendStage` for a frame on its way out, `CallStage` for a
call, `WaitStage` for a property that is waited for, `CloseStage` for closing. A stage is left by one
step, and between two steps of an agent any other may go on.
-/

namespace CommandLink

/-- Who acts on a channel. -/
inductive Agent where
  | reader
  | heartbeat
  | task (number : Nat)
  deriving DecidableEq, Repr

/-- A frame on its way out. -/
inductive SendStage where
  | encode (frame : Frame)
  /-- In line for the writer. -/
  | queued (bytes : Bytes)
  /-- Holding the writer, with these bytes still to write. -/
  | write (rest : Bytes)
  /-- Holding the writer, with everything written. -/
  | flush

/-- The closing of a channel. -/
inductive CloseStage where
  /-- Only the first to get here goes on. -/
  | enter
  | cancel
  | notify
  | snapshot
  /-- The calls to fail one by one. -/
  | drain (ids : List CallId)
  /-- In line for the writer, until a time. -/
  | lock (deadline : Nat)
  /-- Holding the writer, which is shut. -/
  | shut
  | dropGuard
  | abort
  deriving DecidableEq, Repr

/-- A call to the other end. -/
inductive CallStage where
  | check (call : Call)
  | draw (call : Call)
  | register (id : CallId) (call : Call)
  | recheck (id : CallId) (call : Call)
  | send (id : CallId) (stage : SendStage)
  /-- The request was not sent. -/
  | giveUp (id : CallId) (error : ChannelError)
  /-- The request was not sent because the link failed, and the channel closes. -/
  | shut (error : ChannelError) (stage : CloseStage)
  | await (id : CallId)

/-- A property that is waited for. The flags say whether something has changed since the waiting
began. -/
inductive WaitStage where
  | enter
  | look (notified : Bool)
  /-- Nothing has been found. -/
  | check (notified : Bool)
  | asleep (notified : Bool)
  deriving DecidableEq, Repr

/-- Something has changed. -/
def WaitStage.wake : WaitStage → WaitStage
  | .enter => .enter
  | .look _ => .look true
  | .check _ => .check true
  | .asleep _ => .asleep true

/-- What a task is in the middle of, and how its routine goes on after that. -/
inductive Stage (ω ρ : Type) where
  | ready (routine : Routine ω ρ Unit)
  | call (stage : CallStage) (next : Except ChannelError Reply → Routine ω ρ Unit)
  | publish (stage : SendStage) (next : Except ChannelError Unit → Routine ω ρ Unit)
  /-- `last` says that the answer that could not be sent has been replaced by its error. -/
  | respond (id : CallId) (last : Bool) (stage : SendStage) (next : Unit → Routine ω ρ Unit)
  | wait (name : String) (deadline : Option Nat) (stage : WaitStage)
      (next : Option (Except ChannelError Json) → Routine ω ρ Unit)
  | close (stage : CloseStage) (next : Unit → Routine ω ρ Unit)
  | awaitClosed (next : Unit → Routine ω ρ Unit)
  | sleep (time : Nat) (next : Unit → Routine ω ρ Unit)
  | pause (next : Unit → Routine ω ρ Unit)
  | hang
  | done

/-- One of the tasks of a channel. -/
structure Task (ω ρ : Type) where
  /-- Background tasks end with the channel. -/
  background : Bool
  stage : Stage ω ρ

/-- What the reader is in the middle of. -/
inductive ReaderStage where
  /-- Reading, with this much of the next frame. -/
  | read (incomplete : Frame.Partial)
  | close (stage : CloseStage)
  | stopped

/-- What the heartbeat is in the middle of. -/
inductive HeartbeatStage where
  /-- Waiting for the time of the next ping. -/
  | wait (next : Nat)
  /-- Sending the ping of a time. -/
  | send (stage : SendStage) (time : Nat)
  | stopped

/-- The one writer of a channel. -/
structure Writer where
  /-- It has not been shut. -/
  isOpen : Bool
  holder : Option Agent
  /-- Who waits for it, in order of arrival. -/
  line : List Agent
  deriving DecidableEq, Repr

namespace Writer

/-- Joins the line. -/
def enqueue (w : Writer) (a : Agent) : Writer := { w with line := w.line ++ [a] }

/-- Leaves the line, or gives the writer back. -/
def leave (w : Writer) (a : Agent) : Writer :=
  { w with
    holder := if w.holder = some a then none else w.holder
    line := w.line.filter (· ≠ a) }

/-- Whether an agent is next to hold the writer, and nobody does. -/
def isFreeFor (w : Writer) (a : Agent) : Bool := w.holder = none && w.line.head? = some a

/-- Takes the writer. -/
def take (w : Writer) (a : Agent) : Writer :=
  { w with holder := some a, line := w.line.filter (· ≠ a) }

end Writer

/-- What does not change about a channel. -/
structure ChannelSetup (ω ρ : Type) where
  id : String
  kind : TransportKind
  /-- The largest frame body. -/
  frameLimit : Nat
  /-- The milliseconds between two pings; without any, none is sent. -/
  heartbeat : Nat
  handler : Handler ω ρ

/-- The milliseconds between two pings on a link that is opened at a time of the clock. There are none
if no time is to pass between them, or if the clock does not get to the first. -/
def pingPeriod (now : ClockTime) (period : Duration) : Nat :=
  match now.after? period with
  | none => 0
  | some _ => period / 1000000

/-- How long closing waits for the writer, in milliseconds. -/
def writerPatience : Nat := 2000

/-- One end of a link. -/
structure Channel (ω ρ : Type) where
  setup : ChannelSetup ω ρ
  world : ω
  /-- The time in milliseconds. -/
  clock : Nat
  /-- The identifier of the next call. -/
  nextId : CallId
  /-- The calls that wait for their response, and who made them. -/
  pending : Table CallId Agent
  /-- The results that have arrived and not been looked at, by those who made the calls. -/
  arrived : Table Agent (Except ChannelError Reply)
  /-- What the other end has published. -/
  properties : Table String Json
  /-- Closing has begun. -/
  closing : Bool
  /-- Everyone has been told that closing has begun. -/
  cancelled : Bool
  writer : Writer
  /-- Something has to be ended with the link. -/
  guarded : Bool
  /-- What has arrived on the incoming stream and not been read. -/
  inbox : Bytes
  /-- Nothing more will arrive. -/
  inboxEnded : Bool
  reader : ReaderStage
  heartbeat : HeartbeatStage
  tasks : List (Task ω ρ)

namespace Channel

variable {ω ρ : Type}

/-- A channel that has just been opened. -/
def start (setup : ChannelSetup ω ρ) (world : ω) (guarded : Bool) : Channel ω ρ where
  setup := setup
  world := world
  clock := 0
  nextId := 1
  pending := .empty
  arrived := .empty
  properties := .empty
  closing := false
  cancelled := false
  writer := ⟨true, none, []⟩
  guarded := guarded
  inbox := []
  inboxEnded := false
  reader := .read .start
  heartbeat := match setup.kind with
    | .tunneled => if setup.heartbeat = 0 then .stopped else .wait setup.heartbeat
    | .direct => .stopped
  tasks := []

/-- How a channel is shown in diagnostics. -/
def shown (c : Channel ω ρ) : String :=
  shownRecord "Channel"
    [("id", Text.quoted c.setup.id), ("kind", c.setup.kind.shown),
      ("closed", if c.closing then "true" else "false"),
      ("pending", Text.decimal c.pending.size)]

/-- What the other end has published under a name. -/
def property? (c : Channel ω ρ) (name : String) : Option Json := c.properties.get? name

/-- Starts a task. -/
def spawn (c : Channel ω ρ) (background : Bool) (routine : Routine ω ρ Unit) : Channel ω ρ :=
  { c with tasks := c.tasks ++ [⟨background, .ready routine⟩] }

/-- Puts a task into another stage. -/
def setStage (c : Channel ω ρ) (number : Nat) (stage : Stage ω ρ) : Channel ω ρ :=
  { c with tasks := c.tasks.modify number fun t => { t with stage := stage } }

/-- Tells a task that something has changed, if it waits for a property. -/
def Stage.wake : Stage ω ρ → Stage ω ρ
  | .wait name deadline stage next => .wait name deadline stage.wake next
  | stage => stage

/-- Tells everyone who waits for a property that something has changed. -/
def wakeAll (c : Channel ω ρ) : Channel ω ρ :=
  { c with tasks := c.tasks.map fun t => { t with stage := Stage.wake t.stage } }

/-- Ends an agent that runs in the background: it leaves the writer and does nothing more. -/
def endAgent (c : Channel ω ρ) (a : Agent) : Channel ω ρ :=
  let c := { c with writer := c.writer.leave a }
  match a with
  | .reader => { c with reader := .stopped }
  | .heartbeat => { c with heartbeat := .stopped }
  | .task number => c.setStage number .done

/-- Everyone who runs in the background. -/
def backgroundAgents (c : Channel ω ρ) : List Agent :=
  .reader :: .heartbeat ::
    (c.tasks.zipIdx.filter fun t => t.1.background).map fun t => .task t.2

/-- Ends everyone who runs in the background, but for one. -/
def endOthers (c : Channel ω ρ) (a : Agent) : Channel ω ρ :=
  (c.backgroundAgents.filter (· ≠ a)).foldl endAgent c

end Channel

end CommandLink
