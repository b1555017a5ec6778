import CommandLink.Channel.Step

/-!
# A schedule for channels

One particular way to run a channel: those who can go on do so in turn, in the order in which they
became able to, each until it has to wait for something. `Session.settle` runs until nobody can go
on, and `Session.advance` lets time pass. Those who wait for a time go on when it has come and nobody
else can, in the order in which they began to wait. Every step of a session is a step of the channel
(`Session.perform`).
-/

namespace CommandLink

/-- What the link does with the bytes that are written to it. -/
structure Outlet where
  /-- How many bytes it still takes; without a number it takes any. -/
  room : Option Nat
  /-- It refuses all bytes. -/
  broken : Bool
  deriving DecidableEq, Repr

/-- A channel on its link, with those who are about to go on, and what has been shown so far, last
first. -/
structure Session (ω ρ : Type) where
  channel : Channel ω ρ
  outlet : Outlet
  /-- Those who can go on, in the order in which they became able to. -/
  queue : List Agent
  /-- Those who wait for a time, in the order in which they began to. -/
  sleepers : List Agent
  /-- The times up to this one have come for those who wait. It may be behind the clock. -/
  due : Nat
  events : List (Event ρ)

/-- The agent that an action is a step of. -/
def Action.agent? {ω ρ : Type} : Action ω ρ → Option Agent
  | .agent a _ => some a
  | _ => none

namespace Channel

variable {ω ρ : Type}

/-! ## How agents go on

Each of these is none while the agent has to wait. The times up to `due` have come. -/

/-- How an agent goes on with a frame on its way out. -/
def chooseSend (c : Channel ω ρ) (outlet : Outlet) (a : Agent) : SendStage → Option Choice
  | .encode _ => some .go
  | .queued _ =>
    if c.cancelled then some .abandon
    else if c.writer.isFreeFor a then some .go
    else none
  | .write rest =>
    if c.cancelled then some .abandon
    else if outlet.broken then some (.fail .brokenPipe)
    else match outlet.room with
      | none => some (.write rest.length)
      | some 0 => none
      | some (n + 1) => some (.write (Nat.min (n + 1) rest.length))
  | .flush => some .go

/-- How an agent goes on with closing. -/
def chooseClose (c : Channel ω ρ) (due : Nat) (a : Agent) : CloseStage → Option Choice
  | .lock deadline =>
    if c.writer.isFreeFor a then some .go
    else if deadline ≤ due then some .expire
    else none
  | _ => some .go

/-- How an agent goes on with a call. -/
def chooseCall (c : Channel ω ρ) (outlet : Outlet) (due : Nat) (a : Agent) :
    CallStage → Option Choice
  | .send _ stage => c.chooseSend outlet a stage
  | .shut _ stage => c.chooseClose due a stage
  | .await id =>
    if c.arrived.contains a || c.pending.get? id ≠ some a then some .go else none
  | _ => some .go

/-- How an agent goes on with waiting for a property. -/
def chooseWait (due : Nat) (deadline : Option Nat) : WaitStage → Option Choice
  | .asleep false =>
    match deadline with
    | none => none
    | some time => if time ≤ due then some .expire else none
  | _ => some .go

/-- How a task goes on. -/
def chooseTask (c : Channel ω ρ) (outlet : Outlet) (due : Nat) (a : Agent) :
    Stage ω ρ → Option Choice
  | .ready _ => some .go
  | .call stage _ => c.chooseCall outlet due a stage
  | .publish stage _ => c.chooseSend outlet a stage
  | .respond _ _ stage _ => c.chooseSend outlet a stage
  | .wait _ deadline stage _ => chooseWait due deadline stage
  | .close stage _ => c.chooseClose due a stage
  | .awaitClosed _ => if c.cancelled then some .go else none
  | .sleep time _ => if time ≤ due then some .go else none
  | .pause _ => some .go
  | .hang => none
  | .done => none

/-- How the reader goes on. -/
def chooseReader (c : Channel ω ρ) (due : Nat) : ReaderStage → Option Choice
  | .read _ =>
    if c.cancelled then some .abandon
    else if c.inbox ≠ [] ∨ c.inboxEnded then some .go
    else none
  | .close stage => c.chooseClose due .reader stage
  | .stopped => none

/-- How the heartbeat goes on. -/
def chooseHeartbeat (c : Channel ω ρ) (outlet : Outlet) (due : Nat) :
    HeartbeatStage → Option Choice
  | .wait next => if c.cancelled then some .abandon else if next ≤ due then some .go else none
  | .send stage _ => c.chooseSend outlet .heartbeat stage
  | .stopped => none

/-- How an agent goes on. -/
def choose (c : Channel ω ρ) (outlet : Outlet) (due : Nat) (a : Agent) : Option Choice :=
  match a with
  | .reader => c.chooseReader due c.reader
  | .heartbeat => c.chooseHeartbeat outlet due c.heartbeat
  | .task number => (c.stage? number).bind (c.chooseTask outlet due a)

/-- Everyone who can go on. -/
def ready (c : Channel ω ρ) (outlet : Outlet) (due : Nat) : List Agent :=
  let tasks := c.tasks.zipIdx.filter fun t =>
    (c.chooseTask outlet due (.task t.2) t.1.stage).isSome
  [.reader, .heartbeat].filter (fun a => (c.choose outlet due a).isSome) ++
    tasks.map fun t => .task t.2

/-- Whether a task lets others go first. -/
def isPausing (c : Channel ω ρ) (a : Agent) : Bool :=
  match a with
  | .task number =>
    match c.stage? number with
    | some (.pause _) => true
    | _ => false
  | _ => false

/-! ## Times that agents wait for -/

/-- The time at which closing goes on at the latest. -/
def closeDeadline? : CloseStage → Option Nat
  | .lock deadline => some deadline
  | _ => none

/-- The time at which a task goes on at the latest. -/
def stageDeadline? : Stage ω ρ → Option Nat
  | .sleep time _ => some time
  | .wait _ deadline (.asleep _) _ => deadline
  | .close stage _ => closeDeadline? stage
  | .call (.shut _ stage) _ => closeDeadline? stage
  | _ => none

/-- The time at which an agent goes on at the latest. -/
def deadline? (c : Channel ω ρ) (a : Agent) : Option Nat :=
  match a with
  | .reader =>
    match c.reader with
    | .close stage => closeDeadline? stage
    | _ => none
  | .heartbeat =>
    match c.heartbeat with
    | .wait next => some next
    | _ => none
  | .task number => (c.stage? number).bind stageDeadline?

end Channel

namespace Session

variable {ω ρ : Type}

/-- A session on a channel that has just been opened. -/
def start (channel : Channel ω ρ) (outlet : Outlet) : Session ω ρ where
  channel := channel
  outlet := outlet
  queue := []
  sleepers := [.heartbeat]
  due := 0
  events := []

/-- How an agent goes on; none while it has to wait. -/
def choose (s : Session ω ρ) (a : Agent) : Option Choice := s.channel.choose s.outlet s.due a

/-- The link after some bytes have been written to it. -/
def afterEvent (outlet : Outlet) : Event ρ → Outlet
  | .wrote bytes => { outlet with room := outlet.room.map (· - bytes.length) }
  | _ => outlet

/-- Puts those who can go on into the queue, behind those who are in it, but for one who is going on
already. -/
def enqueue (s : Session ω ρ) (running : Option Agent) : Session ω ρ :=
  let ready := (s.channel.ready s.outlet s.due).filter fun a =>
    running ≠ some a && !s.queue.contains a
  { s with queue := s.queue ++ ready }

/-- Those who wait for a time after a step of an agent, which was on this channel before. An agent
that waits for the same time as before has not begun to wait again. -/
def sleepersAfter (s : Session ω ρ) (before : Channel ω ρ) (a : Agent) : List Agent :=
  let deadline := s.channel.deadline? a
  if deadline = before.deadline? a then s.sleepers
  else s.sleepers.filter (· ≠ a) ++ (if deadline.isSome then [a] else [])

/-- Performs an action of the channel, if it is enabled. -/
def perform (s : Session ω ρ) (action : Action ω ρ) : Session ω ρ :=
  match s.channel.step action with
  | none => s
  | some (channel, events) =>
    let before := s.channel
    let s := { s with
      channel := channel
      outlet := events.foldl afterEvent s.outlet
      events := events.reverse ++ s.events }
    let s := match action.agent? with
      | none => s
      | some a => { s with sleepers := s.sleepersAfter before a }
    s.enqueue action.agent?

/-- Lets an agent go on until it has to wait or lets others go first. -/
def runAgent (a : Agent) : (fuel : Nat) → Session ω ρ → Session ω ρ
  | 0, s => s
  | fuel + 1, s =>
    match s.choose a with
    | none => s
    | some choice =>
      let s := s.perform (.agent a choice)
      if s.channel.isPausing a then { s with queue := s.queue ++ [a] } else runAgent a fuel s

/-- Lets those in the queue go on in turn, up to an agent and its turn. -/
def runUpTo (last : Agent) : (fuel : Nat) → Session ω ρ → Session ω ρ
  | 0, s => s
  | fuel + 1, s =>
    match s.queue with
    | [] => s
    | a :: queue =>
      let s := runAgent a fuel { s with queue := queue }
      if a = last then s else runUpTo last fuel s

/-- The times up to the clock have come, and those who have waited for them can go on. -/
def wakeSleepers (s : Session ω ρ) : Session ω ρ :=
  let s := { s with due := s.channel.clock }
  { s with queue := s.queue ++ s.sleepers.filter fun a => (s.choose a).isSome }

/-- Lets everyone go on until all have to wait. -/
def settle : (fuel : Nat) → Session ω ρ → Session ω ρ
  | 0, s => s
  | fuel + 1, s =>
    match s.queue with
    | a :: queue => settle fuel (runAgent a fuel { s with queue := queue })
    | [] => if s.due < s.channel.clock then settle fuel s.wakeSleepers else s

/-- Lets time pass up to a time, and those who wait for a time go on as it comes. -/
def advanceTo (time : Nat) : (fuel : Nat) → Session ω ρ → Session ω ρ
  | 0, s => s
  | fuel + 1, s =>
    let coming := (s.sleepers.filterMap s.channel.deadline?).filter fun t =>
      s.channel.clock < t && t ≤ time
    match coming.min? with
    | none => (s.perform (.elapse (time - s.channel.clock))).settle fuel
    | some next =>
      advanceTo time fuel ((s.perform (.elapse (next - s.channel.clock))).settle fuel)

/-- Lets some milliseconds pass. -/
def advance (fuel millis : Nat) (s : Session ω ρ) : Session ω ρ :=
  s.advanceTo (s.channel.clock + millis) fuel

/-- Lets bytes arrive in pieces of a size. Each piece but the first arrives when the reader has had
its turn with the one before. -/
def deliver (size : Nat) : (fuel : Nat) → Bytes → Session ω ρ → Session ω ρ
  | 0, _, s => s
  | fuel + 1, bytes, s =>
    let s := s.perform (.deliver (bytes.take size))
    let rest := bytes.drop size
    if rest = [] ∨ size = 0 then s else deliver size fuel rest (s.runUpTo .reader fuel)

/-- The other end is gone: nothing more arrives, and the link refuses all bytes. -/
def hangUp (s : Session ω ρ) : Session ω ρ :=
  { s with outlet := { s.outlet with broken := true } }.perform .endInput

/-- Takes out what has been shown, in order. -/
def takeEvents (s : Session ω ρ) : List (Event ρ) × Session ω ρ :=
  (s.events.reverse, { s with events := [] })

end Session

end CommandLink
