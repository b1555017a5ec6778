import CommandLink.Channel.State

/-!
# Steps of a channel

`Channel.step` says what one action does to a channel. An action is one step of an agent, or
something that happens to the channel: bytes arrive, the incoming stream ends, a routine is started,
time passes. Where an agent could go on in several ways, the action says which (`Choice`); any
sequence of enabled actions is a run, so what holds after every step holds under every schedule and
every pattern of partial writes.
-/

namespace CommandLink

/-- How an agent goes on. -/
inductive Choice where
  /-- It does what it is about to do. -/
  | go
  /-- It writes some of its bytes. -/
  | write (count : Nat)
  /-- The link refuses its bytes. -/
  | fail (error : IoError)
  /-- It stops, because the channel is closing. -/
  | abandon
  /-- It stops, because it has waited long enough. -/
  | expire
  deriving DecidableEq, Repr

/-- What a step shows to the outside. -/
inductive Event (ρ : Type) where
  | wrote (bytes : Bytes)
  /-- The outgoing stream has ended. -/
  | shutWriter
  | logged (entry : LogEntry)
  | reported (value : ρ)

/-- Something that happens on a channel. -/
inductive Action (ω ρ : Type) where
  | agent (a : Agent) (choice : Choice)
  | deliver (bytes : Bytes)
  | endInput
  | start (routine : Routine ω ρ Unit)
  | elapse (millis : Nat)

/-- What became of a stage: another stage, or a result. -/
inductive Progress (σ α : Type) where
  | more (stage : σ)
  | finished (result : α)

namespace Channel

variable {ω ρ : Type}

/-- What a step of a stage does: the channel, what it shows, and what became of the stage. -/
abbrev Stepped (ω ρ σ α : Type) := Channel ω ρ × List (Event ρ) × Progress σ α

/-! ## Sending -/

/-- Gives the writer back. -/
def leaveWriter (c : Channel ω ρ) (a : Agent) : Channel ω ρ :=
  { c with writer := c.writer.leave a }

/-- One step of sending a frame. The writer is waited for in line; a frame is written under it as a
whole or not at all, except where the link fails or the channel closes. -/
def sendStep (c : Channel ω ρ) (a : Agent) (stage : SendStage) (choice : Choice) :
    Option (Stepped ω ρ SendStage (Except ChannelError Unit)) :=
  match stage, choice with
  | .encode frame, .go =>
    match frame.wire c.setup.frameLimit with
    | .error e => some (c, [], .finished (.error (.protocol e)))
    | .ok bytes => some ({ c with writer := c.writer.enqueue a }, [], .more (.queued bytes))
  | .queued bytes, .go =>
    if c.writer.isFreeFor a then
      if c.writer.isOpen then
        some ({ c with writer := c.writer.take a }, [], .more (.write bytes))
      else some (c.leaveWriter a, [], .finished (.error .closed))
    else none
  | .write rest, .write count =>
    if count = 0 then none
    else
      let left := rest.drop count
      some (c, [.wrote (rest.take count)], .more (if left = [] then .flush else .write left))
  | .flush, .go => some (c.leaveWriter a, [], .finished (.ok ()))
  | .encode _, _ => none
  | _, .fail error =>
    match stage with
    | .queued _ => none
    | _ => some (c.leaveWriter a, [], .finished (.error (.transport error)))
  | _, .abandon =>
    if c.cancelled then some (c.leaveWriter a, [], .finished (.error .closed)) else none
  | _, _ => none

/-! ## Closing -/

/-- The call that waits under an identifier gets its result and waits no longer. Without such a call
nothing changes. -/
def settle (c : Channel ω ρ) (id : CallId) (result : Except ChannelError Reply) : Channel ω ρ :=
  match c.pending.get? id with
  | some a => { c with pending := c.pending.erase id, arrived := c.arrived.insert a result }
  | none => c

/-- One step of closing. Only the first to close does anything: it tells everyone, fails the calls
that wait for a response, shuts the writer, and ends what runs in the background. -/
def closeStep (c : Channel ω ρ) (a : Agent) (stage : CloseStage) (choice : Choice) :
    Option (Stepped ω ρ CloseStage Unit) :=
  match stage, choice with
  | .enter, .go =>
    if c.closing then some (c, [], .finished ())
    else some ({ c with closing := true }, [], .more .cancel)
  | .cancel, .go => some ({ c with cancelled := true }, [], .more .notify)
  | .notify, .go => some (c.wakeAll, [], .more .snapshot)
  | .snapshot, .go => some (c, [], .more (.drain c.pending.keys))
  | .drain (id :: ids), .go => some (c.settle id (.error .closed), [], .more (.drain ids))
  | .drain [], .go =>
    some ({ c with writer := c.writer.enqueue a }, [], .more (.lock (c.clock + writerPatience)))
  | .lock _, .go =>
    if c.writer.isFreeFor a then
      if c.writer.isOpen then
        some ({ c with writer := { c.writer.take a with isOpen := false } }, [], .more .shut)
      else some (c.leaveWriter a, [], .more .dropGuard)
    else none
  | .lock deadline, .expire =>
    if deadline ≤ c.clock then some (c.leaveWriter a, [], .more .dropGuard) else none
  | .shut, .go => some (c.leaveWriter a, [.shutWriter], .more .dropGuard)
  | .dropGuard, .go => some ({ c with guarded := false }, [], .more .abort)
  | .abort, .go => some (c.endOthers a, [], .finished ())
  | _, _ => none

/-! ## Calling -/

/-- The call that has given up no longer waits for a response. -/
def forget (c : Channel ω ρ) (id : CallId) : Channel ω ρ :=
  { c with pending := c.pending.erase id }

/-- One step of a call. The call takes an identifier and waits under it; closing is looked at once
more after that, because it may have failed the waiting calls in between. -/
def callStep (c : Channel ω ρ) (a : Agent) (stage : CallStage) (choice : Choice) :
    Option (Stepped ω ρ CallStage (Except ChannelError Reply)) :=
  match stage, choice with
  | .check call, .go =>
    if c.closing then some (c, [], .finished (.error .closed)) else some (c, [], .more (.draw call))
  | .draw call, .go =>
    some ({ c with nextId := c.nextId + 1 }, [], .more (.register c.nextId call))
  | .register id call, .go =>
    some ({ c with pending := c.pending.insert id a, arrived := c.arrived.erase a }, [],
      .more (.recheck id call))
  | .recheck id call, .go =>
    if c.closing then some (c.forget id, [], .finished (.error .closed))
    else some (c, [], .more (.send id (.encode (.request id call))))
  | .send id stage, choice =>
    match c.sendStep a stage choice with
    | none => none
    | some (c, events, .more stage) => some (c, events, .more (.send id stage))
    | some (c, events, .finished (.ok ())) => some (c, events, .more (.await id))
    | some (c, events, .finished (.error e)) => some (c, events, .more (.giveUp id e))
  | .giveUp id (.transport e), .go => some (c.forget id, [], .more (.shut (.transport e) .enter))
  | .giveUp id e, .go => some (c.forget id, [], .finished (.error e))
  | .shut e stage, choice =>
    match c.closeStep a stage choice with
    | none => none
    | some (c, events, .more stage) => some (c, events, .more (.shut e stage))
    | some (c, events, .finished ()) => some (c, events, .finished (.error e))
  | .await id, .go =>
    match c.arrived.get? a with
    | some result => some ({ c with arrived := c.arrived.erase a }, [], .finished result)
    | none => if c.pending.get? id = some a then none else some (c, [], .finished (.error .closed))
  | _, _ => none

/-! ## Waiting for a property -/

/-- One step of waiting for a property. To look it up and to ask whether the channel is closing are
two. What changes after `enter` is noticed, so a value that arrives before the waiter falls asleep
wakes it at once. -/
def waitStep (c : Channel ω ρ) (name : String) (deadline : Option Nat) (stage : WaitStage)
    (choice : Choice) : Option (Progress WaitStage (Option (Except ChannelError Json))) :=
  match stage, choice with
  | .enter, .go => some (.more (.look false))
  | .look notified, .go =>
    match c.property? name with
    | some value => some (.finished (some (.ok value)))
    | none => some (.more (.check notified))
  | .check notified, .go =>
    if c.closing then some (.finished (some (.error .closed))) else some (.more (.asleep notified))
  | .asleep true, .go => some (.more .enter)
  | .asleep false, .expire =>
    match deadline with
    | none => none
    | some time => if time ≤ c.clock then some (.finished none) else none
  | _, _ => none

/-! ## Tasks -/

/-- The stage in which a routine begins with an operation, and what that shows. -/
def begin (c : Channel ω ρ) :
    (op : Op ω ρ) → (op.Answer → Routine ω ρ Unit) → Channel ω ρ × List (Event ρ) × Stage ω ρ
  | .call call, next => (c, [], .call (.check call) next)
  | .publish name value, next => (c, [], .publish (.encode (.property name value)) next)
  | .respond id result, next => (c, [], .respond id false (.encode (.response id result)) next)
  | .property name limit, next => (c, [], .wait name (limit.map (c.clock + ·)) .enter next)
  | .closed, next => (c, [], .awaitClosed next)
  | .close, next => (c, [], .close .enter next)
  | .change f, next => ({ c with world := f c.world }, [], .ready (next c.world))
  | .log entry, next => (c, [.logged entry], .ready (next ()))
  | .sleep millis, next => (c, [], .sleep (c.clock + millis) next)
  | .pause, next => (c, [], .pause next)
  | .hang, _ => (c, [], .hang)
  | .report value, next => (c, [.reported value], .ready (next ()))

/-- One step of a task that is in a stage. An answer that is too large is replaced by its error. -/
def taskStep (c : Channel ω ρ) (a : Agent) (stage : Stage ω ρ) (choice : Choice) :
    Option (Channel ω ρ × List (Event ρ) × Stage ω ρ) :=
  match stage with
  | .ready (.done ()) => if choice = .go then some (c, [], .done) else none
  | .ready (.ask op next) => if choice = .go then some (c.begin op next) else none
  | .call stage next =>
    (c.callStep a stage choice).map fun (c, events, progress) =>
      (c, events, match progress with
        | .more stage => .call stage next
        | .finished result => .ready (next result))
  | .publish stage next =>
    (c.sendStep a stage choice).map fun (c, events, progress) =>
      (c, events, match progress with
        | .more stage => .publish stage next
        | .finished result => .ready (next result))
  | .respond id last stage next =>
    (c.sendStep a stage choice).map fun (c, events, progress) =>
      (c, events, match progress, last with
        | .more stage, _ => .respond id last stage next
        | .finished (.error (.protocol e)), false =>
          .respond id true (.encode (.response id (.error ⟨e.message⟩))) next
        | .finished _, _ => .ready (next ()))
  | .wait name deadline stage next =>
    (c.waitStep name deadline stage choice).map fun progress =>
      (c, [], match progress with
        | .more stage => .wait name deadline stage next
        | .finished result => .ready (next result))
  | .close stage next =>
    (c.closeStep a stage choice).map fun (c, events, progress) =>
      (c, events, match progress with
        | .more stage => .close stage next
        | .finished () => .ready (next ()))
  | .awaitClosed next =>
    if c.cancelled ∧ choice = .go then some (c, [], .ready (next ())) else none
  | .sleep time next =>
    if time ≤ c.clock ∧ choice = .go then some (c, [], .ready (next ())) else none
  | .pause next => if choice = .go then some (c, [], .ready (next ())) else none
  | .hang => none
  | .done => none

/-! ## Reading -/

/-- What a frame from the other end does. A response without a waiting call changes nothing. -/
def dispatch (c : Channel ω ρ) : Frame → Channel ω ρ
  | .response id result => c.settle id (result.mapError fun f => .remote f.message)
  | .request id call => if c.closing then c else c.spawn true (c.setup.handler.serve id call)
  | .property name value => { c with properties := c.properties.insert name value }.wakeAll
  | .ping => c

/-- Takes bytes up to the end of the next frame. -/
def takeFrame (limit : Nat) (incomplete : Frame.Partial) :
    Bytes → Except FrameError (Option Frame × Frame.Partial × Bytes)
  | [] => .ok (none, incomplete, [])
  | b :: bytes =>
    match incomplete.push limit b with
    | .error e => .error e
    | .ok (some frame, incomplete) => .ok (some frame, incomplete, bytes)
    | .ok (none, incomplete) => takeFrame limit incomplete bytes

/-- One step of the reader: it takes one more frame, or closes the channel when the stream has
ended or cannot be read. -/
def readerStep (c : Channel ω ρ) (stage : ReaderStage) (choice : Choice) :
    Option (Channel ω ρ × List (Event ρ) × ReaderStage) :=
  match stage, choice with
  | .read incomplete, .go =>
    if c.inbox = [] then
      if c.inboxEnded then some (c, [], .close .enter) else none
    else
      match takeFrame c.setup.frameLimit incomplete c.inbox with
      | .error _ => some ({ c with inbox := [] }, [], .close .enter)
      | .ok (none, incomplete, rest) => some ({ c with inbox := rest }, [], .read incomplete)
      | .ok (some frame, incomplete, rest) =>
        some ({ c with inbox := rest }.dispatch frame, [], .read incomplete)
  | .read _, .abandon => if c.cancelled then some (c, [], .close .enter) else none
  | .close stage, choice =>
    (c.closeStep .reader stage choice).map fun (c, events, progress) =>
      (c, events, match progress with
        | .more stage => .close stage
        | .finished () => .stopped)
  | _, _ => none

/-- One step of the heartbeat. A ping that cannot be sent is left out. -/
def heartbeatStep (c : Channel ω ρ) (stage : HeartbeatStage) (choice : Choice) :
    Option (Channel ω ρ × List (Event ρ) × HeartbeatStage) :=
  match stage, choice with
  | .wait next, .go => if next ≤ c.clock then some (c, [], .send (.encode .ping) next) else none
  | .wait _, .abandon => if c.cancelled then some (c, [], .stopped) else none
  | .send stage time, choice =>
    (c.sendStep .heartbeat stage choice).map fun (c, events, progress) =>
      (c, events, match progress with
        | .more stage => .send stage time
        | .finished _ => .wait (time + c.setup.heartbeat))
  | _, _ => none

/-! ## Actions -/

/-- The stage of a task. -/
def stage? (c : Channel ω ρ) (number : Nat) : Option (Stage ω ρ) :=
  (c.tasks[number]?).map Task.stage

/-- One step of an agent. -/
def agentStep (c : Channel ω ρ) (a : Agent) (choice : Choice) :
    Option (Channel ω ρ × List (Event ρ)) :=
  match a with
  | .reader =>
    (c.readerStep c.reader choice).map fun (c, events, stage) => ({ c with reader := stage }, events)
  | .heartbeat =>
    (c.heartbeatStep c.heartbeat choice).map fun (c, events, stage) =>
      ({ c with heartbeat := stage }, events)
  | .task number =>
    match c.stage? number with
    | none => none
    | some stage =>
      (c.taskStep a stage choice).map fun (c, events, stage) => (c.setStage number stage, events)

/-- What an action does; none where it is not enabled. -/
def step (c : Channel ω ρ) (action : Action ω ρ) : Option (Channel ω ρ × List (Event ρ)) :=
  match action with
  | .agent a choice => c.agentStep a choice
  | .deliver bytes => if c.inboxEnded then none else some ({ c with inbox := c.inbox ++ bytes }, [])
  | .endInput => some ({ c with inboxEnded := true }, [])
  | .start routine => some (c.spawn false routine, [])
  | .elapse millis => some ({ c with clock := c.clock + millis }, [])

end Channel

end CommandLink
