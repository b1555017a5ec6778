import CommandLink.Channel.Error
import CommandLink.Dialogue
import CommandLink.Telemetry.Entry

/-!
# Routines

A routine is a program that runs on one end of a channel: it calls the other end, publishes
properties, waits for what the other end publishes, and closes the channel. It also acts on a world
of its own end, of type `ω`, and reports values of type `ρ` to whoever started it.
-/

namespace CommandLink

/-- What a routine may ask of the channel that it runs on. -/
inductive Op (ω ρ : Type) where
  /-- Send a call and wait for its reply. -/
  | call (call : Call)
  /-- Make a value known to the other end. -/
  | publish (name : String) (value : Json)
  /-- Answer a request of the other end. -/
  | respond (id : CallId) (result : Except Failure Reply)
  /-- Wait until the other end has published a property, for at most some milliseconds. -/
  | property (name : String) (limit : Option Nat)
  /-- Wait until the channel starts closing. -/
  | closed
  | close
  /-- Look at the world and change it. -/
  | change (f : ω → ω)
  | log (entry : LogEntry)
  /-- Wait for some milliseconds. -/
  | sleep (millis : Nat)
  /-- Let everything else that can go on do so first. -/
  | pause
  /-- Never go on. -/
  | hang
  | report (value : ρ)

/-- What answers an operation. -/
abbrev Op.Answer {ω ρ : Type} : Op ω ρ → Type
  | .call _ => Except ChannelError Reply
  | .publish _ _ => Except ChannelError Unit
  | .respond _ _ => Unit
  | .property _ _ => Option (Except ChannelError Json)
  | .closed => Unit
  | .close => Unit
  | .change _ => ω
  | .log _ => Unit
  | .sleep _ => Unit
  | .pause => Unit
  | .hang => Empty
  | .report _ => Unit

/-- A program that runs on one end of a channel. -/
abbrev Routine (ω ρ α : Type) := Dialogue (Op ω ρ) Op.Answer α

namespace Routine

variable {ω ρ : Type}

/-- Sends a call and waits for its reply. -/
def call (c : Call) : Routine ω ρ (Except ChannelError Reply) := Dialogue.question (Op.call c)

/-- Makes a value known to the other end. -/
def publish (name : String) (value : Json) : Routine ω ρ (Except ChannelError Unit) :=
  Dialogue.question (Op.publish name value)

/-- Answers a request of the other end. -/
def respond (id : CallId) (result : Except Failure Reply) : Routine ω ρ Unit :=
  Dialogue.question (Op.respond id result)

/-- Waits until the other end has published a property. -/
def property (name : String) (limit : Option Nat) :
    Routine ω ρ (Option (Except ChannelError Json)) :=
  Dialogue.question (Op.property name limit)

/-- Waits until the channel starts closing. -/
def closed : Routine ω ρ Unit := Dialogue.question Op.closed

/-- Closes the channel. -/
def close : Routine ω ρ Unit := Dialogue.question Op.close

/-- Changes the world; the result is the world before. -/
def change (f : ω → ω) : Routine ω ρ ω := Dialogue.question (Op.change f)

/-- Looks at the world. -/
def look : Routine ω ρ ω := change id

/-- Writes to the log. -/
def log (entry : LogEntry) : Routine ω ρ Unit := Dialogue.question (Op.log entry)

/-- Writes entries to the log. -/
def logAll : List LogEntry → Routine ω ρ Unit
  | [] => return ()
  | entry :: entries => do
    log entry
    logAll entries

/-- Writes to the security log. -/
def logSecurity (event : SecurityEvent) (message : String) (details : List (String × String)) :
    Routine ω ρ Unit :=
  log (.security ⟨event, message, details⟩)

/-- Waits for some milliseconds. -/
def sleep (millis : Nat) : Routine ω ρ Unit := Dialogue.question (Op.sleep millis)

/-- Lets everything else that can go on do so first. -/
def pause : Routine ω ρ Unit := Dialogue.question Op.pause

/-- Never goes on. -/
def hang {α : Type} : Routine ω ρ α := Dialogue.ask Op.hang fun e => nomatch e

/-- Reports a value. -/
def report (value : ρ) : Routine ω ρ Unit := Dialogue.question (Op.report value)

end Routine

/-- What becomes of the handling of a call. -/
inductive Handled where
  | answered (result : Except Failure Reply)
  /-- The handler broke down. -/
  | panicked
  deriving Repr

/-- Handles the calls of the other end. -/
abbrev Handler (ω ρ : Type) := Call → Routine ω ρ Handled

/-- What a call is answered with after its handling. -/
def Handled.result (h : Handled) (call : Call) : Except Failure Reply :=
  match h with
  | .answered result => result
  | .panicked => .error ⟨call.kind ++ " handler failed"⟩

/-- Handles a request and answers it. -/
def Handler.serve {ω ρ : Type} (handler : Handler ω ρ) (id : CallId) (call : Call) :
    Routine ω ρ Unit := do
  let handled ← handler call
  Routine.respond id (handled.result call)

/-- Handles nothing. -/
def Handler.refuseAll {ω ρ : Type} : Handler ω ρ := fun call =>
  return .answered (.error ⟨call.kind ++ " is not accepted on this side"⟩)

end CommandLink
