import CommandLink.Server.Connections

/-!
# Waiting for the last slots, step by step

`Connections.drain` says how a drain ends. Here is how it gets there: the loop that waits, the slots
that are taken back meanwhile, and the clock. Taking back a slot and giving notice of it are two
steps, and a notice reaches the loop only if the loop has registered for it. On its way the loop is
interrupted at any place, but time does not pass while there is something to do. There is no loop if
the clock does not get to the deadline.
-/

namespace CommandLink.Connections

/-- Where the loop of a drain stands. Once it has registered, it knows whether notice has come. -/
inductive DrainStage where
  /-- The deadline is beyond the clock. -/
  | brokenDown
  | registering
  | counting (noticed : Bool)
  | asleep (noticed : Bool)
  | returned (result : DrainResult) (time : Nat)
  deriving DecidableEq, Repr

/-- Notice is given to whoever has registered. -/
def DrainStage.notice : DrainStage → DrainStage
  | .counting _ => .counting true
  | .asleep _ => .asleep true
  | stage => stage

/-- When slots are given back, if at all, in milliseconds from the start of the drain. -/
abbrev Schedule := Nat → Option Nat

/-- Each slot is given back at the first of its times. -/
def Schedule.ofReleases (releases : List Release) : Schedule := fun slot =>
  ((releases.filter (·.slot = slot)).map (·.time)).min?

/-- A drain under way. -/
structure Drain where
  slots : Connections
  /-- The time since the start of the drain. -/
  clock : Nat
  deadline : Nat
  /-- How many slots have been taken back without notice so far. -/
  unnoticed : Nat
  stage : DrainStage

/-- What can happen during a drain. -/
inductive DrainAction where
  /-- The loop goes on by one step. -/
  | go
  /-- The loop is woken by the deadline. -/
  | expire
  /-- A slot is taken back. -/
  | release (slot : Nat)
  /-- Notice is given of a slot that has been taken back. -/
  | notify
  /-- Nothing happens up to a time. -/
  | elapse (time : Nat)
  deriving DecidableEq, Repr

namespace Drain

/-- No slot is given out from here on, and the loop begins if there is a time for its deadline. -/
def start (c : Connections) (now : ClockTime) (timeout : Nat) : Drain where
  slots := c.startDraining
  clock := 0
  deadline := timeout
  unnoticed := 0
  stage := if now.after? (Duration.millis timeout) = none then .brokenDown else .registering

/-- What the loop does when it is not made to wait. -/
def advance (d : Drain) : Option DrainStage :=
  match d.stage with
  | .registering => some (.counting false)
  | .counting noticed =>
    some (if d.slots.active = 0 then .returned .complete d.clock else .asleep noticed)
  | .asleep true => some .registering
  | _ => none

/-- What the loop returns when the deadline has woken it: it counts once more. -/
def expired (d : Drain) : Option DrainStage :=
  match d.stage with
  | .asleep _ =>
    if d.deadline ≤ d.clock then
      some (.returned (if d.slots.active = 0 then .complete else .timeout d.slots.active) d.clock)
    else none
  | _ => none

/-- Whether the loop has nothing to do up to a time. -/
def Rests (d : Drain) (time : Nat) : Prop :=
  match d.stage with
  | .asleep false => time ≤ d.deadline
  | .returned .. => True
  | .brokenDown => True
  | _ => False

/-- Whether nothing happens up to a time. -/
def IsQuiet (schedule : Schedule) (d : Drain) (time : Nat) : Prop :=
  d.clock < time ∧ d.unnoticed = 0 ∧ d.Rests time ∧
    ∀ slot ∈ d.slots.held, ∀ due ∈ schedule slot, time ≤ due

instance (d : Drain) (time : Nat) : Decidable (d.Rests time) := by
  unfold Rests
  split <;> infer_instance

instance (schedule : Schedule) (d : Drain) (time : Nat) : Decidable (d.IsQuiet schedule time) :=
  inferInstanceAs (Decidable (_ ∧ _ ∧ _ ∧ _))

/-- Whether it is time to give back a slot that is held. -/
def IsDue (schedule : Schedule) (d : Drain) (slot : Nat) : Prop :=
  slot ∈ d.slots.held ∧ ∃ due ∈ schedule slot, due ≤ d.clock

instance (schedule : Schedule) (d : Drain) (slot : Nat) : Decidable (d.IsDue schedule slot) :=
  inferInstanceAs (Decidable (_ ∧ _))

/-- One step, if it can be taken. -/
def step (schedule : Schedule) (d : Drain) : DrainAction → Option Drain
  | .go => d.advance.map fun stage => { d with stage }
  | .expire => d.expired.map fun stage => { d with stage }
  | .release slot =>
    if d.IsDue schedule slot then
      some { d with slots := d.slots.release slot, unnoticed := d.unnoticed + 1 }
    else none
  | .notify =>
    match d.unnoticed with
    | 0 => none
    | unnoticed + 1 => some { d with unnoticed, stage := d.stage.notice }
  | .elapse time => if d.IsQuiet schedule time then some { d with clock := time } else none

/-- The drain after some steps, if they can all be taken. -/
def after (schedule : Schedule) (d : Drain) (actions : List DrainAction) : Option Drain :=
  actions.foldlM (step schedule) d

end Drain

end CommandLink.Connections
