import CommandLink.Text.Integer
import CommandLink.Time.Clock

/-!
# Connection slots

A server serves a limited number of connections at a time. Each holds a slot until it ends, and
once the server is draining no slot is given out any more. `Connections.drain` waits for the slots
that are left, until a time that it works out first: if the clock does not get there, it breaks down.
-/

namespace CommandLink

/-- The slots of a server, numbered in the order in which they are given out. -/
structure Connections where
  /-- How many slots may be held at a time. -/
  limit : Nat
  /-- The slots that are held. -/
  held : List Nat
  /-- How many slots have been given out. -/
  issued : Nat
  draining : Bool
  /-- At least one connection is served. -/
  limit_pos : 0 < limit
  /-- No slot is held twice. -/
  nodup : held.Nodup
  /-- Only slots that have been given out are held. -/
  lt_issued : ∀ slot ∈ held, slot < issued
  /-- No more slots are held than there may be. -/
  within : held.length ≤ limit

namespace Connections

/-- No slot is held. -/
def empty (max : Nat) : Connections where
  limit := Nat.max max 1
  held := []
  issued := 0
  draining := false
  limit_pos := Nat.lt_of_lt_of_le Nat.zero_lt_one (Nat.le_max_right _ _)
  nodup := .nil
  lt_issued := by simp
  within := Nat.zero_le _

/-- How many slots are held. -/
def active (c : Connections) : Nat := c.held.length

/-- Whether a slot can be had. -/
def HasRoom (c : Connections) : Prop := c.draining = false ∧ c.active < c.limit

instance (c : Connections) : Decidable c.HasRoom :=
  inferInstanceAs (Decidable (_ ∧ _))

/-- Gives out a slot, if one can be had. -/
def acquire (c : Connections) : Option (Nat × Connections) :=
  if h : c.HasRoom then
    some (c.issued, { c with
      held := c.held ++ [c.issued]
      issued := c.issued + 1
      nodup := by
        refine List.nodup_append.2 ⟨c.nodup, by simp, ?_⟩
        intro a ha b hb
        have := c.lt_issued a ha
        simp only [List.mem_singleton] at hb
        omega
      lt_issued := by
        intro slot hs
        rcases List.mem_append.1 hs with hs | hs
        · have := c.lt_issued slot hs
          omega
        · simp only [List.mem_singleton] at hs
          omega
      within := by
        have : c.held.length < c.limit := h.2
        simp only [List.length_append, List.length_singleton]
        omega })
  else none

/-- Takes a slot back. -/
def release (c : Connections) (slot : Nat) : Connections :=
  { c with
    held := c.held.filter (· ≠ slot)
    nodup := c.nodup.sublist List.filter_sublist
    lt_issued := fun s hs => c.lt_issued s (List.mem_filter.1 hs).1
    within := Nat.le_trans List.filter_sublist.length_le c.within }

/-- No more slots are given out from here on. -/
def startDraining (c : Connections) : Connections := { c with draining := true }

/-- How a slot is shown in diagnostics. -/
def shownSlot (c : Connections) : String :=
  "ConnectionGuard \x7b active: " ++ Text.decimal c.active ++ " \x7d"

/-- How waiting for the last slots ends. -/
inductive DrainResult where
  | complete
  | timeout (remaining : Nat)
  deriving DecidableEq, Repr

/-- A slot that is given back at a time, in milliseconds. -/
structure Release where
  time : Nat
  slot : Nat
  deriving DecidableEq, Repr

/-- Waits for the slots that are held while they are given back at the given times, which do not
decrease. The result comes with its time. -/
def awaitRelease (c : Connections) (now deadline : Nat) : List Release → DrainResult × Nat
  | [] => if c.active = 0 then (.complete, now) else (.timeout c.active, deadline)
  | r :: releases =>
    if c.active = 0 then (.complete, now)
    else if r.time < deadline then
      (c.release r.slot).awaitRelease (Nat.max now r.time) deadline releases
    else (.timeout c.active, deadline)

/-- Stops giving out slots and waits until none is held, but for no longer than some milliseconds.
The result comes with the time that was waited. There is none if the clock does not get to the
deadline: then slots are given out no more and nothing is waited for. -/
def drain (c : Connections) (now : ClockTime) (timeout : Nat) (releases : List Release) :
    Option (DrainResult × Nat) :=
  (now.after? (Duration.millis timeout)).map fun _ =>
    c.startDraining.awaitRelease 0 timeout (releases.mergeSort fun a b => a.time ≤ b.time)

theorem drain_eq_none_iff (c : Connections) (now : ClockTime) (timeout : Nat)
    (releases : List Release) :
    c.drain now timeout releases = none ↔ now.after? (Duration.millis timeout) = none :=
  Option.map_eq_none_iff

end Connections

end CommandLink
