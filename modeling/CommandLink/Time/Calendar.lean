/-!
# Instants

Instants, and durations in nanoseconds. An instant is a second and the nanoseconds since it began;
these reach beyond the second where a minute has a second more, a leap second, which has no number
of its own. Calendar dates reach from the first instant of the year -262143 to the last of the year
262142.

Main statements: instants are compared by their seconds first, `Instant.le_iff`, and a duration is
added without regard to leap seconds unless it begins and ends in one, `Instant.add_of_nanos_lt`.
-/

namespace CommandLink

/-- A duration, as a number of nanoseconds. -/
abbrev Duration := Nat

namespace Duration

/-- A number of seconds. -/
def seconds (n : Nat) : Duration := n * 1000000000

/-- A number of milliseconds. -/
def millis (n : Nat) : Duration := n * 1000000

end Duration

/-- An instant. -/
structure Instant where
  /-- The whole seconds since the start of 1970. -/
  seconds : Int
  /-- The nanoseconds since the second began; from a billion on they are in a leap second. -/
  nanos : Nat
  deriving DecidableEq, Repr

namespace Instant

instance : LE Instant :=
  ⟨fun t u => t.seconds < u.seconds ∨ (t.seconds = u.seconds ∧ t.nanos ≤ u.nanos)⟩

theorem le_iff {t u : Instant} :
    t ≤ u ↔ t.seconds < u.seconds ∨ (t.seconds = u.seconds ∧ t.nanos ≤ u.nanos) := Iff.rfl

instance (t u : Instant) : Decidable (t ≤ u) := decidable_of_iff' _ le_iff

theorem le_refl (t : Instant) : t ≤ t := .inr ⟨rfl, Nat.le_refl _⟩

theorem le_total (t u : Instant) : t ≤ u ∨ u ≤ t := by
  simp only [le_iff]
  omega

/-- The instant at a number of seconds since the start of 1970. -/
def ofSeconds (n : Int) : Instant := ⟨n, 0⟩

/-- The instant at a number of milliseconds since the start of 1970. -/
def ofMillis (n : Int) : Instant := ⟨Int.fdiv n 1000, (Int.fmod n 1000).toNat * 1000000⟩

/-- The whole milliseconds since the start of 1970, rounded towards the past. -/
def toMillis (t : Instant) : Int := t.seconds * 1000 + (t.nanos / 1000000 : Nat)

/-- The instant after a duration. One that leads out of a leap second counts as if that second were
the one before it. -/
def add (t : Instant) (d : Duration) : Instant :=
  if 1000000000 ≤ t.nanos ∧ t.nanos + d < 2000000000 then ⟨t.seconds, t.nanos + d⟩
  else
    let nanos := (if 1000000000 ≤ t.nanos then t.nanos - 1000000000 else t.nanos) + d
    ⟨t.seconds + (nanos / 1000000000 : Nat), nanos % 1000000000⟩

theorem add_of_nanos_lt {t : Instant} (h : t.nanos < 1000000000) (d : Duration) :
    t.add d = ⟨t.seconds + ((t.nanos + d) / 1000000000 : Nat), (t.nanos + d) % 1000000000⟩ := by
  have : ¬ 1000000000 ≤ t.nanos := by omega
  simp [add, this]

/-- Whether an instant has a date. -/
def onCalendar (t : Instant) : Bool :=
  -8334601228800 ≤ t.seconds && t.seconds ≤ 8210266876799

end Instant

end CommandLink
