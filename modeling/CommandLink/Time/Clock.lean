import CommandLink.Time.Calendar

/-!
# The clock for intervals

Intervals are measured with a clock that knows no dates and only goes forward. It counts seconds in a
signed 64-bit word, so not every duration can be added to one of its times.

Main statement: what can be added does not lead beyond the last second,
`ClockTime.after?_eq_none_iff`.
-/

namespace CommandLink

/-- A time of the clock for intervals. -/
structure ClockTime where
  seconds : Int
  /-- The nanoseconds since the second began. -/
  nanos : Nat
  /-- They do not reach the next second. -/
  nanos_lt : nanos < 1000000000
  deriving DecidableEq, Repr

namespace ClockTime

/-- The last second that the clock counts. -/
def lastSecond : Int := 9223372036854775807

/-- The time after a duration, if the clock gets there. -/
def after? (t : ClockTime) (d : Duration) : Option ClockTime :=
  let seconds := t.seconds + ((t.nanos + d) / 1000000000 : Nat)
  if seconds ≤ lastSecond then
    some ⟨seconds, (t.nanos + d) % 1000000000, Nat.mod_lt _ (by decide)⟩
  else none

/-- Whole seconds are added to the seconds. -/
theorem after?_eq_none_iff (t : ClockTime) (n : Nat) :
    t.after? (Duration.seconds n) = none ↔ lastSecond < t.seconds + n := by
  have hsecond : (t.nanos + n * 1000000000) / 1000000000 = n := by
    have := t.nanos_lt
    omega
  simp only [after?, Duration.seconds, hsecond]
  split
  · simp only [reduceCtorEq, false_iff]
    omega
  · simp only [true_iff]
    omega

end ClockTime

end CommandLink
