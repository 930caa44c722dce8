/-!
Readings that come from outside: the time, and the memory in use.

A clock tells the time and then moves on; how far may depend on the number of readings made so far
and on the time itself.
-/

namespace LineCursor

/-- A clock, with the time of its next reading in seconds. -/
structure Clock where
  now : Float := 0.0
  /-- The time after the `k`-th reading, given the time of that reading. -/
  advance : Nat → Float → Float := fun _ t => t
  /-- The number of readings made so far. -/
  readings : Nat := 0

namespace Clock

/-- Reads the time. -/
def read (c : Clock) : Float × Clock :=
  (c.now, { c with now := c.advance c.readings c.now, readings := c.readings + 1 })

/-- The clock that waits `steps[k % steps.size]` seconds after the `k`-th reading, from zero on. -/
def ofSteps (steps : Array Float) : Clock :=
  { advance := fun k t => t + (steps[k % steps.size]?).getD 0.0 }

end Clock

/-- A gauge of the memory in use, in bytes. -/
structure Gauge where
  level : Nat → Int := fun _ => 0
  /-- The number of readings made so far. -/
  readings : Nat := 0

namespace Gauge

/-- Reads the memory in use. -/
def read (g : Gauge) : Int × Gauge :=
  (g.level g.readings, { g with readings := g.readings + 1 })

/-- The gauge that shows the given readings over and over again. -/
def ofReadings (levels : Array Int) : Gauge :=
  { level := fun k => (levels[k % levels.size]?).getD 0 }

end Gauge

end LineCursor
