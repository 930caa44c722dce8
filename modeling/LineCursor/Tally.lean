import LineCursor.Figures

/-!
Tallies: what a cursor has read so far.
-/

namespace LineCursor

/-- Counters of a cursor, and the time its reads took. -/
structure Tally where
  characters : Int := 0
  /-- Reads that gave something. -/
  lines : Int := 0
  refills : Int := 0
  /-- The time spent in reads that succeeded. -/
  milliseconds : Float := 0.0

namespace Tally

def figures (t : Tally) : Figures where
  characters := .int t.characters
  lines := .int t.lines
  refills := .int t.refills
  milliseconds := .float t.milliseconds

/-- A tally with its rates as a table. -/
def toDatum (t : Tally) : Except Fault Datum :=
  t.figures.toDatum

end Tally

end LineCursor
