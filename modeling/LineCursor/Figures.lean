import LineCursor.Arguments
import LineCursor.Datum.Arithmetic
import LineCursor.Datum.Order

/-!
Figures of reading, and the rates that follow from them.

Figures may be of any type: whoever keeps them by hand is not held to numbers.  A rate divides by
what was measured; where nothing was measured it is zero.
-/

namespace LineCursor

/-- What was read, and the time that it took. -/
structure Figures where
  characters : Datum := .int 0
  /-- Reads that gave something. -/
  lines : Datum := .int 0
  refills : Datum := .int 0
  /-- The time spent in reads that succeeded. -/
  milliseconds : Datum := .float 0.0

namespace Figures

/-- Sets the named figure. -/
def set? (f : Figures) (name : String) (value : Datum) : Option Figures :=
  match name with
  | "characters_consumed" => some { f with characters := value }
  | "lines_read" => some { f with lines := value }
  | "refills" => some { f with refills := value }
  | "processing_time_ms" => some { f with milliseconds := value }
  | _ => none

/-- The figures with the given ones by name. -/
def ofArguments (arguments : Entries) : Except Fault Figures :=
  arguments.setFields "StreamMetrics" set? {}

/-- Events per second, for a number of events in a number of milliseconds. -/
def rate (events milliseconds : Datum) : Except Fault Float := do
  if ← milliseconds.isAtMost 0 then return 0.0
  else events.ratio (.float 1000.0) milliseconds

/-- Characters read per second. -/
def charactersPerSecond (f : Figures) : Except Fault Float :=
  rate f.characters f.milliseconds

/-- Characters per line, terminators included. -/
def averageLineLength (f : Figures) : Except Fault Float :=
  if f.lines.equal (.int 0) then .ok 0.0 else f.characters.quotient f.lines

/-- Figures with their rates as a table. -/
def toDatum (f : Figures) : Except Fault Datum := do
  let perSecond ← f.charactersPerSecond
  let average ← f.averageLineLength
  return .dict
    [("characters_consumed", f.characters), ("lines_read", f.lines), ("refills", f.refills),
     ("processing_time_ms", f.milliseconds), ("characters_per_second", .float perSecond),
     ("average_line_length", .float average)]

end Figures

end LineCursor
