import LineCursor.Datum.Equality
import LineCursor.Datum.Written

/-!
Locations: where a cursor stands.

Lines and columns are counted from one on.  In messages a location reads `name:line:column`.
Whoever builds a location by hand may give numbers of any type for line and column, and these are
kept as they are.
-/

namespace LineCursor

/-- A line and a column of a named or anonymous source. -/
structure Location where
  line : Datum
  column : Datum
  /-- The name of the source, `null` if it has none. -/
  name : Datum := .null

namespace Location

/-- Why two numbers are no line and column. -/
inductive Invalid where
  | line (given : Datum)
  | column (given : Datum)

def Invalid.message : Invalid → String
  | .line given => s!"line must be >= 1, got {given.display}"
  | .column given => s!"column must be >= 1, got {given.display}"

/-- What messages show for the name: a source without name is anonymous. -/
def label (l : Location) : String :=
  if l.name.truthy then l.name.display else "<anonymous>"

/-- A location as messages show it.  A number is written with all of its digits: that an interpreter
refuses to write integers of more than 4300 digits is not modelled. -/
def text (l : Location) : String :=
  s!"{l.label}:{l.line.display}:{l.column.display}"

/-- A location with its fields. -/
def repr (l : Location) : String :=
  s!"StreamPosition(line={l.line.repr}, column={l.column.repr}, name={l.name.repr})"

/-- Whether two locations agree in line, column and name. -/
def same (a b : Location) : Bool :=
  a.line.same b.line && a.column.same b.column && a.name.same b.name

end Location

end LineCursor
