import LineCursor.Datum.Order

/-!
Making locations from values.
-/

namespace LineCursor.Location

/-- The location with the given line and column, each at least one; the line is checked first. -/
def make (line column : Datum) (name : Datum := .null) : Except Fault Location := do
  if ← line.isBelow 1 then throw (.location (.line line))
  if ← column.isBelow 1 then throw (.location (.column column))
  return ⟨line, column, name⟩

/-- Whether two locations are the same when they are looked up by; their names must allow that. -/
def sameKey (a b : Location) : Except Fault Bool := do
  a.name.hashable
  b.name.hashable
  return a.same b

end LineCursor.Location
