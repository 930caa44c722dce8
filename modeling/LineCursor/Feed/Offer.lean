import LineCursor.Feed.File

/-!
What a caller may offer for reading.

An object that says its name, whether its end is reached, and what its next line is, is a source
(`Offer.source?`) and is read as it is.  Any other object is read as a file, if it is one.
-/

namespace LineCursor

/-- What an object says about its name. -/
inductive Label where
  | absent
  | value (d : Datum)
  /-- An object that stands for a path of the file system: its text or bytes. -/
  | path (d : Datum)

namespace Label

/-- The name as it is, if there is any. -/
def value? : Label → Option Datum
  | absent => none
  | value d => some d
  | path d => some d

/-- The name as a text: a text or bytes, in which case they hold UTF-8.  Other names, such as the
number of an open file, do not last. -/
def text? (label : Label) : Option String :=
  match label.value? with
  | some (.str s) => some s
  | some (.bytes data) => String.fromUTF8? ⟨data⟩
  | _ => none

end Label

/-- A source that hands out lines by itself. -/
structure Source where
  name : Datum
  /-- Whether the end is reached; any value, taken for its truth. -/
  ended : Datum
  /-- What the `k`-th read gives, and whether the end is reached then. -/
  script : Nat → Datum × Except Fault Line
  /-- The number of reads so far. -/
  reads : Nat := 0

/-- The end is marked before the line is handed out, so also by a read that fails. -/
def Source.readLine (s : Source) : Except Fault Line × Source :=
  let (ended, outcome) := s.script s.reads
  (outcome, { s with ended, reads := s.reads + 1 })

/-- An object offered for reading, by what it can do. -/
structure Offer where
  name : Label := .absent
  /-- Whether the end is reached, if the object says so. -/
  ended : Option Datum := none
  /-- What the `k`-th read gives, if the object hands out lines, and whether the end is reached
  then. -/
  script : Option (Nat → Datum × Except Fault Line) := none
  /-- The number of such reads so far. -/
  reads : Nat := 0
  /-- The object as a file, if it is one. -/
  file : Option File := none

namespace Offer

/-- The object as a source, if it is one. -/
def source? (o : Offer) : Option Source := do
  let name ← o.name.value?
  let ended ← o.ended
  let script ← o.script
  return { name, ended, script, reads := o.reads }

/-- The object after the source that it is has been read. -/
def withSource (o : Offer) (s : Source) : Offer :=
  { o with ended := some s.ended, reads := s.reads }

end Offer

end LineCursor
