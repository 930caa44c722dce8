import LineCursor.Clock
import LineCursor.Feed
import LineCursor.Log.Reporter
import LineCursor.Tally

/-!
Cursors: one character after the other, with its line and column.

A cursor holds one line of its feed.  This file has what can be seen of a cursor without moving it:
whether it is at the end (`Cursor.atEnd`), the character in front of it (`Cursor.front`) and where
that stands (`Cursor.location`).

An operation gives its outcome and the cursor behind it, also when it fails: what it did up to the
failure remains.
-/

namespace LineCursor

/-- The index in a line that belongs to a column: columns are counted from one on. -/
def columnIndex (column : Int) : Except Fault Nat :=
  if column < 1 then .error (.columnBelowOne column) else .ok (column - 1).toNat

/-- What a cursor shares with the program around it. -/
structure Context where
  clock : Clock := {}
  levels : Log.Levels := {}
  journal : Log.Journal := #[]

/-- Writes a record, unless it is filtered. -/
def Context.note (x : Context) (reporter : Log.Reporter) (severity : Log.Severity)
    (message : String) (extra : Entries) (cause : Option (Option Fault) := none) : Context :=
  match reporter.record? x.levels severity message extra cause with
  | some record => { x with journal := x.journal.push record }
  | none => x

/-- A place in a feed. -/
structure Cursor where
  settings : Settings := {}
  context : Context := {}
  feed : Feed
  /-- The line that the cursor is on, its terminator included. -/
  buffer : Line := .text #[]
  /-- The number of that line, from one on. -/
  line : Nat := 1
  /-- The column of the character in front of the cursor, from one on.  It may lie beyond the line
  when the next line could not be read. -/
  column : Nat := 1
  tally : Tally := {}
  /-- Whether the end has been recorded. -/
  endNoted : Bool := false

namespace Cursor

/-- The name of the feed. -/
def name (c : Cursor) : Datum :=
  c.feed.name

/-- The number of characters of the line that lie behind the cursor. -/
def index (c : Cursor) : Nat :=
  c.column - 1

def location (c : Cursor) : Location :=
  ⟨.int c.line, .int c.column, c.name⟩

/-- Whether no character is left.  That the feed is at its end is not enough: the last line may
still hold characters. -/
def atEnd (c : Cursor) : Except Fault Bool :=
  if c.feed.ended.truthy then c.buffer.length.map fun n => c.index == n else .ok false

/-- The answer to whether no character is left.  A feed that is not at its end gives its own. -/
def endMark (c : Cursor) : Except Fault Datum :=
  if c.feed.ended.truthy then c.atEnd.map .bool else .ok c.feed.ended

/-- What the records of a cursor have in common. -/
def reporter (c : Cursor) : Log.Reporter :=
  .make "lexstream.character.stream" (.ofString? c.settings.correlation) (.str "char_stream")
    c.settings.level

/-- Writes a record, unless it is filtered. -/
def note (c : Cursor) (severity : Log.Severity) (message : String) (extra : Entries)
    (cause : Option (Option Fault) := none) : Cursor :=
  { c with context := c.context.note c.reporter severity message extra cause }

/-- The character in front of the cursor. -/
def front (c : Cursor) : Except Fault Datum × Cursor :=
  match c.buffer.length with
  | .error e => (.error e, c)
  | .ok n =>
    if c.index < n then (c.buffer.item c.index, c)
    else
      (.error (.exhausted c.location),
        c.note .debug "Read past end of stream" [("position", .str c.location.text)])

/-- A cursor as messages show it. -/
def repr (c : Cursor) : String :=
  s!"CharStream(name={c.name.repr}, line={c.line}, column={c.column})"

end Cursor

end LineCursor
