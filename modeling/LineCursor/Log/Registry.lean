import LineCursor.Log.Reporter

/-!
The loggers of a program, and the reporters that share them.

A reporter belongs to the logger of its name, which comes into being with it if there was none.
Reporters of one name share the level of that logger; the least level is each reporter's own.  Of a
call at most one record is left in the journal, and the next call is made whatever became of it.
-/

namespace LineCursor.Log

/-- What a reporter is asked to emit. -/
structure Call (n : Nat) where
  /-- Which of the reporters is asked. -/
  reporter : Fin n
  severity : Severity
  message : String
  extra : Entries := []
  cause : Option (Option Fault) := none
  /-- A table has each of its keys once. -/
  distinct : extra.keys.Nodup := by decide

/-- Loggers with their levels, and `n` reporters. -/
structure Registry (n : Nat) where
  levels : Levels
  reporters : Vector Reporter n
  /-- The level of the root stands apart. -/
  proper : levels.Proper

namespace Registry

variable {n : Nat}

/-- No reporters, and no logger but the root. -/
def empty : Registry 0 where
  levels := {}
  reporters := #v[]
  proper := fun _ h => (List.not_mem_nil h).elim

/-- Sets the level of a logger. -/
def setLevel (g : Registry n) (name : String) (level : Int) : Registry n where
  levels := g.levels.set name level
  reporters := g.reporters
  proper := g.proper.set name level

/-- Makes a reporter, and its logger unless there is one. -/
def add (g : Registry n) (name : String) (correlation component : Datum := .null)
    (least : Int := 0) : Registry (n + 1) where
  levels := g.levels.register name
  reporters := g.reporters.push (.make name correlation component least)
  proper := g.proper.register name

/-- The reporter that a call is made of. -/
def reporterOf (g : Registry n) (c : Call n) : Reporter :=
  g.reporters.get c.reporter

/-- What becomes of a call: a record, nothing, or a fault. -/
def answer (g : Registry n) (c : Call n) : Except Fault (Option Record) :=
  (g.reporterOf c).emit g.levels c.severity c.message c.extra c.cause

/-- Makes a call. -/
def call (g : Registry n) (journal : Journal) (c : Call n) : Except Fault Unit × Journal :=
  match g.answer c with
  | .error e => (.error e, journal)
  | .ok none => (.ok (), journal)
  | .ok (some record) => (.ok (), journal.push record)

/-- Makes some calls, one after the other. -/
def run (g : Registry n) (journal : Journal) : List (Call n) → List (Except Fault Unit) × Journal
  | [] => ([], journal)
  | c :: calls =>
    let (reply, journal) := g.call journal c
    let (replies, journal) := g.run journal calls
    (reply :: replies, journal)

end Registry

end LineCursor.Log
