import LineCursor.Fault
import LineCursor.Log.Levels

/-!
Reporters emit log records that can be told apart: each record names the component and the
correlation of its reporter before the fields that the caller adds.

A record is emitted if its level reaches the reporter's own least level and the level that counts
for the logger of that name (`Reporter.passes`).
-/

namespace LineCursor.Log

/-- An emitted record. -/
structure Record where
  logger : String
  level : Int
  message : String
  extra : Entries
  /-- Whether the record tells the fault being handled, and which one that is if there is one. -/
  cause : Option (Option Fault) := none

/-- All records so far, oldest first. -/
abbrev Journal := Array Record

/-- One of possibly many reporters that share a logger. -/
structure Reporter where
  name : String
  correlation : Datum := .null
  component : Datum
  /-- The least level that this reporter emits. -/
  least : Int := 0

/-- The fields that every record has by itself; no caller may add one of that name. -/
def reservedKeys : List String :=
  ["message", "asctime", "name", "msg", "args", "levelname", "levelno", "pathname", "filename",
   "module", "exc_info", "exc_text", "stack_info", "lineno", "funcName", "created", "msecs",
   "relativeCreated", "thread", "threadName", "processName", "process"]

namespace Reporter

/-- A reporter for a logger.  Without a component it takes the last segment of the logger's name. -/
def make (name : String) (correlation component : Datum := .null) (least : Int := 0) : Reporter :=
  { name, correlation, least
    component := if component.truthy then component else .str (lastSegment name) }

/-- Whether a record of this level would be emitted. -/
def passes (r : Reporter) (levels : Levels) (level : Int) : Bool :=
  r.least ≤ level && levels.passes r.name level

/-- The fields of a record: component, correlation, then those of the caller in order.  A caller's
own component or correlation takes the place of the reporter's. -/
def fields (r : Reporter) (extra : Entries) : Entries :=
  Entries.update [("component", r.component), ("correlation_id", r.correlation)] extra

/-- The record with these contents, unless it is filtered. -/
def record? (r : Reporter) (levels : Levels) (severity : Severity) (message : String)
    (extra : Entries) (cause : Option (Option Fault) := none) : Option Record :=
  if r.passes levels severity.level then
    some { logger := if isRoot r.name then "root" else r.name
           level := severity.level
           message, cause
           extra := r.fields extra }
  else none

/-- Emits a record with fields of any name.  A record that is not filtered may hold no reserved key;
the first one is reported. -/
def emit (r : Reporter) (levels : Levels) (severity : Severity) (message : String)
    (extra : Entries) (cause : Option (Option Fault) := none) : Except Fault (Option Record) :=
  match r.record? levels severity message extra cause with
  | none => .ok none
  | some record =>
    match record.extra.keys.find? reservedKeys.contains with
    | some key => .error (.reservedKey key)
    | none => .ok (some record)

end Reporter

end LineCursor.Log
