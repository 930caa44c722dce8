import LineCursor.Figures

/-!
Measurements: what one reader did on one test case, and how long it took.

A measurement is looked at through its metrics, each of which is a value under a name
(`Metric.value`).  Measurements may come from anywhere, so their fields may be of any type.
-/

namespace LineCursor.Bench

/-- The outcome of reading one test case. -/
structure Measurement where
  reader : Datum
  case : Datum
  milliseconds : Datum
  megabytes : Datum
  characters : Datum
  lines : Datum
  /-- Any value, taken for its truth. -/
  success : Datum
  error : Datum := .null

namespace Measurement

def succeeded (m : Measurement) : Bool :=
  m.success.truthy

/-- Characters read per second. -/
def charactersPerSecond (m : Measurement) : Except Fault Float :=
  Figures.rate m.characters m.milliseconds

/-- Bytes of memory per character. -/
def bytesPerCharacter (m : Measurement) : Except Fault Float := do
  if ← m.characters.isAtMost 0 then return 0.0
  else m.megabytes.ratio (.int (1024 * 1024)) m.characters

/-- The fields of a measurement, in order. -/
def fields (m : Measurement) : List Datum :=
  [m.reader, m.case, m.milliseconds, m.megabytes, m.characters, m.lines, m.success, m.error]

end Measurement

/-- What can be asked of a measurement. -/
inductive Metric where
  | reader
  | case
  | milliseconds
  | megabytes
  | characters
  | lines
  | success
  | error
  | charactersPerSecond
  | bytesPerCharacter
deriving DecidableEq, Repr

namespace Metric

def all : List Metric :=
  [reader, case, milliseconds, megabytes, characters, lines, success, error, charactersPerSecond,
   bytesPerCharacter]

def name : Metric → String
  | reader => "reader_name"
  | case => "test_case"
  | milliseconds => "processing_time_ms"
  | megabytes => "memory_used_mb"
  | characters => "characters_processed"
  | lines => "lines_processed"
  | success => "success"
  | error => "error_message"
  | charactersPerSecond => "characters_per_second"
  | bytesPerCharacter => "memory_per_character"

def ofName? (name : String) : Option Metric :=
  all.find? fun metric => metric.name == name

/-- The value of a metric. -/
def value (metric : Metric) (m : Measurement) : Except Fault Datum :=
  match metric with
  | reader => .ok m.reader
  | case => .ok m.case
  | milliseconds => .ok m.milliseconds
  | megabytes => .ok m.megabytes
  | characters => .ok m.characters
  | lines => .ok m.lines
  | success => .ok m.success
  | error => .ok m.error
  | charactersPerSecond => m.charactersPerSecond.map .float
  | bytesPerCharacter => m.bytesPerCharacter.map .float

/-- The value of a metric as a number. -/
def number (metric : Metric) (m : Measurement) : Except Fault Float := do
  (← metric.value m).number

end Metric

end LineCursor.Bench
