import LineCursor.Bench.Measurement
import LineCursor.Bench.Statistics

/-!
Suites: measurements in order of arrival, and the report on them.

A report has one summary for each reader and one detail for each pair of test case and reader that
was measured, the last one if it was measured repeatedly.  Readers and test cases stand in ascending
order, and the readers of one test case in the order in which they first came.
-/

namespace LineCursor.Bench

structure Suite where
  name : Datum := .str "Character Stream Benchmark"
  timestamp : Datum := .float 0.0
  results : List Measurement := []

namespace Suite

def add (s : Suite) (m : Measurement) : Suite :=
  { s with results := s.results ++ [m] }

def ofReader (s : Suite) (reader : Datum) : List Measurement :=
  s.results.filter (·.reader.equal reader)

def ofCase (s : Suite) (case : Datum) : List Measurement :=
  s.results.filter (·.case.equal case)

/-- The statistics of a metric over the successes of a reader. -/
def statistics (s : Suite) (reader : Datum) (metric : Metric) :
    Except Fault (Option Statistics) := do
  Statistics.of? (← ((s.ofReader reader).filter (·.succeeded)).mapM metric.number)

/-- The statistics of the metric with a name.  Where no metric has that name there are none. -/
def statisticsNamed (s : Suite) (reader : Datum) (metric : String) :
    Except Fault (Option Statistics) :=
  match Metric.ofName? metric with
  | some metric => s.statistics reader metric
  | none => .ok none

/-- The names of readers, in ascending order. -/
def readers (s : Suite) : Except Fault (List Datum) :=
  Datum.ascending (s.results.map (·.reader))

/-- The names of test cases, in ascending order. -/
def cases (s : Suite) : Except Fault (List Datum) :=
  Datum.ascending (s.results.map (·.case))

end Suite

/-! ## Reports -/

/-- What a report says about a reader. -/
structure Summary where
  runs : Nat
  successes : Nat
  successRate : Float
  performance : Option Statistics
  memory : Option Statistics

/-- What a report says about a reader on a test case. -/
structure Detail where
  result : Measurement
  charactersPerSecond : Float

structure Report where
  name : Datum
  timestamp : Datum
  total : Nat
  readers : List Datum
  cases : List Datum
  summaries : List (Datum × Summary)
  details : List (Datum × List (Datum × Detail))

namespace Suite

/-- The summary of a reader.  A name that equals nothing has no runs, and no rate of successes. -/
def summary (s : Suite) (reader : Datum) : Except Fault Summary := do
  let results := s.ofReader reader
  let successes := (results.filter (·.succeeded)).length
  return {
    runs := results.length
    successes
    successRate := ← Number.ofQuotient successes results.length
    performance := ← s.statistics reader .charactersPerSecond
    memory := ← s.statistics reader .megabytes }

/-- A measurement with its rate. -/
def detail (m : Measurement) : Except Fault Detail := do
  return { result := m, charactersPerSecond := ← m.charactersPerSecond }

/-- The last detail of each reader, the readers in the order in which they first came. -/
def lastOfEach (details : List Detail) : List (Datum × Detail) :=
  ((details.map (·.result.reader)).eraseDupsBy Datum.same).filterMap fun reader =>
    (details.reverse.find? (·.result.reader.same reader)).map (reader, ·)

/-- The details on a test case.  A reader whose name may not be looked up by has been reported by
then, with the names of all readers. -/
def details (s : Suite) (case : Datum) : Except Fault (List (Datum × Detail)) := do
  return lastOfEach (← (s.ofCase case).mapM detail)

/-- The report on a suite. -/
def report (s : Suite) : Except Fault Report := do
  let readers ← s.readers
  let cases ← s.cases
  return {
    name := s.name
    timestamp := s.timestamp
    total := s.results.length
    readers, cases
    summaries := ← readers.mapM fun reader => return (reader, ← s.summary reader)
    details := ← cases.mapM fun case => return (case, ← s.details case) }

end Suite

/-! ## Reports as tables -/

def Summary.toDatum (s : Summary) : Datum :=
  .dict
    [("total_runs", .int s.runs), ("successful_runs", .int s.successes),
     ("success_rate", .float s.successRate), ("performance", Statistics.toDatum s.performance),
     ("memory", Statistics.toDatum s.memory)]

def Detail.toDatum (d : Detail) : Datum :=
  .dict
    [("processing_time_ms", d.result.milliseconds), ("memory_used_mb", d.result.megabytes),
     ("characters_per_second", .float d.charactersPerSecond), ("lines_processed", d.result.lines),
     ("success", d.result.success), ("error", d.result.error)]

/-- A table with one entry for each name.  A name that is no text stands in its written form. -/
def namedTable {α : Type} (toDatum : α → Datum) (rows : List (Datum × α)) : Datum :=
  .dict (rows.map fun (name, row) => (name.display, toDatum row))

/-- A report as a table. -/
def Report.toDatum (r : Report) : Datum :=
  .dict
    [("suite_name", r.name), ("timestamp", r.timestamp), ("total_results", .int r.total),
     ("readers", .list r.readers), ("test_cases", .list r.cases),
     ("summary", namedTable Summary.toDatum r.summaries),
     ("detailed_results", namedTable (namedTable Detail.toDatum) r.details)]

end LineCursor.Bench
