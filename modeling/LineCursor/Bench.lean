import LineCursor.Bench.Cases
import LineCursor.Bench.Reader
import LineCursor.Bench.Suite

/-!
Benchmarks: each reader on each test case, a few times to warm up and then a few times to measure.

A run reads the gauge and the clock, counts the text, and reads the clock and the gauge again
(`Bench.runOnce`).  The runs of one reader on one test case are averaged over those that succeeded;
if none did the first one stands for all (`Bench.average`).

An operation gives its outcome and the benchmark behind it, also when it fails.
-/

namespace LineCursor

open Bench

/-- The failures that are planned for a reader. -/
structure Bench.Plan where
  /-- How the `k`-th use fails, if it does. -/
  failing : Nat → Option Fault := fun _ => none
  /-- The number of uses since the failures were planned. -/
  uses : Nat := 0

/-- A benchmark and the instruments that it reads. -/
structure Bench where
  correlation : Datum
  /-- How often a reader warms up on a test case, and how often it is measured then. -/
  warmups : Datum
  runs : Datum
  settings : Settings
  cases : Entries := standardCases
  context : Context := {}
  gauge : Gauge := {}
  /-- Planned failures of the cursor and of the baseline. -/
  cursorPlan : Plan := {}
  baselinePlan : Plan := {}

namespace Bench

/-- What a benchmark is built from. -/
structure Arguments where
  correlation : Datum := .null
  warmups : Datum := .int 1
  runs : Datum := .int 3

/-- Sets the named argument. -/
def Arguments.set? (a : Arguments) (name : String) (value : Datum) : Option Arguments :=
  match name with
  | "correlation_id" => some { a with correlation := value }
  | "warmup_runs" => some { a with warmups := value }
  | "benchmark_runs" => some { a with runs := value }
  | _ => none

/-- Arguments by name. -/
def Arguments.ofEntries (entries : Entries) : Except Fault Arguments :=
  entries.setFields "CharStreamBenchmark" set? {}

/-- A benchmark has at least one run.  Its cursors are quiet and have its correlation. -/
def make (a : Arguments) (context : Context := {}) (gauge : Gauge := {}) : Except Fault Bench := do
  if ← a.warmups.isBelow 0 then throw .negativeWarmups
  if ← a.runs.isAtMost 0 then throw .noRuns
  let settings ← (Settings.quiet.override [("correlation_id", a.correlation)]).mapError .settings
  return {
    correlation := a.correlation
    warmups := a.warmups
    runs := a.runs
    settings, context, gauge }

/-! ## Test cases -/

/-- Registers a test case.  A name that is taken keeps its place and gets the new content. -/
def addCase (b : Bench) (name : String) (content : Datum) : Except Fault Bench :=
  if name.isEmpty then .error .unnamedCase
  else .ok { b with cases := b.cases.put name content }

def clearCases (b : Bench) : Bench :=
  { b with cases := [] }

/-! ## Readings and records -/

/-- The memory in use, in megabytes. -/
def memory (b : Bench) : Except Fault Float × Bench :=
  let (bytes, gauge) := b.gauge.read
  ((Number.ofQuotient bytes 1024).map fun kilobytes => kilobytes / 1024.0, { b with gauge })

/-- The time, in seconds. -/
def time (b : Bench) : Float × Bench :=
  let (now, clock) := b.context.clock.read
  (now, { b with context := { b.context with clock } })

def reporter (b : Bench) : Log.Reporter :=
  .make "lexstream.tools.benchmarks" b.correlation (.str "benchmark")

/-- Writes a record, unless it is filtered. -/
def note (b : Bench) (severity : Log.Severity) (message : String) (extra : Entries) : Bench :=
  { b with context := b.context.note b.reporter severity message extra }

/-! ## Runs -/

def plan (b : Bench) : Reader → Plan
  | .cursor => b.cursorPlan
  | .baseline => b.baselinePlan

def setPlan (b : Bench) (reader : Reader) (plan : Plan) : Bench :=
  match reader with
  | .cursor => { b with cursorPlan := plan }
  | .baseline => { b with baselinePlan := plan }

/-- Plans failures of a reader, counted from its next use on. -/
def planFailures (b : Bench) (reader : Reader) (failing : Nat → Option Fault) : Bench :=
  b.setPlan reader { failing }

/-- Counts a text with a reader. -/
def count (b : Bench) (reader : Reader) (content : Datum) : Except Fault Counts × Bench :=
  let plan := b.plan reader
  let b := b.setPlan reader { plan with uses := plan.uses + 1 }
  match plan.failing plan.uses with
  | some fault => (.error fault, b)
  | none =>
    match contentText content with
    | .error e => (.error e, b)
    | .ok text => (reader.count b.settings b.context.levels text, b)

/-- What comes of a count: a failure is recorded and measured like a success that counted nothing.
An interruption is not a measurement. -/
def settle (b : Bench) (reader : Reader) (case : String) :
    Except Fault Counts → Except Fault (Counts × Option String) × Bench
  | .ok counts => (.ok (counts, none), b)
  | .error e =>
    if e.isOrdinary then
      (.ok (⟨0, 0⟩, some e.text),
        b.note .warning s!"Benchmark run failed for {reader.name}"
          [("test_case", .str case), ("error", .str e.text)])
    else (.error e, b)

/-- One run of a reader on a test case. -/
structure Run where
  milliseconds : Float
  megabytes : Float
  counts : Counts
  error : Option String

/-- Runs a reader on a test case.  Memory that was freed meanwhile does not count. -/
def runOnce (b : Bench) (reader : Reader) (case : String) (content : Datum) :
    Except Fault Run × Bench :=
  match b.memory with
  | (.error e, b) => (.error e, b)
  | (.ok before, b) =>
    let (start, b) := b.time
    let (outcome, b) := b.count reader content
    match b.settle reader case outcome with
    | (.error e, b) => (.error e, b)
    | (.ok (counts, error), b) =>
      let (finish, b) := b.time
      match b.memory with
      | (.error e, b) => (.error e, b)
      | (.ok after, b) =>
        let used := after - before
        (.ok
          { milliseconds := (finish - start) * 1000.0
            megabytes := if used > 0.0 then used else 0.0
            counts, error },
          b)

/-- A number of runs, or the first fault that is not a measurement. -/
def repeatRuns (reader : Reader) (case : String) (content : Datum) :
    Nat → Bench → Except Fault (List Run) × Bench
  | 0, b => (.ok [], b)
  | n + 1, b =>
    match b.runOnce reader case content with
    | (.error e, b) => (.error e, b)
    | (.ok run, b) =>
      match repeatRuns reader case content n b with
      | (.error e, b) => (.error e, b)
      | (.ok runs, b) => (.ok (run :: runs), b)

/-- The run that stands for some runs. -/
def average (first : Run) (others : List Run) : Run :=
  match (first :: others).filter (·.error.isNone) with
  | [] => first
  | run :: runs =>
    { run with
      milliseconds := Statistics.meanOf ((run :: runs).map (·.milliseconds))
      megabytes := Statistics.meanOf ((run :: runs).map (·.megabytes)) }

/-- A run as the measurement of a reader on a test case. -/
def Run.measurement (run : Run) (reader : Reader) (case : String) : Measurement where
  reader := .str reader.name
  case := .str case
  milliseconds := .float run.milliseconds
  megabytes := .float run.megabytes
  characters := .int run.counts.characters
  lines := .int run.counts.lines
  success := .bool run.error.isNone
  error := .ofString? run.error

/-- Warms up as often as the benchmark says. -/
def warmUp (b : Bench) (reader : Reader) (case : String) (content : Datum) :
    Except Fault Unit × Bench :=
  match b.warmups.repetitions with
  | .error e => (.error e, b)
  | .ok n =>
    match repeatRuns reader case content n b with
    | (.error e, b) => (.error e, b)
    | (.ok _, b) => (.ok (), b)

/-- The measurement of a reader on a test case: as many runs as the benchmark says, which are one at
least. -/
def measure (b : Bench) (reader : Reader) (case : String) (content : Datum) :
    Except Fault Measurement × Bench :=
  match b.warmUp reader case content with
  | (.error e, b) => (.error e, b)
  | (.ok (), b) =>
    match b.runs.repetitions with
    | .error e => (.error e, b)
    | .ok n =>
      match b.runOnce reader case content with
      | (.error e, b) => (.error e, b)
      | (.ok first, b) =>
        match repeatRuns reader case content (n - 1) b with
        | (.error e, b) => (.error e, b)
        | (.ok others, b) => (.ok ((average first others).measurement reader case), b)

/-- Adds the measurements for pairs of reader and test case to a suite. -/
def measureAll : List (Reader × String × Datum) → Suite → Bench → Except Fault Suite × Bench
  | [], suite, b => (.ok suite, b)
  | (reader, case, content) :: rest, suite, b =>
    match b.measure reader case content with
    | (.error e, b) => (.error e, b)
    | (.ok m, b) => measureAll rest (suite.add m) b

/-- Measures each reader on each test case, the test cases in order of registration. -/
def run (b : Bench) (withBaseline : Bool := true) : Except Fault Suite × Bench :=
  let readers : List Reader := if withBaseline then [.cursor, .baseline] else [.cursor]
  let b := b.note .info "Starting benchmark suite"
    [("test_cases", .int b.cases.length),
     ("readers", .list (readers.map fun reader => .str reader.name)),
     ("warmup_runs", b.warmups), ("benchmark_runs", b.runs)]
  let pairs := b.cases.flatMap fun (case, content) =>
    readers.map fun reader => (reader, case, content)
  match measureAll pairs {} b with
  | (.error e, b) => (.error e, b)
  | (.ok suite, b) =>
    (.ok suite,
      b.note .info "Benchmark suite completed" [("total_results", .int suite.results.length)])

end Bench

end LineCursor
