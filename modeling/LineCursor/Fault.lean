import LineCursor.Location
import LineCursor.Settings

/-!
Faults: everything that can go wrong, by cause, and the message of each.
-/

namespace LineCursor

/-- What an object lacks that is to be read line by line. -/
inductive Lack where
  | readline
  | openness
  | readability
deriving DecidableEq, Repr

def Lack.message : Lack → String
  | .readline => "stream must provide readline()"
  | .openness => "stream must be open"
  | .readability => "stream must be readable"

/-- Why an operation failed. -/
inductive Fault where
  /-- The file or source reports a failure of its own, of the given kind. -/
  | device (kind message : String)
  /-- The file or source says that there is no more. -/
  | stopped (message : String)
  /-- The program is being stopped from outside.  Nobody records or catches this. -/
  | interrupted (kind message : String)
  /-- A file in memory was read after it had been closed. -/
  | closedText
  | closedBytes
  /-- An object cannot be read line by line. -/
  | unusable (lack : Lack) (name : Option String)
  /-- No character is left. -/
  | exhausted (place : Location)
  /-- A value of the given type stands where a line should. -/
  | noLength (type : String)
  | noParts (type : String)
  | noEnd (type : String)
  | notCallable (type : String)
  | columnBelowOne (column : Int)
  | location (reason : Location.Invalid)
  | settings (issue : Settings.Issue)
  /-- A field of a record or table that cannot be changed. -/
  | frozen (field : String)
  | unknownField (owner name : String)
  /-- A function is given an argument that it has already. -/
  | givenTwice (function name : String)
  /-- A key that every record of a log has anyway. -/
  | reservedKey (key : String)
  /-- A value of the given type has no form in JSON. -/
  | unwritable (type : String)
  /-- An object of the given type cannot be copied. -/
  | uncopyable (type : String)
  /-- A JSON text that is well formed as far as it was read, and too large. -/
  | oversized (excess : Json.Excess)
  /-- Values of the given types cannot be compared, or calculated with, in this way. -/
  | noOrder (symbol left right : String)
  | noOperator (symbol left right : String)
  /-- Something is to be taken so many times, and the given type counts nothing. -/
  | noRepetition (type : String)
  | notInteger (type : String)
  /-- A value of the given type cannot be looked up. -/
  | unhashable (type : String)
  | integerTooLarge
  | quotientTooLarge
  | divisionByZero
  | notNumeral (text : Datum)
  | notNumber (type : String)
  /-- The spread of numbers of which one is infinite or not a number. -/
  | noSpread
  | negativeWarmups
  | noRuns
  | unnamedCase
  | notContent (type : String)

namespace Fault

/-- An interruption passes through; any other fault may be recorded, or caught and reported. -/
def isOrdinary : Fault → Bool
  | interrupted _ _ => false
  | _ => true

def message : Fault → String
  | device _ message => message
  | stopped message => message
  | interrupted _ message => message
  | closedText => "I/O operation on closed file"
  | closedBytes => "I/O operation on closed file."
  | unusable lack name =>
    match name with
    | none => lack.message
    | some name => if name.isEmpty then lack.message else s!"{lack.message}: {name}"
  | exhausted place => s!"no character available at {place.text}: stream is exhausted"
  | noLength type => s!"object of type '{type}' has no len()"
  | noParts type => s!"'{type}' object is not subscriptable"
  | noEnd type => s!"'{type}' object has no attribute 'endswith'"
  | notCallable type => s!"'{type}' object is not callable"
  | columnBelowOne column => s!"column must be >= 1, got {column}"
  | location reason => reason.message
  | settings issue => issue.message
  | frozen field => s!"cannot assign to field {Text.quote field}"
  | unknownField owner name => unknownFieldText owner name
  | givenTwice function name => s!"{function}() got multiple values for argument '{name}'"
  | reservedKey key => s!"Attempt to overwrite {Text.quote key} in LogRecord"
  | unwritable type => s!"Object of type {type} is not JSON serializable"
  | uncopyable type => s!"cannot pickle '{type}' object"
  | oversized excess => excess.message
  | noOrder symbol left right =>
    s!"'{symbol}' not supported between instances of '{left}' and '{right}'"
  | noOperator symbol left right =>
    s!"unsupported operand type(s) for {symbol}: '{left}' and '{right}'"
  | noRepetition type => s!"can't multiply sequence by non-int of type '{type}'"
  | notInteger type => s!"'{type}' object cannot be interpreted as an integer"
  | unhashable type => s!"unhashable type: '{type}'"
  | integerTooLarge => "int too large to convert to float"
  | quotientTooLarge => "integer division result too large for a float"
  | divisionByZero => "division by zero"
  | notNumeral text => s!"could not convert string to float: {text.repr}"
  | notNumber type => s!"float() argument must be a string or a real number, not '{type}'"
  | noSpread => "'float' object has no attribute 'numerator'"
  | negativeWarmups => "warmup_runs must be >= 0"
  | noRuns => "benchmark_runs must be > 0"
  | unnamedCase => "Test case name cannot be empty"
  | notContent type => s!"initial_value must be str or None, not {type}"

/-- A fault in a text of its own.  A key stands in quotes there. -/
def text : Fault → String
  | device kind message => if kind = "KeyError" then Text.quote message else message
  | e => e.message

end Fault

end LineCursor
