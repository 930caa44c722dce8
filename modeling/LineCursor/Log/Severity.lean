import LineCursor.Text.Capital

/-!
Severities of log records, and the level names under which settings know them.
-/

namespace LineCursor.Log

/-- How much a record matters. -/
inductive Severity where
  | debug
  | info
  | warning
  | error
  | critical
deriving DecidableEq, Repr

namespace Severity

def all : List Severity :=
  [debug, info, warning, error, critical]

/-- The level of a severity; thresholds may lie between two of them. -/
def level : Severity → Int
  | debug => 10
  | info => 20
  | warning => 30
  | error => 40
  | critical => 50

def name : Severity → String
  | debug => "DEBUG"
  | info => "INFO"
  | warning => "WARNING"
  | error => "ERROR"
  | critical => "CRITICAL"

/-- The severity that a text names, in any mix of small and capital letters. -/
def ofSpelling? (s : String) : Option Severity :=
  all.find? fun v => v.name.toList == Text.capitals s.toList

end Severity

end LineCursor.Log
