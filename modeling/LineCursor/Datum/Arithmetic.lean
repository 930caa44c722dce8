import LineCursor.Datum.Equality
import LineCursor.Number.Numeral
import LineCursor.Number.Rounded

/-!
Calculating with values.

Integers are multiplied exactly and divided with one rounding.  Where a binary64 number takes part,
an integer is rounded first.  Truth values count as 0 and 1.  Other types are faults, each in its
own way.
-/

namespace LineCursor

namespace Quantity

/-- The name under which messages mention the type of a number. -/
def typeName : Quantity → String
  | int _ => "int"
  | float _ => "float"

/-- The nearest binary64 number. -/
def round : Quantity → Except Fault Float
  | int n => Number.ofInt n
  | float x => .ok x

def times : Quantity → Quantity → Except Fault Quantity
  | int m, int n => .ok (.int (m * n))
  | p, q => return .float ((← p.round) * (← q.round))

def dividedBy : Quantity → Quantity → Except Fault Float
  | int m, int n => Number.ofQuotient m n
  | p, q => return (← p.round) / (← q.round)

end Quantity

namespace Datum

/-- Whether a value is a row of items, which may be taken several times. -/
def isSequence : Datum → Bool
  | .str _ => true
  | .bytes _ => true
  | .list _ => true
  | _ => false

/-- The quotient of two values. -/
def quotient (a b : Datum) : Except Fault Float :=
  match a.quantity?, b.quantity? with
  | some p, some q => p.dividedBy q
  | _, _ => .error (.noOperator "/" a.typeName b.typeName)

/-- The quotient of a value that is first taken a number of times, by another value.  A row of items
can be taken a whole number of times, but what comes of it cannot be divided. -/
def ratio (d : Datum) (factor : Quantity) (divisor : Datum) : Except Fault Float :=
  match d.quantity? with
  | some p => do
    let product ← p.times factor
    match divisor.quantity? with
    | some q => product.dividedBy q
    | none => throw (.noOperator "/" product.typeName divisor.typeName)
  | none =>
    if d.isSequence then
      match factor with
      | .int _ => .error (.noOperator "/" d.typeName divisor.typeName)
      | .float _ => .error (.noRepetition factor.typeName)
    else .error (.noOperator "*" d.typeName factor.typeName)

/-- A text as a number. -/
def readNumber (d : Datum) (text : List Char) : Except Fault Float :=
  match Number.numeral? text with
  | some x => .ok x
  | none => .error (.notNumeral d)

/-- A value as a binary64 number: numbers are rounded and texts are read, byte strings as ASCII. -/
def number (d : Datum) : Except Fault Float :=
  match d.quantity?, d with
  | some p, _ => p.round
  | none, .str s => readNumber d s.toList
  | none, .bytes data =>
    if data.all (· < 0x80) then readNumber d (data.toList.map fun b => Char.ofNat b.toNat)
    else .error (.notNumeral d)
  | none, _ => .error (.notNumber d.typeName)

/-- How often something happens that happens as often as a value says; negative numbers count as
zero. -/
def repetitions : Datum → Except Fault Nat
  | .int n => .ok n.toNat
  | .bool b => .ok b.toNat
  | d => .error (.notInteger d.typeName)

end Datum

end LineCursor
