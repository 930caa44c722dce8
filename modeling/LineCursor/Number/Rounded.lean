import LineCursor.Fault
import LineCursor.Number.Binary64

/-!
Integers and their quotients as binary64 numbers.

The result is the nearest such number; beyond the largest one there is none, and that is a fault.
-/

namespace LineCursor.Number

/-- An integer as binary64 number. -/
def ofInt (n : Int) : Except Fault Float :=
  match Binary64.ofInt? n with
  | some x => .ok x
  | none => .error .integerTooLarge

/-- A quotient of integers as binary64 number. -/
def ofQuotient (a b : Int) : Except Fault Float :=
  if b = 0 then .error .divisionByZero
  else
    match Binary64.ofIntRatio? a b with
    | some x => .ok x
    | none => .error .quotientTooLarge

end LineCursor.Number
