import LineCursor.Datum
import LineCursor.Number.Binary64

/-!
Numbers among data.

Truth values count as 0 and 1, so three types of data are numbers (`Datum.quantity?`).  A comparison
of an integer with a binary64 number is exact: both are taken `2^1074` times, which makes integers
of them.  An infinite number compares with every integer as it does with zero.
-/

namespace LineCursor

/-- A number of either kind. -/
inductive Quantity where
  | int (n : Int)
  | float (x : Float)

namespace Quantity

/-- A comparison of numbers, given as one of integers and one of binary64 numbers. -/
def compareBy (ints : Int → Int → Bool) (floats : Float → Float → Bool) :
    Quantity → Quantity → Bool
  | int m, int n => ints m n
  | float x, float y => floats x y
  | int n, float x =>
    if Number.Binary64.isFinite x then
      ints (n * (Nat.pow 2 1074 : Nat)) (Number.Binary64.scaled x)
    else floats 0.0 x
  | float x, int n =>
    if Number.Binary64.isFinite x then
      ints (Number.Binary64.scaled x) (n * (Nat.pow 2 1074 : Nat))
    else floats x 0.0

/-- Whether two numbers are equal.  What is not a number equals nothing. -/
def equal : Quantity → Quantity → Bool :=
  compareBy (· == ·) (· == ·)

/-- Whether a number is less than another. -/
def less : Quantity → Quantity → Bool :=
  compareBy (· < ·) (· < ·)

/-- Whether a number is at most another. -/
def atMost : Quantity → Quantity → Bool :=
  compareBy (· ≤ ·) (· ≤ ·)

end Quantity

/-- The number that a value is. -/
def Datum.quantity? : Datum → Option Quantity
  | .bool b => some (.int b.toInt)
  | .int n => some (.int n)
  | .float x => some (.float x)
  | .nan => some (.float (Float.ofBits 0x7FF8000000000000))
  | _ => none

end LineCursor
