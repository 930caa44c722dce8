import LineCursor.Number.Rounded

/-!
Statistics of a row of numbers.

Mean and deviation are computed exactly and rounded once.  Every finite number is an integer
multiple `s` of `2^(-1074)`; with `n` numbers the exact values are

    mean      = Σ s / n
    variance  = (n · Σ s² - (Σ s)²) / (n · (n - 1))

The mean lies between the least and the greatest number, so it never leaves the range of binary64
numbers.  The deviation may.
-/

namespace LineCursor.Bench

open Number

structure Statistics where
  least : Float
  greatest : Float
  mean : Float
  median : Float
  /-- The deviation of the numbers as a sample; of a single number it is zero. -/
  deviation : Float
  count : Nat

namespace Statistics

/-- The first of the numbers before which, by `before`, comes none of the others. -/
def extreme (before : Float → Float → Bool) (x : Float) (xs : List Float) : Float :=
  xs.foldl (fun best y => if before y best then y else best) x

/-- The sum of an integer for each number. -/
def total (f : Float → Int) (xs : List Float) : Int :=
  xs.foldl (fun sum x => sum + f x) 0

/-- The mean.  Infinite numbers and such that are none decide alone: their sum is the mean. -/
def meanOf (xs : List Float) : Float :=
  match xs.filter (!Binary64.isFinite ·) with
  | y :: ys => ys.foldl (· + ·) y
  | [] =>
    (Binary64.ofIntRatio? (total Binary64.scaled xs) (xs.length * Nat.pow 2 1074)).getD 0.0

/-- The middle of the numbers in ascending order, or half way between the two in the middle. -/
def medianOf (xs : List Float) : Float :=
  let sorted := xs.mergeSort fun x y => x ≤ y
  let middle := sorted.length / 2
  let upper := sorted[middle]?.getD 0.0
  if sorted.length % 2 = 1 then upper else (sorted[middle - 1]?.getD 0.0 + upper) / 2.0

/-- The deviation of at least two numbers as a sample. -/
def deviationOf (xs : List Float) : Except Fault Float :=
  if xs.all Binary64.isFinite then
    let n : Int := xs.length
    let sum := total Binary64.scaled xs
    let squares := total (fun x => Binary64.scaled x * Binary64.scaled x) xs
    let variance := (n * squares - sum * sum).toNat
    match Binary64.sqrtRatio? variance ((n * (n - 1)).toNat * Nat.pow 2 2148) with
    | some x => .ok x
    | none => .error .quotientTooLarge
  else .error .noSpread

/-- The statistics of some numbers, if there are any. -/
def of? : List Float → Except Fault (Option Statistics)
  | [] => .ok none
  | x :: xs => do
    let deviation ← if xs.isEmpty then pure 0.0 else deviationOf (x :: xs)
    return some
      { least := extreme (· < ·) x xs
        greatest := extreme (· > ·) x xs
        mean := meanOf (x :: xs)
        median := medianOf (x :: xs)
        deviation
        count := xs.length + 1 }

/-- Statistics as a table; without numbers it is empty. -/
def toDatum : Option Statistics → Datum
  | none => .dict []
  | some s => .dict
    [("min", .float s.least), ("max", .float s.greatest), ("mean", .float s.mean),
     ("median", .float s.median), ("stdev", .float s.deviation), ("count", .int s.count)]

end Statistics

end LineCursor.Bench
