/-!
Binary64 numbers as exact dyadic fractions.

A finite number is `± m · 2^q` with `m < 2^53` and `-1074 ≤ q ≤ 971`.  Going there and back is
exact arithmetic on naturals with one rounding at the end, to the nearest number, of two equally
near ones to the one with even `m`:

    scaled x        = x · 2^1074, an integer
    ofRatio? n d    = n / d rounded, or nothing beyond the largest finite number
    sqrtRatio? n d  = the root of n / d rounded, likewise
-/

namespace LineCursor.Number

/-- The magnitude `m · 2^q` of a finite number. -/
structure Dyadic where
  m : Nat
  q : Int

namespace Binary64

def isNegative (x : Float) : Bool :=
  x.toBits >>> 63 != 0

def isFinite (x : Float) : Bool :=
  (x.toBits >>> 52) &&& 0x7FF != 0x7FF

/-- The magnitude of a finite number. -/
def magnitude (x : Float) : Dyadic :=
  let exponent := ((x.toBits >>> 52) &&& 0x7FF).toNat
  let fraction := (x.toBits &&& 0xFFFFFFFFFFFFF).toNat
  if exponent = 0 then ⟨fraction, -1074⟩ else ⟨Nat.pow 2 52 + fraction, exponent - 1075⟩

/-- A finite number times `2^1074`: every finite number is a multiple of the least positive one. -/
def scaled (x : Float) : Int :=
  let d := magnitude x
  let n : Int := (d.m * Nat.pow 2 (d.q + 1074).toNat : Nat)
  if isNegative x then -n else n

/-- `n / d` rounded to an integer, a half to the even neighbour. -/
def roundHalfEven (n d : Nat) : Nat :=
  let quotient := n / d
  let twice := 2 * (n % d)
  if twice < d then quotient
  else if d < twice then quotient + 1
  else if quotient % 2 = 0 then quotient else quotient + 1

/-- `n / d · 2^(-q)` as a quotient of naturals. -/
def shifted (n d : Nat) (q : Int) : Nat × Nat :=
  (n * Nat.pow 2 (-q).toNat, d * Nat.pow 2 q.toNat)

/-- The exponent at which `n / d` has 53 binary digits, or the least exponent there is. -/
def exponentOf (n d : Nat) : Int :=
  let q : Int := n.log2 - d.log2 - 53
  let (a, b) := shifted n d q
  max (if Nat.pow 2 53 ≤ a / b then q + 1 else q) (-1074)

/-- `n / d` rounded to nearest, or nothing if that lies beyond the largest finite number.

With `m` rounded at exponent `q`, the bits are `(q + 1074) · 2^52 + m`: this holds of the numbers
below `2^52` at the least exponent and of `m = 2^53` as well. -/
def ofRatio? (n d : Nat) : Option Float :=
  if n = 0 then some 0.0
  else
    let q := exponentOf n d
    let (a, b) := shifted n d q
    let bits := (q + 1074).toNat * Nat.pow 2 52 + roundHalfEven a b
    if bits < 0x7FF0000000000000 then some (Float.ofBits (UInt64.ofNat bits)) else none

/-- An integer rounded to nearest. -/
def ofInt? (n : Int) : Option Float :=
  (ofRatio? n.natAbs 1).map fun x => if n < 0 then -x else x

/-- A quotient of integers rounded to nearest.  Its sign follows the sign rule, also at zero. -/
def ofIntRatio? (a b : Int) : Option Float :=
  (ofRatio? a.natAbs b.natAbs).map fun x => if decide (a < 0) != decide (b < 0) then -x else x

/-- `m · 10^e` rounded to nearest; infinity beyond the largest finite number.

A power of ten far outside the range decides alone, so no huge power is computed. -/
def ofDecimal (m : Nat) (e : Int) : Float :=
  let infinity := Float.ofBits 0x7FF0000000000000
  if m = 0 then 0.0
  else if 400 < e then infinity
  else if e < -400 - (m.log2 : Int) then 0.0
  else (ofRatio? (m * Nat.pow 10 e.toNat) (Nat.pow 10 (-e).toNat)).getD infinity

/-- The greatest `r + k` with `k < 2^bits` whose square is at most `n`. -/
def rootFrom (n : Nat) : Nat → Nat → Nat
  | 0, r => r
  | bits + 1, r =>
    let t := r + Nat.pow 2 bits
    if t * t ≤ n then rootFrom n bits t else rootFrom n bits r

/-- The integer part of the square root. -/
def root (n : Nat) : Nat :=
  rootFrom n (n.log2 / 2 + 1) 0

/-- The square root of `n / d` rounded to nearest, or nothing beyond the largest finite number.

The root is cut to at least 55 binary digits; if that loses something the last digit is made odd,
so the cut root lies on the same side of every rounding boundary as the exact one. -/
def sqrtRatio? (n d : Nat) : Option Float :=
  if n = 0 then some 0.0
  else
    let q : Int := ((n.log2 : Int) - d.log2 - 110) / 2
    let (a, b) := shifted n d (2 * q)
    let r := root (a / b)
    let r := if r * r * b = a then r else if r % 2 = 0 then r + 1 else r
    ofRatio? (r * Nat.pow 2 q.toNat) (Nat.pow 2 (-q).toNat)

end Binary64

end LineCursor.Number
