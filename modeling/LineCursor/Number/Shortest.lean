import LineCursor.Number.Binary64

/-!
Shortest decimals.

The shortest decimal of a positive number `x` is the one with the fewest digits among all that read
back as `x`, and of those the nearest to `x`.  The reals that read back as `m · 2^q` form an
interval: from half way to the number below to half way to the number above, its ends included
exactly when `m` is even.
-/

namespace LineCursor.Number

/-- The decimal `digits · 10^exponent`. -/
structure Decimal where
  digits : Nat
  exponent : Int
deriving DecidableEq, Repr

/-- Compares `a · 10^i` with `m · 2^q` exactly. -/
def compareScaled (a : Nat) (i : Int) (m : Nat) (q : Int) : Ordering :=
  compare (a * Nat.pow 10 i.toNat * Nat.pow 2 (-q).toNat)
    (m * Nat.pow 2 q.toNat * Nat.pow 10 (-i).toNat)

namespace Dyadic

/-- Below a power of two the next number is half as far away as above it. -/
def narrowBelow (x : Dyadic) : Bool :=
  x.m = Nat.pow 2 52 && -1074 < x.q

/-- Whether a decimal lies in the interval of the reals that round to `x`. -/
def readsBack (x : Dyadic) (d : Decimal) : Bool :=
  let low := compareScaled d.digits d.exponent (4 * x.m - if x.narrowBelow then 1 else 2) (x.q - 2)
  let high := compareScaled d.digits d.exponent (4 * x.m + 2) (x.q - 2)
  let ends := x.m % 2 == 0
  (low == .gt || ends && low == .eq) && (high == .lt || ends && high == .eq)

/-- The least `k` with `x < 10^k`.  The binary logarithm gives it up to one. -/
def scale (x : Dyadic) : Int :=
  let k := (x.m.log2 + x.q) * 30103 / 100000 + 1
  if compareScaled 1 k x.m x.q != .gt then k + 1
  else if compareScaled 1 (k - 1) x.m x.q == .gt then k - 1
  else k

/-- The neighbours of `x` on the grid of multiples of `10^g` that read back as `x`: the nearer one,
of two equally near ones the even one. -/
def onGrid? (x : Dyadic) (g : Int) : Option Decimal :=
  let below := (x.m * Nat.pow 2 x.q.toNat * Nat.pow 10 (-g).toNat)
    / (Nat.pow 2 (-x.q).toNat * Nat.pow 10 g.toNat)
  let low : Decimal := ⟨below, g⟩
  let high : Decimal := ⟨below + 1, g⟩
  match x.readsBack low, x.readsBack high with
  | false, false => none
  | true, false => some low
  | false, true => some high
  | true, true =>
    match compareScaled (2 * below + 1) g (2 * x.m) x.q with
    | .gt => some low
    | .lt => some high
    | .eq => some (if below % 2 = 0 then low else high)

/-- The decimal with the fewest digits that reads back.  Seventeen digits always suffice; the exact
value stands behind them. -/
def shortest (x : Dyadic) : Decimal :=
  let k := x.scale
  ((List.range 17).findSome? fun (n : Nat) => x.onGrid? (k - (n + 1))).getD
    ⟨x.m * Nat.pow 2 x.q.toNat * Nat.pow 5 (-x.q).toNat, min x.q 0⟩

end Dyadic

/-- The same decimal without the zeros at its end. -/
def Decimal.stripped : Nat → Decimal → Decimal
  | 0, d => d
  | fuel + 1, d =>
    if d.digits ≠ 0 ∧ d.digits % 10 = 0 then stripped fuel ⟨d.digits / 10, d.exponent + 1⟩ else d

end LineCursor.Number
