import LineCursor.Number.Shortest

/-!
How a number is written: its shortest decimal, positionally or with an exponent.
-/

namespace LineCursor.Number

/-- The choices that remain once the digits are known. -/
structure Layout where
  /-- Numbers from `10^plainFrom` on and below `10^plainBelow` are written positionally. -/
  plainFrom : Int := -4
  plainBelow : Int := 16
  infinity : String
  notANumber : String

/-- The decimal digits of a natural number. -/
def natDigits (n : Nat) : List Char :=
  Nat.toDigits 10 n

/-- The decimal digits of an integer, with a sign in front if it is negative. -/
def intDigits (n : Int) : List Char :=
  if n < 0 then '-' :: natDigits n.natAbs else natDigits n.natAbs

/-- An exponent: always with its sign, and at least two digits. -/
def exponentDigits (e : Int) : List Char :=
  let ds := natDigits e.natAbs
  (if e < 0 then '-' else '+') :: if ds.length < 2 then '0' :: ds else ds

namespace Layout

/-- A positive decimal.  An integral value keeps one zero behind the point. -/
def decimal (layout : Layout) (d : Decimal) : List Char :=
  let ds := natDigits d.digits
  -- the exponent of the leading digit
  let e := d.exponent + ds.length - 1
  if layout.plainFrom ≤ e ∧ e < layout.plainBelow then
    if 0 ≤ d.exponent then ds ++ List.replicate d.exponent.toNat '0' ++ ['.', '0']
    else if 0 ≤ e then ds.take (e.toNat + 1) ++ '.' :: ds.drop (e.toNat + 1)
    else '0' :: '.' :: List.replicate (-e - 1).toNat '0' ++ ds
  else
    ds.take 1 ++ (if ds.length = 1 then [] else '.' :: ds.drop 1) ++ 'e' :: exponentDigits e

/-- The text of a number. -/
def text (layout : Layout) (x : Float) : List Char :=
  if x.isNaN then layout.notANumber.toList
  else
    let sign := if Binary64.isNegative x then ['-'] else []
    sign ++
      if !Binary64.isFinite x then layout.infinity.toList
      else if x == 0.0 then ['0', '.', '0']
      else layout.decimal ((Binary64.magnitude x).shortest.stripped 17)

end Layout

end LineCursor.Number
