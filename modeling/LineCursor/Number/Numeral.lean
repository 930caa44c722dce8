import LineCursor.Number.Binary64
import LineCursor.Text.Blank
import LineCursor.Text.DecimalDigit

/-!
Reading numerals.

A numeral is an optional sign and then a decimal, with or without point and exponent, or one of the
words `inf`, `infinity` and `nan` in any mix of small and capital letters.  Blanks at its ends do
not count, digits may come from any script, and an underscore may stand between two digits.
-/

namespace LineCursor.Number

/-- The leading digits of a text and what follows them. -/
def splitDigits (s : List Char) : List Char × List Char :=
  (s.takeWhile Char.isDigit, s.dropWhile Char.isDigit)

/-- The number that a row of digits denotes. -/
def digitsValue (ds : List Char) : Nat :=
  ds.foldl (fun n c => 10 * n + (c.toNat - '0'.toNat)) 0

/-- A sign in front, if there is one: whether it is a minus, and what follows. -/
def splitSign : List Char → Bool × List Char
  | '-' :: rest => (true, rest)
  | '+' :: rest => (false, rest)
  | s => (false, s)

namespace Numeral

/-- An ASCII character of the same meaning: digits of all scripts and all blanks have one. -/
def plain (c : Char) : Char :=
  if c.toNat < 0x7F then c
  else if Text.isBlank c then ' '
  else match Text.decimalDigit? c with
    | some d => Char.ofNat (48 + d)
    | none => '?'

/-- The text without underscores, if each of them stands between two digits. -/
def dropUnderscores : Option Char → List Char → Option (List Char)
  | _, [] => some []
  | before, '_' :: rest =>
    match before, rest with
    | some b, a :: _ => if b.isDigit && a.isDigit then dropUnderscores none rest else none
    | _, _ => none
  | _, c :: rest => (dropUnderscores (some c) rest).map (c :: ·)

/-- An exponent part, or nothing; the text has to end behind it. -/
def exponent? : List Char → Option Int
  | [] => some 0
  | c :: rest =>
    if c = 'e' ∨ c = 'E' then
      let (negative, rest) := splitSign rest
      let (ds, rest) := splitDigits rest
      if ds.isEmpty || !rest.isEmpty then none
      else some (if negative then -(digitsValue ds : Int) else digitsValue ds)
    else none

/-- An unsigned decimal. -/
def decimal? (s : List Char) : Option Float :=
  let (whole, rest) := splitDigits s
  let (fraction, rest) := match rest with
    | '.' :: rest => splitDigits rest
    | rest => ([], rest)
  if whole.isEmpty && fraction.isEmpty then none
  else (exponent? rest).map fun e =>
    Binary64.ofDecimal (digitsValue (whole ++ fraction)) (e - fraction.length)

/-- An unsigned number, given as decimal or by its name. -/
def unsigned? (s : List Char) : Option Float :=
  let word := String.ofList (s.map Char.toLower)
  if word = "inf" ∨ word = "infinity" then some (Float.ofBits 0x7FF0000000000000)
  else if word = "nan" then some (Float.ofBits 0x7FF8000000000000)
  else decimal? s

end Numeral

/-- The number that a text denotes, if it is a numeral. -/
def numeral? (s : List Char) : Option Float := do
  let s ← Numeral.dropUnderscores none (Text.trimBlanks (s.map Numeral.plain))
  let (negative, s) := splitSign s
  let x ← Numeral.unsigned? s
  return if negative then -x else x

end LineCursor.Number
