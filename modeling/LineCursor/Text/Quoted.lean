import LineCursor.Text.Printable

/-!
Quoted text: one line that shows every character of a text or every byte of a byte string.

    it's      is written   "it's"
    a\<LF>b   is written   'a\\\nb'

The quotation mark is `'` unless the text holds that mark and no `"`.
-/

namespace LineCursor.Text

/-- The lower-case hexadecimal digit of a number below sixteen. -/
def hexDigit (n : Nat) : Char :=
  if n < 10 then Char.ofNat (48 + n) else Char.ofNat (87 + n)

/-- The last `width` hexadecimal digits of `n`. -/
def hexDigits : Nat → Nat → List Char
  | 0, _ => []
  | width + 1, n => hexDigits width (n / 16) ++ [hexDigit (n % 16)]

/-- The mark around a text of which `hasSingle` and `hasDouble` say which marks it holds. -/
def quotationMark (hasSingle hasDouble : Bool) : Char :=
  if hasSingle && !hasDouble then '"' else '\''

/-- What stands for a character between two marks. -/
def quotedChar (mark c : Char) : List Char :=
  if c = mark ∨ c = '\\' then ['\\', c]
  else if c = '\n' then ['\\', 'n']
  else if c = '\r' then ['\\', 'r']
  else if c = '\t' then ['\\', 't']
  else if isPrintable c then [c]
  else if c.toNat < 0x100 then '\\' :: 'x' :: hexDigits 2 c.toNat
  else if c.toNat < 0x10000 then '\\' :: 'u' :: hexDigits 4 c.toNat
  else '\\' :: 'U' :: hexDigits 8 c.toNat

/-- A text between quotation marks. -/
def quoted (s : List Char) : List Char :=
  let mark := quotationMark (s.contains '\'') (s.contains '"')
  mark :: s.flatMap (quotedChar mark) ++ [mark]

/-- What stands for a byte between two marks: bytes beyond ASCII are always escaped. -/
def quotedByte (mark : Char) (b : UInt8) : List Char :=
  if b.toNat < 0x7F then quotedChar mark (Char.ofNat b.toNat)
  else '\\' :: 'x' :: hexDigits 2 b.toNat

/-- A byte string between quotation marks, with a `b` in front. -/
def quotedBytes (data : List UInt8) : List Char :=
  let mark := quotationMark (data.contains 0x27) (data.contains 0x22)
  'b' :: mark :: data.flatMap (quotedByte mark) ++ [mark]

/-- A text between quotation marks, as a string. -/
def quote (s : String) : String :=
  String.ofList (quoted s.toList)

end LineCursor.Text
