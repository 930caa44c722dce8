import LineCursor.Datum
import LineCursor.Number.Numeral

/-!
Reading JSON.

A reader works on the rest of a text and hands back the value with what follows it.  A failure
holds the cause and the rest of the text at which it shows, so its place in the text is a matter of
lengths (`placeOf`).  Beyond the standard `NaN`, `Infinity` and `-Infinity` are values.  Of a
repeated name the last value counts, at the place of the first.  Integers of more than
`Excess.maxDigits` digits and nesting deeper than `Excess.maxDepth` are refused.

Texts are made of characters, and a surrogate is none.  A pair of escapes that are a high and a low
surrogate denotes the character of the pair.  The escape of a surrogate on its own, which others
read as that code unit, is read as U+FFFD here (`unitChar`).  So two names that differ only in such
escapes are read as one name.
-/

namespace LineCursor.Json

/-- Why a text is not read although nothing is wrong with its form. -/
inductive Excess where
  /-- An integer of so many digits. -/
  | digits (count : Nat)
  /-- A list or a table within too many others. -/
  | deepList
  | deepTable
deriving DecidableEq, Repr

/-- The greatest number of digits that an integer may have. -/
def Excess.maxDigits : Nat := 4300

/-- The greatest number of lists and tables that may stand within one another. -/
def Excess.maxDepth : Nat := 988

def Excess.message : Excess → String
  | .digits count =>
    s!"Exceeds the limit ({maxDigits} digits) for integer string conversion: value has {count} " ++
      "digits; use sys.set_int_max_str_digits() to increase the limit"
  | .deepList =>
    "maximum recursion depth exceeded while decoding a JSON array from a unicode string"
  | .deepTable =>
    "maximum recursion depth exceeded while decoding a JSON object from a unicode string"

/-- Why a text is no JSON document. -/
inductive Cause where
  | value
  | name
  | colon
  | comma
  | openString
  | control
  | badEscape
  | badUnicodeEscape
  | extraData
  | byteOrderMark
  | excess (e : Excess)
deriving DecidableEq, Repr

def Cause.message : Cause → String
  | .value => "Expecting value"
  | .name => "Expecting property name enclosed in double quotes"
  | .colon => "Expecting ':' delimiter"
  | .comma => "Expecting ',' delimiter"
  | .openString => "Unterminated string starting at"
  | .control => "Invalid control character at"
  | .badEscape => "Invalid \\escape"
  | .badUnicodeEscape => "Invalid \\uXXXX escape"
  | .extraData => "Extra data"
  | .byteOrderMark => "Unexpected UTF-8 BOM (decode using utf-8-sig)"
  | .excess e => e.message

/-- A cause, and the rest of the text at the place where it shows. -/
structure Failure where
  cause : Cause
  rest : List Char

/-- What a reader gives: a value and the rest of the text behind it. -/
abbrev Reading (α : Type) := Except Failure (α × List Char)

/-- Space, tab, line feed and carriage return may stand between any two tokens. -/
def isSpace (c : Char) : Bool :=
  c == ' ' || c == '\t' || c == '\n' || c == '\r'

def skipSpace (s : List Char) : List Char :=
  s.dropWhile isSpace

/-! ## Texts -/

/-- The value of a hexadecimal digit. -/
def hexValue? (c : Char) : Option Nat :=
  if c.isDigit then some (c.toNat - 48)
  else if 'a' ≤ c ∧ c ≤ 'f' then some (c.toNat - 87)
  else if 'A' ≤ c ∧ c ≤ 'F' then some (c.toNat - 55)
  else none

/-- The value of four hexadecimal digits. -/
def hexValue4? (a b c d : Char) : Option Nat :=
  match hexValue? a, hexValue? b, hexValue? c, hexValue? d with
  | some a, some b, some c, some d => some (((a * 16 + b) * 16 + c) * 16 + d)
  | _, _, _, _ => none

/-- The character behind a backslash, for the one-letter escapes. -/
def unescape? : Char → Option Char
  | '"' => some '"'
  | '\\' => some '\\'
  | '/' => some '/'
  | 'b' => some '\x08'
  | 'f' => some '\x0c'
  | 'n' => some '\n'
  | 'r' => some '\r'
  | 't' => some '\t'
  | _ => none

def isHighSurrogate (n : Nat) : Bool :=
  0xD800 ≤ n && n ≤ 0xDBFF

def isLowSurrogate (n : Nat) : Bool :=
  0xDC00 ≤ n && n ≤ 0xDFFF

/-- The character that two surrogates denote together. -/
def joinSurrogates (high low : Nat) : Char :=
  Char.ofNat (0x10000 + (high - 0xD800) * 0x400 + (low - 0xDC00))

/-- The character of a code unit; a surrogate on its own denotes none. -/
def unitChar (n : Nat) : Char :=
  if 0xD800 ≤ n ∧ n ≤ 0xDFFF then '\ufffd' else Char.ofNat n

/-- The code unit of an escape, of which `s` is the text behind the `u`.  An escape is never the
last thing in a text. -/
def codeUnit (s : List Char) : Reading Nat :=
  match s with
  | a :: b :: c :: d :: e :: rest =>
    match hexValue4? a b c d with
    | some n => .ok (n, e :: rest)
    | none => .error ⟨.badUnicodeEscape, 'u' :: s⟩
  | _ => .error ⟨.badUnicodeEscape, 'u' :: s⟩

/-- The character of an escape by code units.  Two surrogates in a row denote one together. -/
def unicodeEscape (s : List Char) : Reading Char :=
  match codeUnit s with
  | .error e => .error e
  | .ok (unit, '\\' :: 'u' :: rest) =>
    if isHighSurrogate unit then
      match codeUnit rest with
      | .error e => .error e
      | .ok (low, behind) =>
        if isLowSurrogate low then .ok (joinSurrogates unit low, behind)
        else .ok (unitChar unit, '\\' :: 'u' :: rest)
    else .ok (unitChar unit, '\\' :: 'u' :: rest)
  | .ok (unit, rest) => .ok (unitChar unit, rest)

/-- What stands next within quotation marks. -/
inductive Piece where
  | char (c : Char) (rest : List Char)
  /-- The closing mark. -/
  | close (rest : List Char)

/-- The next piece of a text within quotation marks; `opening` is the text from the opening mark
on. -/
def piece (opening : List Char) : List Char → Except Failure Piece
  | '"' :: rest => .ok (.close rest)
  | '\\' :: 'u' :: rest => (unicodeEscape rest).map fun (c, rest) => .char c rest
  | '\\' :: c :: rest =>
    match unescape? c with
    | some d => .ok (.char d rest)
    | none => .error ⟨.badEscape, '\\' :: c :: rest⟩
  | ['\\'] => .error ⟨.openString, opening⟩
  | c :: rest =>
    if c.toNat < 0x20 then .error ⟨.control, c :: rest⟩ else .ok (.char c rest)
  | [] => .error ⟨.openString, opening⟩

theorem length_lt_of_codeUnit {s rest : List Char} {n : Nat} (h : codeUnit s = .ok (n, rest)) :
    rest.length < s.length := by
  unfold codeUnit at h
  grind

theorem length_lt_of_unicodeEscape {s rest : List Char} {c : Char}
    (h : unicodeEscape s = .ok (c, rest)) : rest.length < s.length := by
  unfold unicodeEscape at h
  split at h
  · simp at h
  · rename_i unit tail hs
    have hs := length_lt_of_codeUnit hs
    simp only [List.length_cons] at hs
    split at h
    · split at h
      · simp at h
      · rename_i ht
        have ht := length_lt_of_codeUnit ht
        grind
    · grind
  · rename_i hs
    have hs := length_lt_of_codeUnit hs
    grind

theorem length_lt_of_piece {opening s rest : List Char} {c : Char}
    (h : piece opening s = .ok (.char c rest)) : rest.length < s.length := by
  unfold piece at h
  split at h
  case h_2 tail =>
    cases hu : unicodeEscape tail with
    | error e => simp [hu, Except.map] at h
    | ok r =>
      obtain ⟨d, behind⟩ := r
      have hl := length_lt_of_unicodeEscape hu
      simp only [hu, Except.map, Except.ok.injEq, Piece.char.injEq] at h
      simp only [List.length_cons, ← h.2]
      omega
  all_goals grind

/-- The text up to the closing quotation mark; `opening` is the text from the opening mark on. -/
def stringTail (opening s : List Char) : Reading (List Char) :=
  match _h : piece opening s with
  | .error e => .error e
  | .ok (.close rest) => .ok ([], rest)
  | .ok (.char c rest) => (stringTail opening rest).map fun (t, rest) => (c :: t, rest)
termination_by s.length
decreasing_by exact length_lt_of_piece _h

/-! ## Numbers -/

/-- The integer part of a number: a zero alone, or digits that do not start with one. -/
def wholePart? : List Char → Option (List Char × List Char)
  | '0' :: rest => some (['0'], rest)
  | s =>
    match Number.splitDigits s with
    | ([], _) => none
    | (ds, rest) => some (ds, rest)

/-- The digits behind a point, if digits follow the point; otherwise the point is not read. -/
def fractionPart (s : List Char) : List Char × List Char :=
  match s with
  | '.' :: rest =>
    match Number.splitDigits rest with
    | ([], _) => ([], s)
    | r => r
  | _ => ([], s)

/-- The exponent, if digits follow its mark; otherwise the mark is not read. -/
def exponentPart? (s : List Char) : Option Int × List Char :=
  match s with
  | c :: rest =>
    if c = 'e' ∨ c = 'E' then
      let (negative, rest) := Number.splitSign rest
      match Number.splitDigits rest with
      | ([], _) => (none, s)
      | (ds, rest) =>
        (some (if negative then -(Number.digitsValue ds : Int) else Number.digitsValue ds), rest)
    else (none, s)
  | [] => (none, s)

/-- An integer, unless it has too many digits. -/
def integer (negative : Bool) (digits : List Char) : Except Excess Datum :=
  if digits.length ≤ Excess.maxDigits then
    let n : Int := Number.digitsValue digits
    .ok (.int (if negative then -n else n))
  else .error (.digits digits.length)

/-- A number.  Without fraction and exponent it is an integer, else the nearest binary64 number. -/
def number? (s : List Char) : Option (Except Excess Datum × List Char) := do
  let (negative, s) := match s with
    | '-' :: rest => (true, rest)
    | s => (false, s)
  let (whole, s) ← wholePart? s
  let (fraction, s) := fractionPart s
  let (exponent?, s) := exponentPart? s
  match fraction, exponent? with
  | [], none => return (integer negative whole, s)
  | _, _ =>
    let x := Number.Binary64.ofDecimal (Number.digitsValue (whole ++ fraction))
      (exponent?.getD 0 - fraction.length)
    return (.ok (.float (if negative then -x else x)), s)

/-! ## Values -/

/-- The values that are written as words. -/
def words : List (List Char × Datum) :=
  [("null".toList, .null), ("true".toList, .bool true), ("false".toList, .bool false),
   ("NaN".toList, .nan), ("Infinity".toList, .float (Float.ofBits 0x7FF0000000000000)),
   ("-Infinity".toList, .float (Float.ofBits 0xFFF0000000000000))]

/-- A word or a number at the start of a text. -/
def scalar? (s : List Char) : Option (Except Excess Datum × List Char) :=
  match words.find? fun w => w.1.isPrefixOf s with
  | some w => some (.ok w.2, s.drop w.1.length)
  | none => number? s

mutual

/-- A value at the very start of a text, with at most `depth` lists and tables within each other. -/
def value : Nat → Nat → List Char → Except Failure (Datum × List Char)
  | 0, _, s => .error ⟨.value, s⟩
  | fuel + 1, depth, s =>
    match s, depth with
    | '"' :: rest, _ => (stringTail s rest).map fun (t, rest) => (.str (String.ofList t), rest)
    | '{' :: _, 0 => .error ⟨.excess .deepTable, s⟩
    | '{' :: rest, depth + 1 =>
      match skipSpace rest with
      | '}' :: rest => .ok (.dict [], rest)
      | rest => (members fuel depth rest).map fun (es, rest) => (.ofPairs es, rest)
    | '[' :: _, 0 => .error ⟨.excess .deepList, s⟩
    | '[' :: rest, depth + 1 =>
      match skipSpace rest with
      | ']' :: rest => .ok (.list [], rest)
      | rest => (items fuel depth rest).map fun (ds, rest) => (.list ds, rest)
    | s, _ =>
      match scalar? s with
      | some (.ok d, rest) => .ok (d, rest)
      | some (.error e, _) => .error ⟨.excess e, s⟩
      | none => .error ⟨.value, s⟩

/-- The items of a list, up to the closing bracket. -/
def items : Nat → Nat → List Char → Except Failure (List Datum × List Char)
  | 0, _, s => .error ⟨.value, s⟩
  | fuel + 1, depth, s => do
    let (d, s) ← value fuel depth s
    match skipSpace s with
    | ']' :: rest => return ([d], rest)
    | ',' :: rest =>
      let (ds, rest) ← items fuel depth (skipSpace rest)
      return (d :: ds, rest)
    | s => throw ⟨.comma, s⟩

/-- The entries of a table, up to the closing brace. -/
def members : Nat → Nat → List Char → Except Failure (List (String × Datum) × List Char)
  | 0, _, s => .error ⟨.value, s⟩
  | fuel + 1, depth, s =>
    match s with
    | '"' :: rest => do
      let (k, s) ← stringTail s rest
      match skipSpace s with
      | ':' :: rest =>
        let (v, s) ← value fuel depth (skipSpace rest)
        match skipSpace s with
        | '}' :: rest => return ([(String.ofList k, v)], rest)
        | ',' :: rest =>
          let (es, rest) ← members fuel depth (skipSpace rest)
          return ((String.ofList k, v) :: es, rest)
        | s => throw ⟨.comma, s⟩
      | s => throw ⟨.colon, s⟩
    | s => .error ⟨.name, s⟩

end

/-- The value that a whole text denotes.  Of two steps of a reader in a row one takes a character,
so the fuel, one more than twice the number of characters, is never used up. -/
def document (s : List Char) : Except Failure Datum :=
  match s with
  | '\ufeff' :: _ => .error ⟨.byteOrderMark, s⟩
  | s => do
    let (d, rest) ← value (2 * s.length + 1) Excess.maxDepth (skipSpace s)
    match skipSpace rest with
    | [] => return d
    | rest => throw ⟨.extraData, rest⟩

/-! ## Places -/

/-- A place in a text: lines and columns from one on, characters from zero on. -/
structure Place where
  line : Nat
  column : Nat
  index : Nat
deriving DecidableEq, Repr

/-- Where the rest of a text begins: lines end at line feeds. -/
def placeOf (text rest : List Char) : Place :=
  let read := text.take (text.length - rest.length)
  { line := read.count '\n' + 1
    column := (read.reverse.takeWhile (· != '\n')).length + 1
    index := read.length }

/-- Why and where a text is no JSON document. -/
structure Error where
  cause : Cause
  place : Place
deriving DecidableEq, Repr

/-- The message of an error.  What is too large is so at no particular place. -/
def Error.message (e : Error) : String :=
  match e.cause with
  | .excess x => x.message
  | cause =>
    s!"{cause.message}: line {e.place.line} column {e.place.column} (char {e.place.index})"

/-- The value that a text denotes. -/
def read (text : String) : Except Error Datum :=
  match document text.toList with
  | .ok d => .ok d
  | .error f => .error ⟨f.cause, placeOf text.toList f.rest⟩

end LineCursor.Json
