import LineCursor.Fault
import LineCursor.Number.Layout

/-!
Writing JSON.

Only printable ASCII is written: other characters are escaped, most of them by their UTF-16 units.
A document stands on one line, or with each item on a line of its own (`Style`).
-/

namespace LineCursor

/-- Numbers in JSON. -/
def Number.Layout.json : Number.Layout where
  infinity := "Infinity"
  notANumber := "NaN"

namespace Json

/-- How the items of a document are spread over lines. -/
inductive Style where
  /-- All on one line, a space behind each comma. -/
  | oneLine
  /-- Each item on a line of its own behind one unit of indentation per level. -/
  | lines (unit : String)

namespace Style

/-- `n` spaces per level; a negative number means none. -/
def ofWidth (n : Int) : Style :=
  .lines ("".pushn ' ' n.toNat)

/-- What stands between an opening bracket and the first item, one level further in, and between
the last item and the closing bracket. -/
def newline (style : Style) (level : Nat) : List Char :=
  match style with
  | .oneLine => []
  | .lines unit => '\n' :: (List.replicate level unit.toList).flatten

/-- What stands between two items. -/
def separator (style : Style) (level : Nat) : List Char :=
  match style with
  | .oneLine => [',', ' ']
  | .lines _ => ',' :: style.newline level

end Style

/-- The escape of a 16-bit unit. -/
def unitEscape (n : Nat) : List Char :=
  '\\' :: 'u' :: Text.hexDigits 4 n

/-- What stands for a character of a text. -/
def escapedChar (c : Char) : List Char :=
  if c = '"' then ['\\', '"']
  else if c = '\\' then ['\\', '\\']
  else if c = '\n' then ['\\', 'n']
  else if c = '\r' then ['\\', 'r']
  else if c = '\t' then ['\\', 't']
  else if c = '\x08' then ['\\', 'b']
  else if c = '\x0c' then ['\\', 'f']
  else if 0x20 ≤ c.toNat ∧ c.toNat < 0x7F then [c]
  else if c.toNat < 0x10000 then unitEscape c.toNat
  else
    unitEscape (0xD800 + (c.toNat - 0x10000) / 0x400)
      ++ unitEscape (0xDC00 + (c.toNat - 0x10000) % 0x400)

/-- A text in double quotation marks. -/
def writeString (s : String) : List Char :=
  '"' :: s.toList.flatMap escapedChar ++ ['"']

mutual

/-- The text of a value whose items stand at `level + 1`. -/
def writeAt (style : Style) (level : Nat) : Datum → Except Fault (List Char)
  | .null => .ok "null".toList
  | .bool b => .ok (if b then "true" else "false").toList
  | .int n => .ok (Number.intDigits n)
  | .float x => .ok (Number.Layout.json.text x)
  | .nan => .ok Number.Layout.json.notANumber.toList
  | .str s => .ok (writeString s)
  | .bytes data => .error (.unwritable (Datum.bytes data).typeName)
  | .record type _ => .error (.unwritable type)
  | .object type _ _ => .error (.unwritable type)
  | .list [] => .ok ['[', ']']
  | .list (d :: ds) => do
    let inner ← writeItems style (level + 1) (d :: ds)
    return '[' :: style.newline (level + 1) ++ inner ++ style.newline level ++ [']']
  | .dict [] => .ok ['{', '}']
  | .dict (e :: es) => do
    let inner ← writeEntries style (level + 1) (e :: es)
    return '{' :: style.newline (level + 1) ++ inner ++ style.newline level ++ ['}']

def writeItems (style : Style) (level : Nat) : List Datum → Except Fault (List Char)
  | [] => .ok []
  | [d] => writeAt style level d
  | d :: ds => do
    let first ← writeAt style level d
    let others ← writeItems style level ds
    return first ++ style.separator level ++ others

def writeEntries (style : Style) (level : Nat) : List (String × Datum) → Except Fault (List Char)
  | [] => .ok []
  | [(k, v)] => do
    let value ← writeAt style level v
    return writeString k ++ ':' :: ' ' :: value
  | (k, v) :: es => do
    let value ← writeAt style level v
    let others ← writeEntries style level es
    return writeString k ++ ':' :: ' ' :: value ++ style.separator level ++ others

end

/-- The text of a value.  Byte strings, records and objects have none. -/
def write (style : Style) (d : Datum) : Except Fault String :=
  (writeAt style 0 d).map String.ofList

end Json

end LineCursor
