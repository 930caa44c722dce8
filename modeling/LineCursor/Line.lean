import LineCursor.Fault

/-!
Lines: what a read gives.

A line is text or bytes, its terminator included.  A source that is not a file may hand out any
value for a line; what can be done with it then depends on its type.
-/

namespace LineCursor

/-- One line of a source. -/
inductive Line where
  | text (chars : Array Char)
  | bytes (data : Array UInt8)
  /-- A value that is neither text nor bytes. -/
  | other (value : Datum)
deriving Inhabited

namespace Line

def ofDatum : Datum → Line
  | .str s => .text s.toList.toArray
  | .bytes data => .bytes data
  | d => .other d

def toDatum : Line → Datum
  | text chars => .str (String.ofList chars.toList)
  | bytes data => .bytes data
  | other d => d

/-- Whether there is anything on a line. -/
def truthy : Line → Bool
  | text chars => !chars.isEmpty
  | bytes data => !data.isEmpty
  | other d => d.truthy

/-- The number of characters, bytes or items. -/
def length : Line → Except Fault Nat
  | text chars => .ok chars.size
  | bytes data => .ok data.size
  | other d =>
    match d.length? with
    | some n => .ok n
    | none => .error (.noLength d.typeName)

/-- A value cut down to some of its items.  Only lists can be cut. -/
def part (cut : List Datum → List Datum) : Datum → Except Fault Datum
  | .list items => .ok (.list (cut items))
  | .dict _ => .error (.unhashable "slice")
  | d => .error (.noParts d.typeName)

/-- The part of a line that holds only its `i`-th character, byte or item; it is empty behind the
end of the line. -/
def item (line : Line) (i : Nat) : Except Fault Datum :=
  match line with
  | text chars => .ok (.str (String.ofList chars[i]?.toList))
  | bytes data => .ok (.bytes data[i]?.toArray)
  | other d => part (fun items => items[i]?.toList) d

/-- The empty line of the same type. -/
def emptied : Line → Except Fault Line
  | text _ => .ok (text #[])
  | bytes _ => .ok (bytes #[])
  | other d => (part (fun _ => []) d).map other

/-- Whether a line has a terminator at its end: a line feed or, in text, a carriage return. -/
def isTerminated : Line → Except Fault Bool
  | text chars => .ok (chars.back? == some '\n' || chars.back? == some '\r')
  | bytes data => .ok (data.back? == some 0x0A)
  | other d => .error (.noEnd d.typeName)

end Line

end LineCursor
