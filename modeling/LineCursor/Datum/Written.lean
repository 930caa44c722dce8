import LineCursor.Datum
import LineCursor.Number.Layout
import LineCursor.Text.Quoted

/-!
The written form of a value, as messages show it.

    None  True  -3  2.5  inf  'text'  b'bytes'  [1, [2]]  {'name': 1}  Type(name=1)

An object that is nothing but an object is written with its identity for an address.
-/

namespace LineCursor

/-- Numbers in messages. -/
def Number.Layout.message : Number.Layout where
  infinity := "inf"
  notANumber := "nan"

namespace Datum

mutual

/-- The written form of a value. -/
def written : Datum → List Char
  | .null => "None".toList
  | .bool b => (if b then "True" else "False").toList
  | .int n => Number.intDigits n
  | .float x => Number.Layout.message.text x
  | .nan => Number.Layout.message.notANumber.toList
  | .str s => Text.quoted s.toList
  | .bytes data => Text.quotedBytes data.toList
  | .list items => '[' :: writtenItems items ++ [']']
  | .dict entries => '{' :: writtenEntries entries ++ ['}']
  | .record type fields => type.toList ++ '(' :: writtenFields fields ++ [')']
  | .object type identity _ =>
    '<' :: type.toList ++ " object at 0x".toList ++ Nat.toDigits 16 identity ++ ['>']

/-- Written forms with a comma between each two. -/
def writtenItems : List Datum → List Char
  | [] => []
  | [d] => written d
  | d :: rest => written d ++ ',' :: ' ' :: writtenItems rest

/-- Entries as name and value, with a comma between each two. -/
def writtenEntries : List (String × Datum) → List Char
  | [] => []
  | [(k, v)] => Text.quoted k.toList ++ ':' :: ' ' :: written v
  | (k, v) :: rest =>
    Text.quoted k.toList ++ ':' :: ' ' :: (written v ++ ',' :: ' ' :: writtenEntries rest)

/-- Fields as name and value, with a comma between each two. -/
def writtenFields : List (String × Datum) → List Char
  | [] => []
  | [(k, v)] => k.toList ++ '=' :: written v
  | (k, v) :: rest => k.toList ++ '=' :: (written v ++ ',' :: ' ' :: writtenFields rest)

end

/-- The written form of a value, as a string. -/
def repr (d : Datum) : String :=
  String.ofList d.written

/-- A text as it is, any other value in its written form. -/
def display : Datum → String
  | .str s => s
  | d => d.repr

end Datum

end LineCursor
