/-!
Dynamically typed data.

Settings, the extra fields of log records, lines of custom sources and names of sources hold data
whose type is not fixed beforehand.  A `Datum` is such a value.  This file gives its truth value
(`Datum.truthy`), the name of its type (`Datum.typeName`), its length if it has one
(`Datum.length?`), what stands in it under a path of names (`Datum.at?`), and tables of named
entries in order of first arrival (`Entries`):

    keys (put k v es) = keys es            if k is among them
                      = keys es ++ [k]     otherwise

Texts are made of characters.  A surrogate on its own is no character, so texts that hold one are
left out throughout.
-/

namespace LineCursor

/-- What comes of it when an object is copied. -/
inductive Copying where
  /-- An object that is equal to it, if not the object itself. -/
  | equal
  /-- An object that is not equal to it. -/
  | unequal
  /-- Nothing: the object cannot be copied. -/
  | refused
deriving DecidableEq, Repr

/-- A value whose type is known only when it is looked at. -/
inductive Datum where
  | null
  | bool (b : Bool)
  | int (n : Int)
  | float (x : Float)
  /-- The not-a-number that a text denotes, a value apart from the computed one. -/
  | nan
  | str (s : String)
  | bytes (data : Array UInt8)
  | list (items : List Datum)
  /-- Named entries in order of first arrival, no name twice. -/
  | dict (entries : List (String × Datum))
  /-- A record with the fields of its type.  The fields can be changed. -/
  | record (type : String) (fields : List (String × Datum))
  /-- An object of which no more is known than its type, and that it is equal to the objects of its
  identity only. -/
  | object (type : String) (identity : Nat) (copying : Copying)
deriving Inhabited

/-- Named data in order of first arrival. -/
abbrev Entries := List (String × Datum)

namespace Entries

/-- Writes one entry: a name already present keeps its place, a new one goes to the end. -/
def put (key : String) (value : Datum) : Entries → Entries
  | [] => [(key, value)]
  | (k, v) :: rest => if k = key then (key, value) :: rest else (k, v) :: put key value rest

/-- Writes all of `changes`, in order. -/
def update (entries changes : Entries) : Entries :=
  changes.foldl (fun es (k, v) => es.put k v) entries

/-- The table that a list of pairs denotes: of a repeated name the last value counts. -/
def ofPairs (pairs : Entries) : Entries :=
  update [] pairs

def keys (entries : Entries) : List String :=
  entries.map (·.1)

end Entries

namespace Datum

/-- A table from pairs of name and value, in which names may repeat. -/
def ofPairs (pairs : Entries) : Datum :=
  .dict (Entries.ofPairs pairs)

/-- An optional text: nothing is `null`. -/
def ofString? : Option String → Datum
  | none => .null
  | some s => .str s

/-- The names in a table. -/
def names? : Datum → Option (List String)
  | .dict entries => some (Entries.keys entries)
  | _ => none

/-- What stands under a path of names, each one in the table under those before it. -/
def at? : Datum → List String → Option Datum
  | d, [] => some d
  | .dict entries, name :: path => (entries.lookup name).bind fun d => at? d path
  | _, _ => none

/-- Zero, the empty values, `null` and false count as false, all else as true. -/
def truthy : Datum → Bool
  | .null => false
  | .bool b => b
  | .int n => n != 0
  | .float x => x != 0.0
  | .nan => true
  | .str s => !s.isEmpty
  | .bytes data => !data.isEmpty
  | .list items => !items.isEmpty
  | .dict entries => !entries.isEmpty
  | .record _ _ => true
  | .object _ _ _ => true

/-- The name under which messages mention the type of a value. -/
def typeName : Datum → String
  | .null => "NoneType"
  | .bool _ => "bool"
  | .int _ => "int"
  | .float _ => "float"
  | .nan => "float"
  | .str _ => "str"
  | .bytes _ => "bytes"
  | .list _ => "list"
  | .dict _ => "dict"
  | .record type _ => type
  | .object type _ _ => type

/-- The number of characters, bytes, items or entries, for the types that have one. -/
def length? : Datum → Option Nat
  | .str s => some s.length
  | .bytes data => some data.size
  | .list items => some items.length
  | .dict entries => some entries.length
  | _ => none

end Datum

end LineCursor
