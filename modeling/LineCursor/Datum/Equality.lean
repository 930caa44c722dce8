import LineCursor.Datum.Quantity

/-!
Equality of values.

Numbers are compared by their value whatever their type, and a table is compared entry by entry
without regard to order.  A record equals records of its type only.  What is not a number equals
nothing, itself included (`Datum.equal`); yet it is the same as itself (`Datum.same`), and within a
list, table or record this decides.
-/

namespace LineCursor.Datum

mutual

/-- Whether two values are one value, or equal. -/
def same : Datum → Datum → Bool
  | .null, .null => true
  | .nan, .nan => true
  | .float x, .float y => x == y || (x.isNaN && y.isNaN)
  | .str s, .str t => s == t
  | .bytes a, .bytes b => a == b
  | .list l, .list m => sameItems l m
  | .dict es, .dict fs => es.length == fs.length && sameEntries es fs
  | .record t es, .record u fs => t == u && (es.length == fs.length && sameEntries es fs)
  | .object _ i _, .object _ j _ => i == j
  | a, b =>
    match a.quantity?, b.quantity? with
    | some p, some q => p.equal q
    | _, _ => false

/-- Whether two rows of values are the same place by place. -/
def sameItems : List Datum → List Datum → Bool
  | [], [] => true
  | a :: l, b :: m => same a b && sameItems l m
  | _, _ => false

/-- Whether each entry of the first table is an entry of the second. -/
def sameEntries : List (String × Datum) → List (String × Datum) → Bool
  | [], _ => true
  | (k, v) :: rest, fs =>
    (match fs.lookup k with
      | some w => same v w
      | none => false) && sameEntries rest fs

end

/-- Whether two values are equal. -/
def equal (a b : Datum) : Bool :=
  match a.quantity?, b.quantity? with
  | some p, some q => p.equal q
  | _, _ => same a b

end LineCursor.Datum
