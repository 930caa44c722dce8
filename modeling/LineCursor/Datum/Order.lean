import LineCursor.Datum.Equality
import LineCursor.Fault

/-!
Order of values.

Texts have an order among themselves, and so have byte strings and numbers.  A comparison of values
that have no order in common is a fault.  Some values in ascending order, each once, are
`Datum.ascending`.
-/

namespace LineCursor.Datum

/-- A comparison of two values as numbers, and the symbol that stands for it. -/
def compareNumbers (symbol : String) (test : Quantity → Quantity → Bool) (a b : Datum) :
    Except Fault Bool :=
  match a.quantity?, b.quantity? with
  | some p, some q => .ok (test p q)
  | _, _ => .error (.noOrder symbol a.typeName b.typeName)

/-- Whether a value is less than an integer. -/
def isBelow (d : Datum) (n : Int) : Except Fault Bool :=
  compareNumbers "<" Quantity.less d (.int n)

/-- Whether a value is at most an integer. -/
def isAtMost (d : Datum) (n : Int) : Except Fault Bool :=
  compareNumbers "<=" Quantity.atMost d (.int n)

/-- Whether two values have an order in common. -/
def areOrdered : Datum → Datum → Bool
  | .str _, .str _ => true
  | .bytes _, .bytes _ => true
  | a, b => a.quantity?.isSome && b.quantity?.isSome

/-- Whether a value comes before another, if they have an order in common. -/
def comesBefore : Datum → Datum → Bool
  | .str s, .str t => s < t
  | .bytes a, .bytes b => a.toList < b.toList
  | a, b =>
    match a.quantity?, b.quantity? with
    | some p, some q => p.less q
    | _, _ => false

/-- Whether a value may be looked up by. -/
def isHashable : Datum → Bool
  | .list _ => false
  | .dict _ => false
  | .record _ _ => false
  | _ => true

/-- A value that may be looked up by. -/
def hashable (d : Datum) : Except Fault Unit :=
  if d.isHashable then .ok () else .error (.unhashable d.typeName)

/-- The first neighbours that have no order in common. -/
def unordered? : List Datum → Option (Datum × Datum)
  | a :: b :: rest => if a.areOrdered b then unordered? (b :: rest) else some (a, b)
  | _ => none

/-- Each of some values once, in ascending order. -/
def ascending (ds : List Datum) : Except Fault (List Datum) := do
  ds.forM hashable
  let distinct := ds.eraseDupsBy same
  match unordered? distinct with
  | some (a, b) => throw (.noOrder "<" b.typeName a.typeName)
  | none => return distinct.mergeSort fun a b => !b.comesBefore a

end LineCursor.Datum
