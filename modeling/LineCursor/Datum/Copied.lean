import LineCursor.Fault

/-!
Copies of values.

A copy is made part by part.  Of a record it is the table of its fields, so the copy is not equal to
the record any more.  An object may be copied as an equal one, as another one that is not equal to
it, or not at all (`Copying`).  Another object has an identity of its own: copying takes the
identities from a given one on, which are those that no object has yet, and hands back the first
that is left.
-/

namespace LineCursor.Datum

mutual

/-- The copy of a value. -/
def copy (next : Nat) : Datum → Except Fault (Datum × Nat)
  | .list items => do
    let (items, next) ← copyItems next items
    return (.list items, next)
  | .dict entries => do
    let (entries, next) ← copyEntries next entries
    return (.dict entries, next)
  | .record _ fields => do
    let (entries, next) ← copyEntries next fields
    return (.dict entries, next)
  | .object type identity .equal => .ok (.object type identity .equal, next)
  | .object type _ .unequal => .ok (.object type next .unequal, next + 1)
  | .object type _ .refused => .error (.uncopyable type)
  | d => .ok (d, next)

/-- The copies of the items of a list, in order. -/
def copyItems (next : Nat) : List Datum → Except Fault (List Datum × Nat)
  | [] => .ok ([], next)
  | d :: rest => do
    let (d, next) ← copy next d
    let (rest, next) ← copyItems next rest
    return (d :: rest, next)

/-- Entries with their values copied, in order. -/
def copyEntries (next : Nat) : List (String × Datum) → Except Fault (List (String × Datum) × Nat)
  | [] => .ok ([], next)
  | (k, v) :: rest => do
    let (v, next) ← copy next v
    let (rest, next) ← copyEntries next rest
    return ((k, v) :: rest, next)

end

end LineCursor.Datum
