import LineCursor.Cursor.Advance

/-!
Walking through a feed.

Two ways to go through all characters: taking one after the other (`Cursor.drain`), or looking at
each before moving on (`Cursor.walk`), which also gives the place of each.  A walk ends at the end
of the feed, at a limit, or at the first failure.
-/

namespace LineCursor

/-- Where and how a walk ended. -/
structure Walk (α : Type) where
  /-- What was met on the way, in order. -/
  items : Array α
  /-- The failure that ended the walk. -/
  fault : Option Fault := none
  cursor : Cursor

/-- A character with its line and column. -/
structure Sighting where
  character : Datum
  line : Nat
  column : Nat

namespace Cursor

/-- Takes up to `limit` characters more. -/
def drainFrom : Nat → Array Datum → Cursor → Walk Datum
  | 0, items, cursor => { items, cursor }
  | limit + 1, items, c =>
    match c.next? with
    | (.error e, cursor) => { items, fault := some e, cursor }
    | (.ok none, cursor) => { items, cursor }
    | (.ok (some d), cursor) => drainFrom limit (items.push d) cursor

/-- Takes up to `limit` characters. -/
def drain (limit : Nat) (c : Cursor) : Walk Datum :=
  drainFrom limit #[] c

/-- Looks at up to `limit` characters more. -/
def walkFrom : Nat → Array Sighting → Cursor → Walk Sighting
  | 0, items, cursor => { items, cursor }
  | limit + 1, items, c =>
    match c.atEnd with
    | .error e => { items, fault := some e, cursor := c }
    | .ok true => { items, cursor := c }
    | .ok false =>
      match c.front with
      | (.error e, cursor) => { items, fault := some e, cursor }
      | (.ok character, c) =>
        let items := items.push ⟨character, c.line, c.column⟩
        match c.popFront with
        | (.error e, cursor) => { items, fault := some e, cursor }
        | (.ok (), c) => walkFrom limit items c

/-- Looks at up to `limit` characters and moves on behind each. -/
def walk (limit : Nat) (c : Cursor) : Walk Sighting :=
  walkFrom limit #[] c

end Cursor

/-- Two values of the same type in one, for the types of which lines are made. -/
def Datum.append? : Datum → Datum → Option Datum
  | .str s, .str t => some (.str (s ++ t))
  | .bytes a, .bytes b => some (.bytes (a ++ b))
  | .list l, .list m => some (.list (l ++ m))
  | _, _ => none

/-- The same values, neighbours of the same type in one. -/
def Datum.joined (items : Array Datum) : Array Datum :=
  items.foldl (fun done d =>
    match done.back? with
    | none => done.push d
    | some last =>
      match last.append? d with
      | some both => done.pop.push both
      | none => done.push d) #[]

end LineCursor
