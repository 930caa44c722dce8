import LineCursor.Cursor.Walk

/-!
The readers that are compared: a cursor, and a plain loop over the characters as baseline.

Both count characters and lines of a text; a rest without terminator counts as a line.
-/

namespace LineCursor.Bench

inductive Reader where
  | cursor
  | baseline
deriving DecidableEq, Repr

def Reader.name : Reader → String
  | cursor => "char_stream"
  | baseline => "stringio_read"

/-- What a reader has counted. -/
structure Counts where
  characters : Nat
  lines : Nat
deriving DecidableEq, Repr

/-- Reads a text with a cursor until the cursor is at the end.  There are as many steps to the end
as there are characters; a cursor that were not there by then would have nothing left to show. -/
def countByCursor (settings : Settings) (levels : Log.Levels) (content : String) :
    Except Fault Counts :=
  match Cursor.start (.file { file := .ofText content }) settings { levels } with
  | (.error e, _) => .error e
  | (.ok (), c) =>
    let walk := c.walk content.length
    match walk.fault, walk.cursor.atEnd with
    | some e, _ => .error e
    | none, .error e => .error e
    | none, .ok false => .error (.exhausted walk.cursor.location)
    | none, .ok true => .ok ⟨walk.items.size, walk.cursor.line - 1⟩

/-- Reads a text character by character. -/
def countPlainly (content : List Char) : Counts :=
  let (counts, last) := content.foldl
    (fun (counts, _) c =>
      (⟨counts.characters + 1, if c = '\n' then counts.lines + 1 else counts.lines⟩, some c))
    ((⟨0, 0⟩ : Counts), (none : Option Char))
  if last.all (· == '\n') then counts else { counts with lines := counts.lines + 1 }

/-- Reads a text with a reader. -/
def Reader.count (reader : Reader) (settings : Settings) (levels : Log.Levels) (content : String) :
    Except Fault Counts :=
  match reader with
  | cursor => countByCursor settings levels content
  | baseline => .ok (countPlainly content.toList)

/-- The text that a value stands for, if it can be read at all; `null` stands for the empty text. -/
def contentText : Datum → Except Fault String
  | .null => .ok ""
  | .str s => .ok s
  | d => .error (.notContent d.typeName)

end LineCursor.Bench
