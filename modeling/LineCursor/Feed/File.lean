import LineCursor.Line
import LineCursor.Text.Lines

/-!
Files.

A file is read line after line; what the reads give is a script (`File.script`), which may hold
failures.  Files in memory (`File.ofText`, `File.ofBytes`) give their lines, then empty ones.
-/

namespace LineCursor

/-- An object that is read line by line. -/
structure File where
  /-- What the `k`-th read gives. -/
  script : Nat → Except Fault Line
  /-- The number of reads so far. -/
  reads : Nat := 0
  /-- Whether the file says that it is closed; any value, taken for its truth. -/
  closed : Datum := .bool false
  /-- What the file says when it is asked whether it can be read; any value, taken for its truth. -/
  readable : Except Fault Datum := .ok (.bool true)
  /-- What a read of the closed file gives.  Without it the file can still be read. -/
  refusal : Option Fault := none

namespace File

/-- A read may fail; it counts all the same, unless the file refuses it. -/
def readLine (f : File) : Except Fault Line × File :=
  match (if f.closed.truthy then f.refusal else none) with
  | some fault => (.error fault, f)
  | none => (f.script f.reads, { f with reads := f.reads + 1 })

def close (f : File) : File :=
  { f with closed := .bool true }

/-- The script that gives `lines` and then `last` over and over again. -/
def scriptOf {α : Type} (lines : Array α) (last : α) (k : Nat) : α :=
  lines.getD k last

/-- The file in memory with the given text. -/
def ofText (text : String) (mode : Text.Newlines := .lineFeed) (closed : Bool := false) : File where
  script :=
    let lines := ((mode.lines text.toList).map fun l => Line.text l.toArray).toArray
    fun k => .ok (scriptOf lines (.text #[]) k)
  closed := .bool closed
  refusal := some .closedText

/-- The file in memory with the given bytes; a line ends at a line feed. -/
def ofBytes (data : Array UInt8) (closed : Bool := false) : File where
  script :=
    let lines := Text.splitAfter (fun b _ => b == 0x0A) data.toList
    let lines := (lines.map fun l => Line.bytes l.toArray).toArray
    fun k => .ok (scriptOf lines (.bytes #[]) k)
  closed := .bool closed
  refusal := some .closedBytes

end File

end LineCursor
