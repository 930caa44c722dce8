import LineCursor.Cursor

/-!
Moving a cursor.

A cursor moves by one character (`Cursor.popFront`).  When it has passed the last character of its
line it reads the next one at once, so it stands in front of a character or at the end.  If that
read fails the cursor stays behind the last character, and the next move tries again.

Records are made when a cursor is opened, on each refill if its settings say so, when a read fails,
and once when the end is reached.
-/

namespace LineCursor.Cursor

/-- Whether the cursor counts what it reads. -/
def tallies (c : Cursor) : Bool :=
  c.settings.tallying.truthy

/-- Reads the clock. -/
def tick (c : Cursor) : Float × Cursor :=
  let (now, clock) := c.context.clock.read
  (now, { c with context := { c.context with clock } })

/-- Counts a read that succeeded and took the given time. -/
def countRead (c : Cursor) (line : Line) (milliseconds : Float) : Cursor :=
  let t := c.tally
  { c with
    tally := { t with
      milliseconds := t.milliseconds + milliseconds
      lines := if line.truthy then t.lines + 1 else t.lines } }

/-- Reads one line from the feed.  A failure is recorded, an interruption is not. -/
def fetch (c : Cursor) : Except Fault Line × Cursor :=
  let (start, c) := c.tick
  let (outcome, feed) := c.feed.readLine
  let c := { c with feed }
  match outcome with
  | .error e =>
    let c :=
      if e.isOrdinary then
        c.note .error "Failed to read from source"
          [("source_name", c.name), ("line", .int c.line)] (some (some e))
      else c
    (.error e, c)
  | .ok line =>
    if c.tallies then
      let (finish, c) := c.tick
      (.ok line, c.countRead line ((finish - start) * 1000.0))
    else (.ok line, c)

/-- Records the end when it is reached for the first time. -/
def noteEnd (c : Cursor) : Except Fault Unit × Cursor :=
  if c.endNoted then (.ok (), c)
  else
    match c.atEnd with
    | .error e => (.error e, c)
    | .ok false => (.ok (), c)
    | .ok true =>
      let c := { c with endNoted := true }
      match c.tally.toDatum with
      | .error e => (.error e, c)
      | .ok metrics =>
        (.ok (), c.note .debug "Character stream exhausted"
          [("source_name", c.name), ("metrics", metrics)])

/-- Records a refill, if the settings say so. -/
def noteRefill (c : Cursor) : Except Fault Unit × Cursor :=
  if c.settings.refillRecords.truthy then
    match c.buffer.length with
    | .error e => (.error e, c)
    | .ok n =>
      (.ok (), c.note .debug "Buffer refilled" [("line", .int c.line), ("line_length", .int n)])
  else (.ok (), c)

/-- The cursor in front of a line that follows its own. -/
def onNextLine (c : Cursor) (line : Line) : Cursor :=
  let t := c.tally
  { c with
    buffer := line
    column := 1
    line := c.line + 1
    tally := if c.tallies then { t with refills := t.refills + 1 } else t }

/-- Moves to the next line. -/
def refill (c : Cursor) : Except Fault Unit × Cursor :=
  match c.fetch with
  | (.error e, c) => (.error e, c)
  | (.ok line, c) =>
    match (c.onNextLine line).noteRefill with
    | (.error e, c) => (.error e, c)
    | (.ok (), c) => c.noteEnd

/-- Counts the character in front of the cursor, if there is one. -/
def countCharacter (c : Cursor) : Except Fault Cursor :=
  if c.tallies then
    c.buffer.length.map fun n =>
      if c.index < n then
        let t := c.tally
        { c with tally := { t with characters := t.characters + 1 } }
      else c
  else .ok c

/-- Moves behind the character in front of the cursor.  At the end nothing moves. -/
def popFront (c : Cursor) : Except Fault Unit × Cursor :=
  match c.atEnd with
  | .error e => (.error e, c)
  | .ok true => (.ok (), c)
  | .ok false =>
    match c.countCharacter with
    | .error e => (.error e, c)
    | .ok c =>
      let c := { c with column := c.column + 1 }
      match c.buffer.length with
      | .error e => (.error e, c)
      | .ok n => if c.index < n then (.ok (), c) else c.refill

/-- A cursor in front of the first character of a feed. -/
def start (feed : Feed) (settings : Settings := {}) (context : Context := {}) :
    Except Fault Unit × Cursor :=
  let c : Cursor := { settings, context, feed }
  match c.fetch with
  | (.error e, c) => (.error e, c)
  | (.ok buffer, c) =>
    let c := { c with buffer }
    match buffer.length with
    | .error e => (.error e, c)
    | .ok n =>
      (c.note .debug "Character stream opened"
        [("source_name", c.name), ("first_line_length", .int n)]).noteEnd

/-- The character in front of the cursor, and a move behind it; nothing at the end.  When the feed
says during the move that there is no more, that ends the characters too. -/
def next? (c : Cursor) : Except Fault (Option Datum) × Cursor :=
  match c.atEnd with
  | .error e => (.error e, c)
  | .ok true => (.ok none, c)
  | .ok false =>
    match c.front with
    | (.error e, c) => (.error e, c)
    | (.ok d, c) =>
      match c.popFront with
      | (.error (.stopped _), c) => (.ok none, c)
      | (.error e, c) => (.error e, c)
      | (.ok (), c) => (.ok (some d), c)

/-- Moves by `n` characters, or up to the first failure. -/
def popMany : Nat → Cursor → Except Fault Unit × Cursor
  | 0, c => (.ok (), c)
  | n + 1, c =>
    match c.popFront with
    | (.error e, c) => (.error e, c)
    | (.ok (), c) => popMany n c

end LineCursor.Cursor
