import LineCursor.Feed.Offer

/-!
Feeds: what a cursor takes its lines from.

A feed is a source as it is or a file with an adapter around it (`FileFeed`).  The adapter finds the
end of the file by itself: a line without terminator can only be the last one.  From then on it
gives empty lines and leaves the file alone.
-/

namespace LineCursor

/-- A file as a source. -/
structure FileFeed where
  file : File
  name : Option String := none
  /-- Whether the last line has been read. -/
  ended : Bool := false
  /-- What is read from then on. -/
  blank : Line := .text #[]
  /-- The number of reads so far, those that leave the file alone included. -/
  reads : Nat := 0

namespace FileFeed

/-- The next line.  A value that is not a line of a file fails, but the file has been read. -/
def readLine (f : FileFeed) : Except Fault Line × FileFeed :=
  let f := { f with reads := f.reads + 1 }
  if f.ended then (.ok f.blank, f)
  else
    let (outcome, file) := f.file.readLine
    let f := { f with file }
    match outcome with
    | .error e => (.error e, f)
    | .ok line =>
      match line.emptied with
      | .error e => (.error e, f)
      | .ok blank =>
        match line.isTerminated with
        | .error e => (.error e, { f with blank })
        | .ok terminated => (.ok line, { f with blank, ended := !terminated })

end FileFeed

/-- A file that can be read, as a source: it has to be open and readable. -/
def Offer.toFileFeed (o : Offer) : Except Fault FileFeed :=
  let name := o.name.text?
  match o.file with
  | none => .error (.unusable .readline name)
  | some file =>
    if file.closed.truthy then .error (.unusable .openness name)
    else
      match file.readable with
      | .error e => .error e
      | .ok d => if d.truthy then .ok { file, name } else .error (.unusable .readability name)

/-- What a cursor takes its lines from. -/
inductive Feed where
  | source (s : Source)
  | file (f : FileFeed)

/-- A source is a feed as it is; any other object has to be a file. -/
def Offer.toFeed (o : Offer) : Except Fault Feed :=
  match o.source? with
  | some s => .ok (.source s)
  | none => o.toFileFeed.map .file

namespace Feed

def name : Feed → Datum
  | source s => s.name
  | file f => .ofString? f.name

/-- Whether the end is reached, as the feed says it. -/
def ended : Feed → Datum
  | source s => s.ended
  | file f => .bool f.ended

/-- The number of reads so far. -/
def reads : Feed → Nat
  | source s => s.reads
  | file f => f.reads

/-- The number of reads of the source or file behind a feed. -/
def deviceReads : Feed → Nat
  | source s => s.reads
  | file f => f.file.reads

def readLine : Feed → Except Fault Line × Feed
  | source s =>
    let (outcome, s) := s.readLine
    (outcome, source s)
  | file f =>
    let (outcome, f) := f.readLine
    (outcome, file f)

/-- Closes the file behind a feed. -/
def close : Feed → Feed
  | source s => source s
  | file f => file { f with file := f.file.close }

end Feed

/-- What a cursor is opened on: a feed that others may read too, or an object, which becomes a feed
of the cursor's own. -/
inductive Input where
  | feed (f : Feed)
  | offer (o : Offer)

namespace Input

def toFeed : Input → Except Fault Feed
  | feed f => .ok f
  | offer o => o.toFeed

/-- The input again, once the feed that it became has been read. -/
def resumed (input : Input) (read : Feed) : Input :=
  match input, read with
  | feed _, read => feed read
  | offer o, .source s => offer (o.withSource s)
  | offer o, .file f => offer { o with file := some f.file }

/-- The feed of a cursor, once another cursor on the same input has read `other`: a file is shared,
but each cursor keeps its own adapter around it. -/
def shared (input : Input) (own other : Feed) : Feed :=
  match input, own, other with
  | offer _, .file f, .file g => .file { f with file := g.file }
  | _, _, other => other

end Input

end LineCursor
