import LineCursor.Proofs.Cursor.Outline

/-!
What the records of a cursor tell.

A cursor that records everything (`Cursor.Verbose`) writes one record for each notice: that it was
opened, that the next line came or could not be read, that a character was asked for where there is
none, and that the end is reached.  `c.Tells d notices` says that these are all records that were
written from `c` to `d`, in order.  Each operation tells

    c.Tells c.front.2 c.missedNotices                                            (tells_front)
    c.feed.readLine = (.error e, g) → c.Tells c.refill.2 [.failed c.line e]     (tells_refill_error)
    c.feed.readLine = (.ok l, g)    →
      c.Tells c.refill.2 (.refilled (c.line + 1) l.size :: c.refill.2.endNotices)  (tells_refill_ok)
-/

namespace LineCursor

namespace Log

/-- What a record of a cursor tells. -/
inductive Notice where
  /-- The cursor was opened in front of a line of the given length. -/
  | opened (length : Nat)
  /-- The line of this number came. -/
  | refilled (line length : Nat)
  /-- The line behind this one could not be read. -/
  | failed (line : Nat) (fault : Fault)
  /-- There is no character at this place. -/
  | missed (place : Location)
  /-- The end is reached. -/
  | ended (metrics : Datum)

namespace Notice

def severity : Notice → Severity
  | failed _ _ => .error
  | _ => .debug

def message : Notice → String
  | opened _ => "Character stream opened"
  | refilled _ _ => "Buffer refilled"
  | failed _ _ => "Failed to read from source"
  | missed _ => "Read past end of stream"
  | ended _ => "Character stream exhausted"

/-- The fields of its own, for a feed of the given name. -/
def fields (name : Datum) : Notice → Entries
  | opened length => [("source_name", name), ("first_line_length", .int length)]
  | refilled line length => [("line", .int line), ("line_length", .int length)]
  | failed line _ => [("source_name", name), ("line", .int line)]
  | missed place => [("position", .str place.text)]
  | ended metrics => [("source_name", name), ("metrics", metrics)]

def cause : Notice → Option (Option Fault)
  | failed _ e => some (some e)
  | _ => none

/-- The record of a notice, for a cursor with these settings on a feed of the given name. -/
def record (s : Settings) (name : Datum) (n : Notice) : Record where
  logger := "lexstream.character.stream"
  level := n.severity.level
  message := n.message
  extra := ("component", .str "char_stream") :: ("correlation_id", .ofString? s.correlation) ::
    n.fields name
  cause := n.cause

/-- The number of the line that came. -/
def line? : Notice → Option Nat
  | refilled line _ => some line
  | _ => none

/-- What a read gave: the length of a line, or a failure. -/
def read? : Notice → Option (Except Fault Nat)
  | opened length => some (.ok length)
  | refilled _ length => some (.ok length)
  | failed _ e => some (.error e)
  | _ => none

def isEnd : Notice → Bool
  | ended _ => true
  | _ => false

end Notice

end Log

open Log

namespace Cursor

/-- The cursor writes all its records, those of refills included. -/
structure Verbose (c : Cursor) : Prop where
  least : c.settings.level ≤ 10
  effective : c.context.levels.effective "lexstream.character.stream" ≤ 10
  refills : c.settings.refillRecords.truthy = true

/-- The notices are what was recorded from one cursor to the other. -/
structure Tells (c d : Cursor) (notices : List Notice) : Prop where
  settings : d.settings = c.settings
  levels : d.context.levels = c.context.levels
  name : d.name = c.name
  journal : d.context.journal.toList =
    c.context.journal.toList ++ notices.map (·.record c.settings c.name)

namespace Tells

variable {c d e : Cursor} {l m : List Notice}

theorem refl (c : Cursor) : c.Tells c [] :=
  ⟨rfl, rfl, rfl, by simp⟩

/-- What leaves settings, levels, name and records alone tells nothing. -/
theorem of_eq (hs : d.settings = c.settings) (hl : d.context.levels = c.context.levels)
    (hn : d.name = c.name) (hj : d.context.journal = c.context.journal) : c.Tells d [] :=
  ⟨hs, hl, hn, by simp [hj]⟩

theorem trans (h : c.Tells d l) (k : d.Tells e m) : c.Tells e (l ++ m) where
  settings := k.settings.trans h.settings
  levels := k.levels.trans h.levels
  name := k.name.trans h.name
  journal := by
    rw [k.journal, h.journal, h.settings, h.name, List.map_append, List.append_assoc]

theorem verbose (h : c.Tells d l) (hv : c.Verbose) : d.Verbose where
  least := by
    rw [h.settings]
    exact hv.least
  effective := by
    rw [h.levels]
    exact hv.effective
  refills := by
    rw [h.settings]
    exact hv.refills

end Tells

/-! ## Notices of single operations -/

/-- There is no character in front. -/
def missedNotices (c : Cursor) : List Notice :=
  match c.front.1 with
  | .ok _ => []
  | .error _ => [.missed c.location]

/-- The end is reached, and the rates of the tally exist. -/
def endNotices (c : Cursor) : List Notice :=
  match c.atEnd, c.tally.toDatum with
  | .ok true, .ok metrics => [.ended metrics]
  | _, _ => []

theorem missedNotices_cases (c : Cursor) :
    c.missedNotices = [] ∨ ∃ place, c.missedNotices = [.missed place] := by
  unfold missedNotices
  split
  · exact .inl rfl
  · exact .inr ⟨_, rfl⟩

theorem endNotices_cases (c : Cursor) :
    c.endNotices = [] ∨
      ∃ metrics, c.endNotices = [.ended metrics] ∧ c.atEnd = .ok true := by
  unfold endNotices
  split
  · next ha _ => exact .inr ⟨_, rfl, ha⟩
  · exact .inl rfl

/-- The end tells of no read. -/
@[simp]
theorem filterMap_read?_endNotices (c : Cursor) : c.endNotices.filterMap Notice.read? = [] := by
  rcases c.endNotices_cases with h | ⟨metrics, h, -⟩ <;> rw [h] <;> rfl

@[simp]
theorem filterMap_line?_endNotices (c : Cursor) : c.endNotices.filterMap Notice.line? = [] := by
  rcases c.endNotices_cases with h | ⟨metrics, h, -⟩ <;> rw [h] <;> rfl

@[simp]
theorem filter_isEnd_endNotices (c : Cursor) :
    c.endNotices.filter Notice.isEnd = c.endNotices := by
  rcases c.endNotices_cases with h | ⟨metrics, h, -⟩ <;> rw [h] <;> rfl

section

variable {c : Cursor}

/-- No record of a verbose cursor is filtered. -/
theorem tells_note (hv : c.Verbose) (n : Notice) :
    c.Tells (c.note n.severity n.message (n.fields c.name) n.cause) [n] := by
  have hlevel : (10 : Int) ≤ n.severity.level := by
    cases n.severity <;> decide
  have hpasses : c.reporter.passes c.context.levels n.severity.level = true := by
    have hleast : c.settings.level ≤ n.severity.level := Int.le_trans hv.least hlevel
    have heffective : c.context.levels.effective "lexstream.character.stream" ≤ n.severity.level :=
      Int.le_trans hv.effective hlevel
    have hpos : 0 < n.severity.level := by omega
    show (decide (c.settings.level ≤ n.severity.level) && (decide (0 < n.severity.level) &&
      decide (c.context.levels.effective "lexstream.character.stream" ≤ n.severity.level))) = true
    rw [decide_eq_true hleast, decide_eq_true hpos, decide_eq_true heffective]
    rfl
  have hrecord : c.reporter.record? c.context.levels n.severity n.message (n.fields c.name)
      n.cause = some (n.record c.settings c.name) := by
    unfold Reporter.record?
    rw [if_pos hpasses]
    cases n <;> rfl
  unfold note Context.note
  rw [hrecord]
  exact ⟨rfl, rfl, rfl, by simp⟩

theorem tells_front (hv : c.Verbose) (hb : c.buffer.IsPlain) :
    c.Tells c.front.2 c.missedNotices := by
  unfold missedNotices front
  rw [c.buffer.length_eq hb]
  dsimp only
  by_cases hi : c.index < c.buffer.size
  · have hx := c.buffer.item_eq c.index _ (List.getElem?_eq_getElem hi)
    rw [if_pos hi, hx]
    exact .refl c
  · rw [if_neg hi]
    exact tells_note hv (.missed c.location)

/-- A read that fails is told if it is no interruption. -/
theorem tells_fetch_error {e : Fault} {g : Feed} (hv : c.Verbose)
    (hr : c.feed.readLine = (.error e, g)) (hname : g.name = c.feed.name)
    (he : e.isOrdinary = true) :
    c.Tells c.fetch.2 [.failed c.line e] ∧ c.fetch.2.endNoted = c.endNoted := by
  have hread : c.Tells ({ c.tick.2 with feed := g } : Cursor) [] :=
    .of_eq rfl rfl hname rfl
  have hnote := tells_note (hread.verbose hv) (.failed c.line e)
  have hfetch : c.fetch.2 = ({ c.tick.2 with feed := g } : Cursor).note .error
      "Failed to read from source" [("source_name", g.name), ("line", .int c.line)]
      (some (some e)) := by
    unfold fetch tick
    dsimp only
    rw [hr]
    dsimp only
    rw [if_pos he]
    rfl
  rw [hfetch]
  exact ⟨hread.trans hnote, rfl⟩

theorem tells_fetch_ok {l : Line} {g : Feed} (hr : c.feed.readLine = (.ok l, g))
    (hname : g.name = c.feed.name) :
    c.Tells c.fetch.2 [] ∧ c.fetch.2.endNoted = c.endNoted := by
  unfold fetch tick
  dsimp only
  rw [hr]
  dsimp only
  split
  · exact ⟨.of_eq rfl rfl hname rfl, rfl⟩
  · exact ⟨.of_eq rfl rfl hname rfl, rfl⟩

theorem tells_noteRefill (hv : c.Verbose) (hb : c.buffer.IsPlain) :
    c.Tells c.noteRefill.2 [.refilled c.line c.buffer.size] ∧
      c.noteRefill.2.endNoted = c.endNoted := by
  unfold noteRefill
  rw [if_pos hv.refills, c.buffer.length_eq hb]
  exact ⟨tells_note hv (.refilled c.line c.buffer.size), rfl⟩

/-- The end is told when it is reached for the first time. -/
theorem tells_noteEnd (hv : c.Verbose) (hn : c.endNoted = false) {b : Bool}
    (ha : c.atEnd = .ok b) :
    c.Tells c.noteEnd.2 c.endNotices ∧ c.noteEnd.2.endNoted = b := by
  unfold noteEnd endNotices
  rw [hn, ha]
  cases b with
  | false => exact ⟨.refl c, hn⟩
  | true =>
    dsimp only
    rw [if_neg Bool.false_ne_true]
    cases c.tally.toDatum with
    | error e => exact ⟨.of_eq rfl rfl rfl rfl, rfl⟩
    | ok metrics =>
      have hv' : ({ c with endNoted := true } : Cursor).Verbose := ⟨hv.1, hv.2, hv.3⟩
      obtain ⟨hs, hl, hname, hj⟩ := tells_note hv' (.ended metrics)
      exact ⟨⟨hs, hl, hname, hj⟩, rfl⟩

theorem exists_atEnd (c : Cursor) (hb : c.buffer.IsPlain) : ∃ b, c.atEnd = .ok b := by
  unfold atEnd
  rw [c.buffer.length_eq hb]
  split <;> exact ⟨_, rfl⟩

theorem atEnd_of_beside {d : Cursor} (h : c.Beside d) : d.atEnd = c.atEnd := by
  unfold atEnd index
  rw [h.feed, h.buffer, h.column]

theorem endNotices_of_beside {d : Cursor} (h : c.Beside d) : d.endNotices = c.endNotices := by
  unfold endNotices
  rw [atEnd_of_beside h, h.tally]

theorem tells_refill_error {e : Fault} {g : Feed} (hv : c.Verbose)
    (hr : c.feed.readLine = (.error e, g)) (hname : g.name = c.feed.name)
    (he : e.isOrdinary = true) :
    c.Tells c.refill.2 [.failed c.line e] ∧ c.refill.2.endNoted = c.endNoted := by
  obtain ⟨d, hd, -⟩ := fetch_of_error hr
  have hfetch := tells_fetch_error hv hr hname he
  rw [hd] at hfetch
  rw [refill, hd]
  exact hfetch

/-- The next line is told, and then the end if that line brings it. -/
theorem tells_refill_ok {l : Line} {g : Feed} (hv : c.Verbose) (hn : c.endNoted = false)
    (hl : l.IsPlain) (hr : c.feed.readLine = (.ok l, g)) (hname : g.name = c.feed.name) :
    c.Tells c.refill.2 (.refilled (c.line + 1) l.size :: c.refill.2.endNotices) ∧
      c.refill.2.atEnd = .ok c.refill.2.endNoted := by
  obtain ⟨d₁, ms, hd₁, hb₁⟩ := fetch_of_ok hr
  obtain ⟨hfetch, hnoted₁⟩ := tells_fetch_ok hr hname
  rw [hd₁] at hfetch hnoted₁
  have hnext : d₁.Tells (d₁.onNextLine l) [] := .of_eq rfl rfl rfl rfl
  obtain ⟨d₂, hd₂, hb₂⟩ := noteRefill_eq (d₁.onNextLine l) hl
  obtain ⟨hrefill, hnoted₂⟩ := tells_noteRefill (hnext.verbose (hfetch.verbose hv)) hl
  rw [hd₂] at hrefill hnoted₂
  have hp : d₂.buffer.IsPlain := by
    rw [hb₂.buffer]
    exact hl
  have hnone : d₂.endNoted = false := hnoted₂.trans (hnoted₁.trans hn)
  obtain ⟨b, ha⟩ := exists_atEnd d₂ hp
  obtain ⟨r, d₃, hd₃, hb₃, -⟩ := noteEnd_cases d₂ hp
  have htold := (hfetch.trans hnext).trans hrefill
  obtain ⟨hend, hnoted₃⟩ := tells_noteEnd (htold.verbose hv) hnone ha
  rw [hd₃] at hend hnoted₃
  have hline : (d₁.onNextLine l).line = c.line + 1 := congrArg (· + 1) hb₁.line
  have hdone : c.refill = (r, d₃) := by
    rw [refill, hd₁]
    dsimp only
    rw [hd₂]
    exact hd₃
  rw [hdone, endNotices_of_beside hb₃, atEnd_of_beside hb₃, ha, hnoted₃, ← hline]
  exact ⟨htold.trans hend, rfl⟩

/-- The opening is told, and then the end if there is nothing to read. -/
theorem tells_start {feed g : Feed} {l : Line} {s : Settings} {x : Context}
    (hv : ({ settings := s, context := x, feed } : Cursor).Verbose) (hl : l.IsPlain)
    (hr : feed.readLine = (.ok l, g)) (hname : g.name = feed.name) :
    ({ settings := s, context := x, feed } : Cursor).Tells (Cursor.start feed s x).2
        (.opened l.size :: (Cursor.start feed s x).2.endNotices) ∧
      (Cursor.start feed s x).2.atEnd = .ok (Cursor.start feed s x).2.endNoted := by
  obtain ⟨d, ms, hd, -⟩ := fetch_of_ok (c := { settings := s, context := x, feed }) hr
  obtain ⟨hfetch, hnoted⟩ :=
    tells_fetch_ok (c := { settings := s, context := x, feed }) hr hname
  rw [hd] at hfetch hnoted
  have hline : d.Tells { d with buffer := l } [] := .of_eq rfl rfl rfl rfl
  have hread := hfetch.trans hline
  have hopened := hread.trans (tells_note (hread.verbose hv) (.opened l.size))
  generalize hd₂ : ({ d with buffer := l } : Cursor).note _ _ _ _ = d₂ at hopened
  have hb₂ : ({ d with buffer := l } : Cursor).Beside d₂ := by
    rw [← hd₂]
    exact .note _ _ _ _ _
  have hp : d₂.buffer.IsPlain := by
    rw [hb₂.buffer]
    exact hl
  have hnone : d₂.endNoted = false := by
    rw [← hd₂]
    exact hnoted
  obtain ⟨b, ha⟩ := exists_atEnd d₂ hp
  obtain ⟨r, d₃, hd₃, hb₃, -⟩ := noteEnd_cases d₂ hp
  obtain ⟨hend, hnoted₃⟩ := tells_noteEnd (hopened.verbose hv) hnone ha
  rw [hd₃] at hend hnoted₃
  have hdone : Cursor.start feed s x = (r, d₃) := by
    unfold Cursor.start
    dsimp only
    rw [hd]
    dsimp only
    rw [l.length_eq hl, ← hd₃, ← hd₂]
    rfl
  rw [hdone, endNotices_of_beside hb₃, atEnd_of_beside hb₃, ha, hnoted₃]
  exact ⟨hopened.trans hend, rfl⟩

end

end Cursor

end LineCursor
