import LineCursor.Proofs.Cursor.Events

/-!
What a cursor has counted is what its feed has given.

An outline `HasRead` a feed a number of times if its lines are those that the feed gave meanwhile;
each move reads once at most, and then it has read once more (`HasRead.of_ok`, `HasRead.of_error`).
As the tally of a cursor counts the lines of its outline, it is an account of the feed's reads, on
any feed and after any events (`Reached.tally_eq`):

    tally.refills    = line - 1
    tally.lines      = the lines that hold characters
    tally.characters = the characters of the lines before the cursor's own, and those passed on it
-/

namespace LineCursor

namespace Outline

/-- The lines of an outline are those that the feed gave in `n` reads, and the feed that it has left
goes on behind them. -/
structure HasRead (o : Outline) (feed : Feed) (n : Nat) : Prop where
  lines : feed.lines n = (o.buffer :: o.past).reverse
  reads : o.feed.reads = feed.reads + n
  rest : o.feed.readLine = (feed.after n).readLine

namespace HasRead

variable {o : Outline} {feed : Feed} {n : Nat}

theorem first {l : Line} {g : Feed} (hr : feed.readLine = (.ok l, g)) :
    (⟨g, [], l, 0⟩ : Outline).HasRead feed 1 where
  lines := Feed.lines_succ_of_ok (n := 0) (by rw [Feed.after, hr])
  reads := by rw [← feed.reads_readLine, hr]
  rest := by rw [Feed.after, hr, Feed.after]

theorem marked (h : o.HasRead feed n) (ended : Datum) : (o.marked ended).HasRead feed n where
  lines := h.lines
  reads := (o.feed.reads_marked ended).trans h.reads
  rest := (o.feed.readLine_marked ended).trans h.rest

theorem of_error (h : o.HasRead feed n) {e : Fault} {g : Feed}
    (hr : o.feed.readLine = (.error e, g)) (i : Nat) :
    ({ o with feed := g, index := i } : Outline).HasRead feed (n + 1) ∧
      feed.failing (n + 1) = feed.failing n + 1 := by
  have hn : (feed.after n).readLine.1 = .error e := by rw [← h.rest, hr]
  have hg : feed.after (n + 1) = g := by rw [Feed.after_succ, ← h.rest, hr]
  refine ⟨⟨?_, ?_, ?_⟩, Feed.failing_succ_of_error hn⟩
  · rw [Feed.lines_succ_of_error hn, h.lines]
  · show g.reads = _
    rw [← Nat.add_assoc, ← h.reads, ← o.feed.reads_readLine, hr]
  · rw [hg]

theorem of_ok (h : o.HasRead feed n) {l : Line} {g : Feed}
    (hr : o.feed.readLine = (.ok l, g)) :
    (⟨g, o.buffer :: o.past, l, 0⟩ : Outline).HasRead feed (n + 1) ∧
      feed.failing (n + 1) = 0 := by
  have hn : (feed.after n).readLine.1 = .ok l := by rw [← h.rest, hr]
  have hg : feed.after (n + 1) = g := by rw [Feed.after_succ, ← h.rest, hr]
  refine ⟨⟨?_, ?_, ?_⟩, Feed.failing_succ_of_ok hn⟩
  · rw [Feed.lines_succ_of_ok hn, h.lines, ← List.reverse_cons]
  · show g.reads = _
    rw [← Nat.add_assoc, ← h.reads, ← o.feed.reads_readLine, hr]
  · rw [hg]

theorem advance (h : o.HasRead feed n) : ∃ m, o.advance.2.HasRead feed m := by
  rcases o.advance_cases with ⟨-, he⟩ | ⟨-, -, he⟩ | ⟨e, g, -, -, hr, he⟩ | ⟨l, g, -, -, hr, he⟩
  · rw [he]
    exact ⟨n, h⟩
  · rw [he]
    exact ⟨n, h.lines, h.reads, h.rest⟩
  · rw [he]
    exact ⟨n + 1, (h.of_error hr _).1⟩
  · rw [he]
    exact ⟨n + 1, (h.of_ok hr).1⟩

theorem after (h : o.HasRead feed n) (events : List Event) :
    ∃ m, (o.after events).HasRead feed m := by
  refine after_induction (P := fun o => ∃ m, o.HasRead feed m) ?_ ?_ events ⟨n, h⟩
  · rintro p ⟨m, hp⟩
    exact hp.advance
  · rintro p ended ⟨m, hp⟩
    exact ⟨m, hp.marked ended⟩

/-- All characters that the feed gave have come to the outline. -/
theorem received_eq (h : o.HasRead feed n) : o.received = feed.taken n := by
  rw [feed.taken_eq_sum, h.lines, List.map_reverse, List.sum_reverse]
  rfl

theorem linesRead_eq (h : o.HasRead feed n) (hp : feed.Plain) :
    o.linesRead = (feed.lines n).countP (0 < ·.size) := by
  have hplain : ∀ l ∈ feed.lines n, l.truthy = true ↔ decide (0 < l.size) = true := by
    intro l hl
    rw [decide_eq_true_iff]
    exact l.truthy_iff (hp.of_mem_lines hl)
  rw [← List.countP_congr hplain, h.lines, List.countP_reverse]
  rfl

end HasRead

end Outline

namespace Cursor

/-- The number of reads of a feed since a cursor was opened on it. -/
def readsSince (d : Cursor) (feed : Feed) : Nat :=
  d.feed.reads - feed.reads

theorem Shows.readsSince_eq {s : Settings} {d : Cursor} {o : Outline} {feed : Feed} {n : Nat}
    (h : d.Shows s o) (hr : o.HasRead feed n) : d.readsSince feed = n := by
  rw [readsSince, h.feed, hr.reads, Nat.add_sub_cancel_left]

/-- Whatever has happened to a cursor: the tally of a cursor that counts has one refill for each
line but the first, one line for each line with characters, and all characters that the cursor has
passed, those of a line whose next read failed included.  A cursor that does not count has an empty
tally. -/
theorem Reached.tally_eq {feed : Feed} {d : Cursor} (hp : feed.Plain) (h : Reached feed d) :
    ∃ past : List Line, feed.lines (d.readsSince feed) = past ++ [d.buffer] ∧
      (d.settings.tallying.truthy = true →
        d.tally.refills = (d.line : Int) - 1 ∧
        d.tally.lines = ((feed.lines (d.readsSince feed)).countP (0 < ·.size) : Nat) ∧
        d.tally.characters =
          ((past.map Line.size).sum + min (d.column - 1) d.buffer.size : Nat)) ∧
      (d.settings.tallying.truthy = false → d.tally = ⟨0, 0, 0, 0.0⟩) := by
  obtain ⟨l, g, events, hr, hs, -⟩ := h.exists_outline hp
  obtain ⟨n, hread⟩ := (Outline.HasRead.first hr).after events
  generalize (⟨g, [], l, 0⟩ : Outline).after events = o at hs hread
  rw [hs.readsSince_eq hread]
  refine ⟨o.past.reverse, ?_, fun ht => ⟨?_, ?_, ?_⟩, hs.idle⟩
  · rw [hread.lines, List.reverse_cons, hs.buffer]
  · rw [(hs.counted ht).refills, hs.line, Outline.line]
    omega
  · rw [(hs.counted ht).lines, hread.linesRead_eq hp]
  · rw [(hs.counted ht).characters, Outline.consumed, hs.column, hs.buffer, List.map_reverse,
      List.sum_reverse, Nat.add_sub_cancel]

/-- A source that fails behind its first line, gives an empty line on the way and mixes text and
bytes. -/
def stuttering : Source where
  name := .null
  ended := .bool false
  script := File.scriptOf
    #[(.bool false, .ok (.text #['a', 'b'])), (.bool false, .error (.device "OSError" "busy")),
      (.bool false, .ok (.text #[])), (.bool true, .ok (.bytes #[0x0A]))]
    (.bool true, .ok (.text #[]))

theorem plain_stuttering : (Feed.source stuttering).Plain := by
  refine Feed.plain_source _ fun k l hl => ?_
  match k with
  | 0 | 2 | 3 => cases hl; trivial
  | 1 => cases hl
  | k + 4 => cases hl; trivial

/-- The move that fails has passed the second character; the one that is repeated counts nothing. -/
theorem tally_eq_stuttering :
    (Feed.source stuttering).Plain ∧
      ∃ d, Reached (.source stuttering) d ∧ d.line = 3 ∧ d.column = 1 ∧
        d.tally.refills = 2 ∧ d.tally.lines = 2 ∧ d.tally.characters = 2 := by
  have hd := reached_of_start (.source stuttering) {} {} rfl
    [.popFront, .popFront, .next, .popFront, .mark (.bool false), .popFront]
  obtain ⟨past, hpast, htally, -⟩ := Reached.tally_eq plain_stuttering hd
  obtain ⟨hrefills, hlines, hcharacters⟩ := htally rfl
  have hbefore : [Line.text #['a', 'b'], .text #[]] = past := List.append_cancel_right hpast
  subst hbefore
  exact ⟨plain_stuttering, _, hd, rfl, rfl, hrefills, hlines, hcharacters⟩

end Cursor

end LineCursor
