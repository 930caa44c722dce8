import LineCursor.Proofs.Cursor.Accounting

/-!
A cursor holds one line, and reads the next one when it has passed that line.

Whether a move reads follows from the place before it (`Outline.feed_advance_of_behind`,
`Outline.feed_advance_of_within`):

    not at the end, and at the last character or behind it   one read
    else                                                     none

So a feed has been read once for each line up to the cursor's own and once for each failure, and the
cursor holds the line that came last (`Reached.reads_on_demand`).
-/

namespace LineCursor

namespace Outline

theorem feed_advance_of_behind {o : Outline} (ha : o.atEnd = false)
    (hi : o.buffer.size ≤ o.index + 1) : o.advance.2.feed = o.feed.readLine.2 := by
  cases hr : o.feed.readLine with
  | mk outcome g =>
    cases outcome with
    | error e => rw [advance_of_error ha hi hr]
    | ok l => rw [advance_of_ok ha hi hr]

theorem feed_advance_of_within {o : Outline}
    (h : o.atEnd = true ∨ o.index + 1 < o.buffer.size) : o.advance.2.feed = o.feed := by
  cases ha : o.atEnd with
  | true => rw [o.advance_of_atEnd ha]
  | false =>
    rcases h with h | h
    · rw [ha] at h
      cases h
    · rw [advance_of_lt ha h]

/-- A character is taken from the end of a line with one read. -/
theorem feed_next?_of_last {o : Outline} (ha : o.atEnd = false)
    (hi : o.index + 1 = o.buffer.size) : o.next?.2.feed = o.feed.readLine.2 := by
  rw [next?_of_lt (by omega)]
  exact feed_advance_of_behind ha (Nat.le_of_eq hi.symm)

theorem feed_next?_of_other {o : Outline}
    (h : o.atEnd = true ∨ o.index + 1 ≠ o.buffer.size) : o.next?.2.feed = o.feed := by
  rcases Nat.lt_or_ge o.index o.buffer.size with hlt | hge
  · rw [next?_of_lt hlt]
    exact feed_advance_of_within (h.imp_right fun hi => by omega)
  · rw [next?_of_le hge]

end Outline

namespace Cursor

theorem feed_look (l : Look) (c : Cursor) : (c.look l).2.feed = c.feed := by
  cases l with
  | front =>
    show c.front.2.feed = c.feed
    unfold front
    repeat' split
    all_goals rfl
  | location => rfl
  | atEnd => rfl

/-- Whatever has happened to a cursor: its line number is the number of reads that gave a line, it
holds the line of the last of them, and all other reads have failed.  A move reads once if the
cursor is not at the end and has the last character of its line in front of it or none, and
otherwise it does not read.  To take a character reads when that is the last one of its line, and to
look at the cursor never does. -/
theorem Reached.reads_on_demand {feed : Feed} {d : Cursor} (hp : feed.Plain)
    (h : Reached feed d) :
    d.line = (feed.lines (d.readsSince feed)).length ∧
      (feed.lines (d.readsSince feed)).getLast? = some d.buffer ∧
      d.readsSince feed = d.line + feed.failed (d.readsSince feed) ∧
      ∃ n, d.buffer.length = .ok n ∧
        (d.atEnd = .ok false → n ≤ d.column → d.popFront.2.feed = d.feed.readLine.2) ∧
        (d.atEnd = .ok true ∨ d.column < n → d.popFront.2.feed = d.feed) ∧
        (d.atEnd = .ok false → n = d.column → d.next?.2.feed = d.feed.readLine.2) ∧
        (d.atEnd = .ok true ∨ n ≠ d.column → d.next?.2.feed = d.feed) ∧
        (∀ l, (d.look l).2.feed = d.feed) ∧
        d.feed.readLine.2.reads = d.feed.reads + 1 := by
  obtain ⟨l, g, events, hr, hs, hplain⟩ := h.exists_outline hp
  obtain ⟨n, hread⟩ := (Outline.HasRead.first hr).after events
  generalize (⟨g, [], l, 0⟩ : Outline).after events = o at hs hread hplain
  have hline : d.line = (feed.lines n).length := by
    rw [hs.line, hread.lines, List.length_reverse]
    rfl
  have hpop := (hs.popFront_state hplain).feed
  have hnext := (hs.next? hplain).1.feed
  rw [hs.readsSince_eq hread]
  refine ⟨hline, ?_, ?_, o.buffer.size, hs.length_eq hplain.buffer, ?_, ?_, ?_, ?_,
    fun l => feed_look l d, d.feed.reads_readLine⟩
  · rw [hread.lines, List.getLast?_reverse, hs.buffer]
    rfl
  · rw [hline, feed.length_lines_add_failed]
  · intro ha hi
    rw [hs.column] at hi
    rw [hpop, hs.feed, Outline.feed_advance_of_behind ((hs.atEnd_iff hplain.buffer).1 ha) hi]
  · intro hi
    rw [hs.atEnd_iff hplain.buffer, hs.column] at hi
    rw [hpop, hs.feed, Outline.feed_advance_of_within hi]
  · intro ha hi
    rw [hs.column] at hi
    rw [hnext, hs.feed, Outline.feed_next?_of_last ((hs.atEnd_iff hplain.buffer).1 ha) hi.symm]
  · intro hi
    rw [hs.atEnd_iff hplain.buffer, hs.column] at hi
    rw [hnext, hs.feed, Outline.feed_next?_of_other (hi.imp_right Ne.symm)]

/-- One of four reads has failed when the cursor has come to the third line; the move behind the
only character there reads again. -/
theorem reads_on_demand_stuttering :
    (Feed.source stuttering).Plain ∧
      ∃ d, Reached (.source stuttering) d ∧ d.line = 3 ∧
        (Feed.source stuttering).failed (d.readsSince (.source stuttering)) = 1 ∧
        d.readsSince (.source stuttering) = 3 + 1 ∧ d.buffer = .bytes #[0x0A] ∧
        d.popFront.2.feed = d.feed.readLine.2 := by
  have hd := reached_of_start (.source stuttering) {} {} rfl
    [.popFront, .popFront, .look .front, .popFront, .popFront]
  obtain ⟨-, -, hreads, n, hn, hbehind, -⟩ := Reached.reads_on_demand plain_stuttering hd
  cases hn
  exact ⟨plain_stuttering, _, hd, rfl, rfl, hreads, rfl, hbehind rfl (by decide)⟩

end Cursor

end LineCursor
