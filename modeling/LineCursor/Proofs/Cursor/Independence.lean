import LineCursor.Proofs.Cursor.Accounting
import LineCursor.Proofs.Log.Emission

/-!
Settings, levels and clocks do not matter to what a cursor reads.

What a caller sees of a cursor after each of some events is the cursor's course
(`Cursor.course`); between the events the caller may look at the cursor as often as it likes.  Two
cursors that show the same outline take the same course (`Shows.course_eq`), whatever they count
and record.  So do all cursors that were opened on the same feed (`course_eq_of_feed`), and no
record of theirs is one that cannot be emitted.
-/

namespace LineCursor

/-- What a caller sees of a cursor when an event has ended. -/
structure Seen where
  outcome : Except Fault Answer
  line : Nat
  column : Nat
  buffer : Line
  ended : Except Fault Datum
  reads : Nat

namespace Outline

/-- An outline is the same after all looks. -/
theorem after_looks (o : Outline) (looks : List Look) : o.after (looks.map .look) = o := by
  induction looks with
  | nil => rfl
  | cons l looks ih => exact ih

end Outline

namespace Cursor

def seen (c : Cursor) (outcome : Except Fault Answer) : Seen :=
  ⟨outcome, c.line, c.column, c.buffer, c.endMark, c.feed.reads⟩

/-- What is seen after each of some events, if there are some looks before each of them. -/
def course : List (List Look × Event) → Cursor → List Seen
  | [], _ => []
  | (looks, event) :: steps, c =>
    let (outcome, c) := (c.after (looks.map .look)).step event
    c.seen outcome :: c.course steps

namespace Shows

variable {s t : Settings} {c d : Cursor} {o : Outline}

theorem seen_eq (hc : c.Shows s o) (hd : d.Shows t o) (outcome : Except Fault Answer) :
    c.seen outcome = d.seen outcome := by
  unfold seen Cursor.endMark Cursor.atEnd index
  rw [hc.line, hc.column, hc.buffer, hc.feed, hd.line, hd.column, hd.buffer, hd.feed]

/-- Cursors that show the same outline take the same course. -/
theorem course_eq (hc : c.Shows s o) (hd : d.Shows t o) (hp : o.Plain)
    (steps steps' : List (List Look × Event)) (hsteps : steps.map (·.2) = steps'.map (·.2))
    (hl : (o.after (steps.map (·.2))).received < 2 ^ 1000) :
    c.course steps = d.course steps' := by
  induction steps generalizing c d o steps' with
  | nil =>
    obtain rfl := List.map_eq_nil_iff.1 hsteps.symm
    rfl
  | cons first steps ih =>
    obtain ⟨looks, event⟩ := first
    cases steps' with
    | nil => cases hsteps
    | cons first' steps' =>
      obtain ⟨looks', event'⟩ := first'
      obtain ⟨rfl, hrest⟩ := List.cons_eq_cons.1 hsteps
      have hconsumed : (o.step event).2.consumed < 2 ^ 1000 :=
        calc (o.step event).2.consumed
            ≤ (o.step event).2.received := (o.step event).2.consumed_le
          _ ≤ ((o.step event).2.after (steps.map (·.2))).received :=
            (o.step event).2.received_le_after _
          _ < 2 ^ 1000 := hl
      have hc' := hc.after hp (looks.map .look)
      have hd' := hd.after hp (looks'.map .look)
      rw [o.after_looks] at hc' hd'
      obtain ⟨hcs, hco⟩ := hc'.step hp event
      obtain ⟨hds, hdo⟩ := hd'.step hp event
      unfold course
      dsimp only
      rw [hco fun _ => hconsumed, hdo fun _ => hconsumed, hcs.seen_eq hds,
        ih hcs hds (hp.after [event]) steps' hrest hl]

end Shows

/-- Whether a cursor opens lies with the first read of its feed. -/
theorem start_eq (feed : Feed) (hp : feed.Plain) (s t : Settings) (x y : Context) :
    (Cursor.start feed s x).1 = (Cursor.start feed t y).1 := by
  cases hr : feed.readLine with
  | mk outcome g =>
    cases outcome with
    | error e =>
      obtain ⟨c, hc⟩ := start_of_error hr s x
      obtain ⟨d, hd⟩ := start_of_error hr t y
      rw [hc, hd]
    | ok l =>
      have hl : l.IsPlain := hp 0 l (by rw [Feed.after, hr])
      obtain ⟨c, hc, -⟩ := start_of_ok hl hr s x
      obtain ⟨d, hd, -⟩ := start_of_ok hl hr t y
      rw [hc, hd]

/-- Cursors that opened on the same feed take the same course. -/
theorem course_eq_of_start {feed : Feed} (hp : feed.Plain) {s t : Settings} {x y : Context}
    {c d : Cursor} (hc : Cursor.start feed s x = (.ok (), c))
    (hd : Cursor.start feed t y = (.ok (), d)) (steps steps' : List (List Look × Event))
    (hsteps : steps.map (·.2) = steps'.map (·.2))
    (hl : feed.taken ((c.after (steps.map (·.2))).readsSince feed) < 2 ^ 1000) :
    c.course steps = d.course steps' := by
  obtain ⟨l, g, hr, hcs, hplain⟩ := shows_of_start hp hc
  obtain ⟨l', g', hr', hds, -⟩ := shows_of_start hp hd
  obtain ⟨hl', rfl⟩ := Prod.mk.inj (hr.symm.trans hr')
  cases hl'
  obtain ⟨n, hread⟩ := (Outline.HasRead.first hr).after (steps.map (·.2))
  rw [(hcs.after hplain (steps.map (·.2))).readsSince_eq hread, ← hread.received_eq] at hl
  exact hcs.course_eq hds hplain steps steps' hsteps hl

/-- Two cursors that are opened on the same feed both open or fail alike.  If they open, they take
the same course, with the same answers and faults, whatever their settings, their levels and their
clocks are and however often each is looked at on the way, as long as fewer than `2^1000` characters
are read.  And every record that a cursor writes meanwhile can be emitted. -/
theorem course_eq_of_feed (feed : Feed) (hp : feed.Plain) (s t : Settings) (x y : Context) :
    (Cursor.start feed s x).1 = (Cursor.start feed t y).1 ∧
      (∀ c d, Cursor.start feed s x = (.ok (), c) → Cursor.start feed t y = (.ok (), d) →
        ∀ steps steps' : List (List Look × Event), steps.map (·.2) = steps'.map (·.2) →
          feed.taken ((c.after (steps.map (·.2))).readsSince feed) < 2 ^ 1000 →
          c.course steps = d.course steps') ∧
      ∀ events, ∀ r ∈ ((Cursor.start feed s x).2.after events).context.journal,
        r ∈ x.journal ∨ r.Emittable :=
  ⟨start_eq feed hp s t x y,
    fun _ _ hc hd steps steps' hsteps hl => course_eq_of_start hp hc hd steps steps' hsteps hl,
    fun events => (Adds.start feed s x).trans (.after _ events)⟩

/-- One cursor records all it does and counts by a running clock, the other one does neither and is
looked at between the moves, also behind the line whose next read has failed. -/
theorem course_eq_of_feed_stuttering :
    (Feed.source stuttering).Plain ∧
      ∃ c d, Cursor.start (.source stuttering)
          { refillRecords := .bool true, threshold := "DEBUG", correlation := some "run" }
          { clock := .ofSteps #[1.5], levels := { root := 10 } } = (.ok (), c) ∧
        Cursor.start (.source stuttering) .quiet = (.ok (), d) ∧
        (Feed.source stuttering).taken ((c.after [.popFront, .popFront, .next, .popFront]).readsSince
          (.source stuttering)) < 2 ^ 1000 ∧
        c.course [([], .popFront), ([], .popFront), ([], .next), ([], .popFront)] =
          d.course [([.front, .location], .popFront), ([], .popFront), ([.atEnd, .front], .next),
            ([.front], .popFront)] := by
  have hl : (Feed.source stuttering).taken 3 < 2 ^ 1000 :=
    lt_of_lt_of_le (show _ < 2 ^ 10 by decide) (pow_le_pow_right₀ one_le_two (by decide))
  obtain ⟨-, hcourse, -⟩ := course_eq_of_feed (.source stuttering) plain_stuttering
    { refillRecords := .bool true, threshold := "DEBUG", correlation := some "run" } .quiet
    { clock := .ofSteps #[1.5], levels := { root := 10 } } {}
  exact ⟨plain_stuttering, _, _, rfl, rfl, hl, hcourse _ _ rfl rfl _ _ rfl hl⟩

end Cursor

end LineCursor
