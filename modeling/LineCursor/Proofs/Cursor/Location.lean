import LineCursor.Proofs.Cursor.Demand
import LineCursor.Proofs.Location

/-!
Cursors tell their places apart.

Whatever happens to a cursor, its feed is read or marked and nothing else (`Cursor.feed_step`), and
neither changes the feed's name.  So the name that stands in front of a cursor's locations stays the
same (`Cursor.name_after`), and two of its locations read alike only if line and column are the
same.
-/

namespace LineCursor

/-! ## The feed of a cursor -/

theorem Feed.name_marked (f : Feed) (ended : Datum) : (f.marked ended).name = f.name := by
  cases f <;> rfl

namespace Cursor

theorem feed_fetch (c : Cursor) : c.fetch.2.feed = c.feed.readLine.2 := by
  unfold fetch
  dsimp only
  split
  · split <;> rfl
  · split <;> rfl

theorem feed_noteEnd (c : Cursor) : c.noteEnd.2.feed = c.feed := by
  unfold noteEnd
  split
  · rfl
  · split
    · rfl
    · rfl
    · dsimp only
      split <;> rfl

theorem feed_noteRefill (c : Cursor) : c.noteRefill.2.feed = c.feed := by
  unfold noteRefill
  split
  · split <;> rfl
  · rfl

theorem feed_refill (c : Cursor) : c.refill.2.feed = c.feed.readLine.2 := by
  have hfetch := c.feed_fetch
  unfold refill
  split
  · next h =>
    rw [h] at hfetch
    exact hfetch
  · next line d h =>
    rw [h] at hfetch
    have hnote := feed_noteRefill (d.onNextLine line)
    split
    · next h' =>
      rw [h'] at hnote
      exact hnote.trans hfetch
    · next h' =>
      rw [h'] at hnote
      exact (feed_noteEnd _).trans (hnote.trans hfetch)

theorem feed_popFront (c : Cursor) :
    c.popFront.2.feed = c.feed ∨ c.popFront.2.feed = c.feed.readLine.2 := by
  unfold popFront
  split
  · exact .inl rfl
  · exact .inl rfl
  · split
    · exact .inl rfl
    · next d h =>
      obtain ⟨t, rfl⟩ := eq_of_countCharacter h
      dsimp only
      split
      · exact .inl rfl
      · split
        · exact .inl rfl
        · exact .inr (feed_refill _)

theorem feed_next? (c : Cursor) :
    c.next?.2.feed = c.feed ∨ c.next?.2.feed = c.feed.readLine.2 := by
  have hfront : c.front.2.feed = c.feed := feed_look .front c
  unfold next?
  split
  · exact .inl rfl
  · exact .inl rfl
  · split
    · next h =>
      rw [h] at hfront
      exact .inl hfront
    · next d h =>
      rw [h] at hfront
      have hpop := d.feed_popFront
      rw [hfront] at hpop
      split
      all_goals
        next h' =>
          rw [h'] at hpop
          exact hpop

/-- An event leaves the feed of a cursor alone, reads it or marks it. -/
theorem feed_step (c : Cursor) (e : Event) :
    (c.step e).2.feed = c.feed ∨ (c.step e).2.feed = c.feed.readLine.2 ∨
      ∃ ended, (c.step e).2.feed = c.feed.marked ended := by
  cases e with
  | look l => exact .inl (feed_look l c)
  | popFront => exact c.feed_popFront.imp_right .inl
  | next => exact c.feed_next?.imp_right .inl
  | mark ended => exact .inr (.inr ⟨ended, rfl⟩)

theorem name_step (c : Cursor) (e : Event) : (c.step e).2.name = c.name := by
  unfold name
  rcases c.feed_step e with h | h | ⟨ended, h⟩
  · rw [h]
  · rw [h, Feed.name_readLine]
  · rw [h, Feed.name_marked]

theorem name_after (c : Cursor) (events : List Event) : (c.after events).name = c.name := by
  induction events generalizing c with
  | nil => rfl
  | cons e events ih => exact (ih _).trans (c.name_step e)

/-! ## Locations -/

/-- Cursors whose feeds have a text for a name, or none, are at locations of one text exactly if
they are at the same line and column and their names are shown alike. -/
theorem text_location_eq_iff {c d : Cursor} {name name' : Option String}
    (hc : c.name = .ofString? name) (hd : d.name = .ofString? name') :
    c.location.text = d.location.text ↔
      c.line = d.line ∧ c.column = d.column ∧ Location.shown name = Location.shown name' := by
  have hlabel {e : Cursor} {name : Option String} (he : e.name = .ofString? name) :
      e.location.label = Location.shown name := by
    rw [location, he, Location.label_ofString?]
  rw [Location.text_eq_iff (p := c.location) (q := d.location) rfl rfl, hlabel hc, hlabel hd,
    Int.natCast_inj, Int.natCast_inj]

end Cursor

/-- Locations read alike exactly if they have the same line, the same column and a name that is
shown alike, whatever the names hold; and so do the messages that name them.  So a cursor never
tells two of its places by one text, whatever happened to it in between, and neither do two cursors
whose names are shown differently. -/
theorem Location.told_apart {m n m' n' : Int} {name name' : Option String} {p q : Location}
    (hp : make (.int m) (.int n) (.ofString? name) = .ok p)
    (hq : make (.int m') (.int n') (.ofString? name') = .ok q) :
    (p.text = q.text ↔ m = m' ∧ n = n' ∧ shown name = shown name') ∧
      (∀ a b : Location, (Fault.exhausted a).message = (Fault.exhausted b).message ↔
        a.text = b.text) ∧
      ∀ c d : Cursor, c.name = .ofString? name → d.name = .ofString? name' →
        ∀ events events',
          (c.after events).location.text = (d.after events').location.text ↔
            (c.after events).line = (d.after events').line ∧
              (c.after events).column = (d.after events').column ∧ shown name = shown name' := by
  refine ⟨?_, fun a b => message_exhausted_inj, fun c d hc hd events events' => ?_⟩
  · have hp := eq_of_make hp
    have hq := eq_of_make hq
    rw [text_eq_iff hp hq, hp, hq, label_ofString?, label_ofString?]
  · exact Cursor.text_location_eq_iff ((c.name_after events).trans hc)
      ((d.name_after events').trans hd)

/-- A name may look like the line of another location, or be what stands for a missing one. -/
theorem Location.told_apart_colons :
    ∃ p q r : Location,
      make (.int 3) (.int 7) (.ofString? (some "x")) = .ok p ∧
        make (.int 7) (.int 1) (.ofString? (some "x:3")) = .ok q ∧
        make (.int 3) (.int 7) (.ofString? (some "x:3")) = .ok r ∧
        p.text = "x:3:7" ∧ q.text = "x:3:7:1" ∧ r.text = "x:3:3:7" ∧
        p.text ≠ q.text ∧ p.text ≠ r.text := by
  have hp : make (.int 3) (.int 7) (.ofString? (some "x")) =
      .ok ⟨.int 3, .int 7, .str "x"⟩ := rfl
  have hq : make (.int 7) (.int 1) (.ofString? (some "x:3")) =
      .ok ⟨.int 7, .int 1, .str "x:3"⟩ := rfl
  have hr : make (.int 3) (.int 7) (.ofString? (some "x:3")) =
      .ok ⟨.int 3, .int 7, .str "x:3"⟩ := rfl
  refine ⟨_, _, _, hp, hq, hr, rfl, rfl, rfl, fun h => ?_, fun h => ?_⟩
  · exact absurd ((told_apart hp hq).1.1 h).1 (by decide)
  · exact absurd ((told_apart hp hr).1.1 h).2.2 (by decide)

end LineCursor
