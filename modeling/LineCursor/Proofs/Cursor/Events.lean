import LineCursor.Proofs.Cursor.Iteration
import LineCursor.Proofs.Feed.History

/-!
What may happen to a cursor after it was opened.

Its caller looks at it, moves it or takes a character, in any order and also after failures, and a
source may change what it says about its end meanwhile (`Event`).  All that happens to a cursor
happens to its outline (`Shows.step`, `Shows.after`):

    c.Shows s o → o.Plain → (c.step e).2.Shows s (o.step e).2
    … → (o.step e).2.consumed < 2^1000 → (c.step e).1 = (o.step e).1

An event moves an outline, marks its feed or leaves it as it was (`Outline.step_cases`).  So what
moves and marks preserve is an invariant of all cursors that were opened on a feed
(`Cursor.Reached.exists_outline`).
-/

namespace LineCursor

/-- What a caller may ask of a cursor without moving it. -/
inductive Look where
  | front
  | location
  | atEnd

/-- What may happen to a cursor. -/
inductive Event where
  | look (look : Look)
  | popFront
  | next
  /-- A source changes what it says about its end, without being read.  If it does so while a
  character is taken, that is a look at the end and one at the front, the change, and a move. -/
  | mark (ended : Datum)

/-- What a caller is given. -/
inductive Answer where
  | nothing
  | character (d : Datum)
  | location (l : Location)
  | ended (d : Datum)

/-- Nothing is given behind the last character. -/
def Answer.ofNext? : Option Datum → Answer
  | none => nothing
  | some d => character d

namespace Cursor

def look : Look → Cursor → Except Fault Answer × Cursor
  | .front, c => (c.front.1.map .character, c.front.2)
  | .location, c => (.ok (.location c.location), c)
  | .atEnd, c => (c.endMark.map .ended, c)

def step : Event → Cursor → Except Fault Answer × Cursor
  | .look l, c => c.look l
  | .popFront, c => (c.popFront.1.map fun _ => .nothing, c.popFront.2)
  | .next, c => (c.next?.1.map .ofNext?, c.next?.2)
  | .mark ended, c => (.ok .nothing, { c with feed := c.feed.marked ended })

/-- The cursor after some events, whether they failed or not. -/
def after (c : Cursor) (events : List Event) : Cursor :=
  events.foldl (fun c e => (c.step e).2) c

/-- The cursor was opened on the feed, and some events have happened to it since. -/
def Reached (feed : Feed) (d : Cursor) : Prop :=
  ∃ s x c events, Cursor.start feed s x = (.ok (), c) ∧ c.after events = d

end Cursor

/-! ## Outlines -/

namespace Outline

/-- The number of characters of all lines that were read. -/
def received (o : Outline) : Nat :=
  ((o.buffer :: o.past).map Line.size).sum

/-- The answer to whether no character is left. -/
def endMark (o : Outline) : Datum :=
  if o.feed.ended.truthy then .bool o.atEnd else o.feed.ended

/-- What a caller that takes a character is given when the move behind it has ended. -/
def handedOut (x : Datum) : Except Fault Unit → Except Fault (Option Datum)
  | .ok () => .ok (some x)
  | .error e =>
    match e.endOfDrain with
    | some e => .error e
    | none => .ok none

/-- The character in front, and a move behind it; nothing at the end. -/
def next? (o : Outline) : Except Fault (Option Datum) × Outline :=
  if o.atEnd then (.ok none, o)
  else
    match o.front with
    | .error e => (.error e, o)
    | .ok x => (handedOut x o.advance.1, o.advance.2)

def marked (o : Outline) (ended : Datum) : Outline :=
  { o with feed := o.feed.marked ended }

def look (o : Outline) : Look → Except Fault Answer
  | .front => o.front.map .character
  | .location => .ok (.location o.location)
  | .atEnd => .ok (.ended o.endMark)

def step : Event → Outline → Except Fault Answer × Outline
  | .look l, o => (o.look l, o)
  | .popFront, o => (o.advance.1.map fun _ => .nothing, o.advance.2)
  | .next, o => (o.next?.1.map .ofNext?, o.next?.2)
  | .mark ended, o => (.ok .nothing, o.marked ended)

def after (o : Outline) (events : List Event) : Outline :=
  events.foldl (fun o e => (o.step e).2) o

theorem next?_cases (o : Outline) : o.next?.2 = o ∨ o.next?.2 = o.advance.2 := by
  unfold next?
  split
  · exact .inl rfl
  · split
    · exact .inl rfl
    · exact .inr rfl

/-- If a character is in front, to take it is to move behind it. -/
theorem next?_of_lt {o : Outline} (hi : o.index < o.buffer.size) : o.next?.2 = o.advance.2 := by
  obtain ⟨x, hx, -⟩ := o.front_of_lt hi
  rw [next?, if_neg (by simp [atEnd_of_lt hi]), hx]

theorem next?_of_le {o : Outline} (hi : o.buffer.size ≤ o.index) : o.next?.2 = o := by
  rw [next?, o.front_of_le hi]
  split <;> rfl

/-- An event leaves an outline as it was, moves it or marks its feed. -/
theorem step_cases (o : Outline) (e : Event) :
    (o.step e).2 = o ∨ (o.step e).2 = o.advance.2 ∨ ∃ ended, (o.step e).2 = o.marked ended := by
  cases e with
  | look l => exact .inl rfl
  | popFront => exact .inr (.inl rfl)
  | next =>
    rcases o.next?_cases with h | h
    · exact .inl h
    · exact .inr (.inl h)
  | mark ended => exact .inr (.inr ⟨ended, rfl⟩)

/-- What moves and marks preserve, all events preserve. -/
theorem after_induction {P : Outline → Prop} (hmove : ∀ o, P o → P o.advance.2)
    (hmark : ∀ o ended, P o → P (o.marked ended)) (events : List Event) {o : Outline} (h : P o) :
    P (o.after events) := by
  induction events generalizing o with
  | nil => exact h
  | cons e events ih =>
    apply ih
    show P (o.step e).2
    rcases o.step_cases e with he | he | ⟨ended, he⟩
    · rw [he]
      exact h
    · rw [he]
      exact hmove o h
    · rw [he]
      exact hmark o ended h

/-- The adapter around a file sets its mark by itself. -/
theorem OnFile.marked_eq {o : Outline} (h : o.OnFile) (ended : Datum) : o.marked ended = o := by
  obtain ⟨f, hf, -⟩ := h
  rw [marked, hf]
  exact congrArg (fun g => { o with feed := g }) hf.symm

theorem Plain.after {o : Outline} (h : o.Plain) (events : List Event) : (o.after events).Plain :=
  after_induction (fun _ h => h.advance) (fun _ ended h => ⟨h.buffer, h.feed.marked ended⟩) events h

theorem received_le_advance (o : Outline) : o.received ≤ o.advance.2.received := by
  rcases o.advance_cases with ⟨-, he⟩ | ⟨-, -, he⟩ | ⟨e, g, -, -, -, he⟩ | ⟨l, g, -, -, -, he⟩
  · rw [he]
  · rw [he]
    exact Nat.le_refl _
  · rw [he]
    exact Nat.le_refl _
  · rw [he]
    exact Nat.le_add_left _ _

theorem received_le_after (o : Outline) (events : List Event) :
    o.received ≤ (o.after events).received :=
  after_induction (P := fun p => o.received ≤ p.received)
    (fun p h => Nat.le_trans h p.received_le_advance) (fun _ _ h => h) events (Nat.le_refl _)

end Outline

/-! ## Cursors and their outlines -/

namespace Cursor

theorem next?_of_front_error {c : Cursor} {e : Fault} (ha : c.atEnd = .ok false)
    (hx : c.front.1 = .error e) : c.next? = (.error e, c.front.2) := by
  rw [next?, ha]
  dsimp only
  rw [← Prod.mk.eta (p := c.front), hx]

theorem next?_of_front_ok {c : Cursor} {x : Datum} (ha : c.atEnd = .ok false)
    (hx : c.front = (.ok x, c)) :
    c.next? = (Outline.handedOut x c.popFront.1, c.popFront.2) := by
  cases hd : c.popFront with
  | mk r d =>
    cases r with
    | error e => exact next?_of_error ha hx hd
    | ok u => exact next?_of_ok ha hx hd

namespace Shows

variable {s : Settings} {c : Cursor} {o : Outline}

theorem popFront_state (h : c.Shows s o) (hp : o.Plain) : c.popFront.2.Shows s o.advance.2 := by
  obtain ⟨r, d, hpop, hs, -⟩ := h.popFront hp
  rw [hpop]
  exact hs

theorem popFront_outcome (h : c.Shows s o) (hp : o.Plain)
    (hl : s.tallying.truthy = true → o.advance.2.consumed < 2 ^ 1000) :
    c.popFront.1 = o.advance.1 := by
  obtain ⟨d, hpop, -⟩ := h.popFront_eq_of_consumed hp fun ht _ => hl ht
  rw [hpop]

theorem endMark (h : c.Shows s o) (hp : o.buffer.IsPlain) : c.endMark = .ok o.endMark := by
  unfold Cursor.endMark Outline.endMark
  rw [h.atEnd hp, h.feed]
  split <;> rfl

theorem marked (h : c.Shows s o) (ended : Datum) :
    ({ c with feed := c.feed.marked ended } : Cursor).Shows s (o.marked ended) :=
  ⟨h.settings, congrArg (Feed.marked ended) h.feed, h.buffer, h.line, h.column,
    fun ht => ⟨(h.counted ht).characters, (h.counted ht).lines, (h.counted ht).refills⟩, h.idle⟩

theorem look (h : c.Shows s o) (hp : o.buffer.IsPlain) (l : Look) :
    (c.look l).1 = o.look l ∧ (c.look l).2.Shows s o := by
  cases l with
  | front =>
    obtain ⟨hf, hs⟩ := h.front hp
    exact ⟨congrArg (Except.map Answer.character) hf, hs⟩
  | location => exact ⟨congrArg (fun l => Except.ok (Answer.location l)) h.location, h⟩
  | atEnd => exact ⟨congrArg (Except.map Answer.ended) (h.endMark hp), h⟩

/-- A cursor takes the character that its outline takes. -/
theorem next? (h : c.Shows s o) (hp : o.Plain) :
    c.next?.2.Shows s o.next?.2 ∧
      ((s.tallying.truthy = true → o.next?.2.consumed < 2 ^ 1000) → c.next?.1 = o.next?.1) := by
  unfold Outline.next?
  cases ha : o.atEnd with
  | true =>
    rw [next?_of_atEnd (by rw [h.atEnd hp.buffer, ha]), if_pos rfl]
    exact ⟨h, fun _ => rfl⟩
  | false =>
    have hc : c.atEnd = .ok false := by rw [h.atEnd hp.buffer, ha]
    obtain ⟨hf, hs⟩ := h.front hp.buffer
    rw [if_neg (by simp)]
    cases hx : o.buffer.characters[o.index]? with
    | none =>
      have hfront : o.front = .error (.exhausted o.location) := by rw [Outline.front, hx]
      rw [hfront] at hf ⊢
      rw [next?_of_front_error hc hf]
      exact ⟨hs, fun _ => rfl⟩
    | some x =>
      have hfront : o.front = .ok x := by rw [Outline.front, hx]
      rw [hfront, next?_of_front_ok hc (h.front_of_some hp.buffer hx)]
      exact ⟨h.popFront_state hp,
        fun hl => congrArg (Outline.handedOut x) (h.popFront_outcome hp hl)⟩

/-- What happens to a cursor happens to its outline, with the same outcome. -/
theorem step (h : c.Shows s o) (hp : o.Plain) (e : Event) :
    (c.step e).2.Shows s (o.step e).2 ∧
      ((s.tallying.truthy = true → (o.step e).2.consumed < 2 ^ 1000) →
        (c.step e).1 = (o.step e).1) := by
  cases e with
  | look l => exact ⟨(h.look hp.buffer l).2, fun _ => (h.look hp.buffer l).1⟩
  | popFront =>
    refine ⟨h.popFront_state hp, fun hl => ?_⟩
    exact congrArg (Except.map fun _ => Answer.nothing) (h.popFront_outcome hp hl)
  | next =>
    refine ⟨(h.next? hp).1, fun hl => ?_⟩
    exact congrArg (Except.map Answer.ofNext?) ((h.next? hp).2 hl)
  | mark ended => exact ⟨h.marked ended, fun _ => rfl⟩

theorem after (h : c.Shows s o) (hp : o.Plain) (events : List Event) :
    (c.after events).Shows s (o.after events) := by
  induction events generalizing c o with
  | nil => exact h
  | cons e events ih => exact ih (h.step hp e).1 (hp.after [e])

end Shows

theorem reached_of_start (feed : Feed) (s : Settings) (x : Context)
    (h : (Cursor.start feed s x).1 = .ok ()) (events : List Event) :
    Reached feed ((Cursor.start feed s x).2.after events) :=
  ⟨s, x, _, events, Prod.ext h rfl, rfl⟩

/-- A cursor opens with the outline that has its feed's first line. -/
theorem shows_of_start {feed : Feed} {s : Settings} {x : Context} {c : Cursor} (hp : feed.Plain)
    (hc : Cursor.start feed s x = (.ok (), c)) :
    ∃ l g, feed.readLine = (.ok l, g) ∧ c.Shows s ⟨g, [], l, 0⟩ ∧
      (⟨g, [], l, 0⟩ : Outline).Plain := by
  cases hr : feed.readLine with
  | mk outcome g =>
    cases outcome with
    | error e =>
      obtain ⟨c', hc'⟩ := start_of_error hr s x
      rw [hc'] at hc
      cases hc
    | ok l =>
      have hl : l.IsPlain := hp 0 l (by rw [Feed.after, hr])
      have hg := hp.readLine
      rw [hr] at hg
      obtain ⟨c', hc', hs⟩ := start_of_ok hl hr s x
      rw [hc'] at hc
      cases hc
      exact ⟨l, g, rfl, hs, hl, hg⟩

/-- A cursor that was opened on a feed has an outline that began with the feed's first line. -/
theorem Reached.exists_outline {feed : Feed} {d : Cursor} (hp : feed.Plain)
    (h : Reached feed d) :
    ∃ l g events, feed.readLine = (.ok l, g) ∧
      d.Shows d.settings ((⟨g, [], l, 0⟩ : Outline).after events) ∧
      ((⟨g, [], l, 0⟩ : Outline).after events).Plain := by
  obtain ⟨s, x, c, events, hc, rfl⟩ := h
  obtain ⟨l, g, hr, hs, hplain⟩ := shows_of_start hp hc
  have hd := hs.after hplain events
  refine ⟨l, g, events, hr, ?_, hplain.after events⟩
  rw [hd.settings]
  exact hd

end Cursor

end LineCursor
