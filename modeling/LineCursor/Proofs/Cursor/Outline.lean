import LineCursor.Cursor.Advance
import LineCursor.Proofs.Feed
import LineCursor.Proofs.Tally

/-!
The outline of a cursor: where it stands and what it has read, without settings, clock and records.

An outline keeps all lines that it has left, so the line number and the figures of a tally are
functions of it and not counters of their own.  `Cursor.Shows` says that a cursor stands as an
outline does, and every operation of a cursor follows the one of its outline:

    c.Shows s o → c.atEnd = .ok o.atEnd                        (Shows.atEnd)
    c.Shows s o → c.front.1 = o.front                          (Shows.front)
    c.Shows s o → c.popFront.2.Shows s o.advance.2             (Shows.popFront)
    … → o.advance.2.Light → c.popFront.1 = o.advance.1         (Shows.popFront_eq)

The last one needs a bound, as the rates of the tally have to exist when the end is reached.
-/

namespace LineCursor

/-- Where a cursor stands, and the lines that it has left. -/
structure Outline where
  feed : Feed
  /-- The lines behind the cursor's own, the latest first. -/
  past : List Line := []
  buffer : Line
  /-- The column less one.  It lies beyond the line when the next line could not be read. -/
  index : Nat := 0

namespace Outline

def line (o : Outline) : Nat :=
  o.past.length + 1

def location (o : Outline) : Location :=
  ⟨.int o.line, .int (o.index + 1 : Nat), o.feed.name⟩

def atEnd (o : Outline) : Bool :=
  o.feed.ended.truthy && o.index == o.buffer.size

def front (o : Outline) : Except Fault Datum :=
  match o.buffer.characters[o.index]? with
  | some d => .ok d
  | none => .error (.exhausted o.location)

theorem front_of_lt (o : Outline) (h : o.index < o.buffer.size) :
    ∃ x, o.front = .ok x ∧ x.length? = some 1 := by
  have hx : o.buffer.characters[o.index]? = some o.buffer.characters[o.index] :=
    List.getElem?_eq_getElem h
  refine ⟨o.buffer.characters[o.index], ?_, ?_⟩
  · rw [front, hx]
  · exact o.buffer.length?_of_mem_characters (List.getElem_mem h)

theorem front_of_le (o : Outline) (h : o.buffer.size ≤ o.index) :
    o.front = .error (.exhausted o.location) := by
  rw [front, List.getElem?_eq_none h]

theorem lt_of_front {o : Outline} {x : Datum} (h : o.front = .ok x) : o.index < o.buffer.size := by
  by_contra hi
  rw [o.front_of_le (Nat.le_of_not_lt hi)] at h
  cases h

theorem le_of_front {o : Outline} {e : Fault} (h : o.front = .error e) :
    o.buffer.size ≤ o.index := by
  by_contra hi
  obtain ⟨x, hx, -⟩ := o.front_of_lt (Nat.lt_of_not_le hi)
  rw [hx] at h
  cases h

/-- The number of characters that lie behind. -/
def consumed (o : Outline) : Nat :=
  (o.past.map Line.size).sum + min o.index o.buffer.size

/-- The number of lines so far that have characters. -/
def linesRead (o : Outline) : Nat :=
  (o.buffer :: o.past).countP Line.truthy

/-- Moves behind the character in front, and to the next line if that was the last one. -/
def advance (o : Outline) : Except Fault Unit × Outline :=
  if o.atEnd then (.ok (), o)
  else if o.index + 1 < o.buffer.size then (.ok (), { o with index := o.index + 1 })
  else
    match o.feed.readLine with
    | (.error e, feed) => (.error e, { o with feed, index := o.index + 1 })
    | (.ok line, feed) => (.ok (), ⟨feed, o.buffer :: o.past, line, 0⟩)

theorem atEnd_of_lt {o : Outline} (h : o.index < o.buffer.size) : o.atEnd = false := by
  rw [atEnd, Bool.and_eq_false_iff, beq_eq_false_iff_ne]
  exact .inr (Nat.ne_of_lt h)

theorem advance_of_atEnd (o : Outline) (h : o.atEnd = true) : o.advance = (.ok (), o) := by
  rw [advance, if_pos h]

section

variable {o : Outline} (h : o.atEnd = false)

include h

theorem advance_of_lt (hi : o.index + 1 < o.buffer.size) :
    o.advance = (.ok (), { o with index := o.index + 1 }) := by
  rw [advance, if_neg (by simp [h]), if_pos hi]

theorem advance_of_error (hi : o.buffer.size ≤ o.index + 1) {e : Fault} {g : Feed}
    (hr : o.feed.readLine = (.error e, g)) :
    o.advance = (.error e, { o with feed := g, index := o.index + 1 }) := by
  rw [advance, if_neg (by simp [h]), if_neg (by omega), hr]

theorem advance_of_ok (hi : o.buffer.size ≤ o.index + 1) {l : Line} {g : Feed}
    (hr : o.feed.readLine = (.ok l, g)) :
    o.advance = (.ok (), ⟨g, o.buffer :: o.past, l, 0⟩) := by
  rw [advance, if_neg (by simp [h]), if_neg (by omega), hr]

end

/-- All lines, the cursor's own and those to come, are plain. -/
structure Plain (o : Outline) : Prop where
  buffer : o.buffer.IsPlain
  feed : o.feed.Plain

/-- If the feed comes to its end, then fewer than `2^1000` characters were read in all. -/
def Light (o : Outline) : Prop :=
  ∀ n, (o.feed.after n).ended.truthy = true →
    ((o.buffer :: o.past).map Line.size).sum + o.feed.taken n < 2 ^ 1000

theorem consumed_le (o : Outline) : o.consumed ≤ ((o.buffer :: o.past).map Line.size).sum := by
  simp only [consumed, List.map_cons, List.sum_cons]
  omega

theorem Light.consumed_lt {o : Outline} (h : o.Light) (he : o.atEnd = true) :
    o.consumed < 2 ^ 1000 := by
  have hn := h 0 (by simp only [atEnd, Bool.and_eq_true] at he; exact he.1)
  have hc := o.consumed_le
  simp only [Feed.taken] at hn
  omega

/-- A cursor opens light on a feed that is. -/
theorem light_of_read {f g : Feed} {l : Line} (h : f.Light) (hr : f.readLine = (.ok l, g)) :
    (⟨g, [], l, 0⟩ : Outline).Light := by
  intro n hn
  have := h (n + 1) (by rw [Feed.after, hr]; exact hn)
  rw [Feed.taken, hr] at this
  simp only [List.map_cons, List.map_nil, List.sum_cons, List.sum_nil, Nat.add_zero]
  exact this

/-- What a move does: nothing at the end, else a step within the line, a read that fails, or one
that gives the next line. -/
theorem advance_cases (o : Outline) :
    (o.atEnd = true ∧ o.advance = (.ok (), o)) ∨
      (o.atEnd = false ∧ o.index + 1 < o.buffer.size ∧
        o.advance = (.ok (), { o with index := o.index + 1 })) ∨
      (∃ e g, o.atEnd = false ∧ o.buffer.size ≤ o.index + 1 ∧ o.feed.readLine = (.error e, g) ∧
        o.advance = (.error e, { o with feed := g, index := o.index + 1 })) ∨
      ∃ l g, o.atEnd = false ∧ o.buffer.size ≤ o.index + 1 ∧ o.feed.readLine = (.ok l, g) ∧
        o.advance = (.ok (), ⟨g, o.buffer :: o.past, l, 0⟩) := by
  cases ha : o.atEnd with
  | true => exact .inl ⟨rfl, o.advance_of_atEnd ha⟩
  | false =>
    right
    by_cases hi : o.index + 1 < o.buffer.size
    · exact .inl ⟨rfl, hi, advance_of_lt ha hi⟩
    · rw [Nat.not_lt] at hi
      cases hr : o.feed.readLine with
      | mk outcome g =>
        cases outcome with
        | error e => exact .inr (.inl ⟨e, g, rfl, hi, rfl, advance_of_error ha hi hr⟩)
        | ok l => exact .inr (.inr ⟨l, g, rfl, hi, rfl, advance_of_ok ha hi hr⟩)

theorem Plain.advance {o : Outline} (h : o.Plain) : o.advance.2.Plain := by
  rcases o.advance_cases with ⟨-, he⟩ | ⟨-, -, he⟩ | ⟨e, g, -, -, hr, he⟩ | ⟨l, g, -, -, hr, he⟩
  · rw [he]
    exact h
  · rw [he]
    exact ⟨h.buffer, h.feed⟩
  · rw [he]
    have hg := h.feed.readLine
    rw [hr] at hg
    exact ⟨h.buffer, hg⟩
  · rw [he]
    have hg := h.feed.readLine
    rw [hr] at hg
    exact ⟨h.feed 0 l (by rw [Feed.after, hr]), hg⟩

theorem Light.advance {o : Outline} (h : o.Light) : o.advance.2.Light := by
  rcases o.advance_cases with ⟨-, he⟩ | ⟨-, -, he⟩ | ⟨e, g, -, -, hr, he⟩ | ⟨l, g, -, -, hr, he⟩
  · rw [he]
    exact h
  · rw [he]
    exact h
  · rw [he]
    intro n hn
    have := h (n + 1) (by rw [Feed.after, hr]; exact hn)
    rw [Feed.taken, hr] at this
    simp only [Feed.given] at this ⊢
    omega
  · rw [he]
    intro n hn
    have := h (n + 1) (by rw [Feed.after, hr]; exact hn)
    rw [Feed.taken, hr] at this
    simp only [Feed.given, List.map_cons, List.sum_cons] at this ⊢
    omega

end Outline

/-! ## What the operations of a cursor leave alone -/

namespace Cursor

/-- Two cursors that differ in their records at most. -/
structure Beside (c d : Cursor) : Prop where
  settings : d.settings = c.settings
  feed : d.feed = c.feed
  buffer : d.buffer = c.buffer
  line : d.line = c.line
  column : d.column = c.column
  tally : d.tally = c.tally

namespace Beside

theorem refl (c : Cursor) : c.Beside c :=
  ⟨rfl, rfl, rfl, rfl, rfl, rfl⟩

theorem trans {c d e : Cursor} (h : c.Beside d) (k : d.Beside e) : c.Beside e :=
  ⟨k.settings.trans h.settings, k.feed.trans h.feed, k.buffer.trans h.buffer,
    k.line.trans h.line, k.column.trans h.column, k.tally.trans h.tally⟩

theorem note (c : Cursor) (severity : Log.Severity) (message : String) (extra : Entries)
    (cause : Option (Option Fault)) : c.Beside (c.note severity message extra cause) :=
  ⟨rfl, rfl, rfl, rfl, rfl, rfl⟩

theorem onNextLine {c d : Cursor} (h : c.Beside d) (l : Line) :
    (c.onNextLine l).Beside (d.onNextLine l) := by
  refine ⟨h.settings, h.feed, rfl, ?_, rfl, ?_⟩
  · show d.line + 1 = c.line + 1
    rw [h.line]
  · unfold Cursor.onNextLine tallies
    dsimp only
    rw [h.tally, h.settings]

end Beside

/-- Counting a character changes the tally only. -/
theorem eq_of_countCharacter {c d : Cursor} (h : c.countCharacter = .ok d) :
    ∃ t, d = { c with tally := t } := by
  unfold countCharacter at h
  split at h
  · cases hn : c.buffer.length with
    | error e =>
      rw [hn] at h
      cases h
    | ok n =>
      rw [hn] at h
      cases h
      dsimp only
      split <;> exact ⟨_, rfl⟩
  · cases h
    exact ⟨_, rfl⟩

/-- Stays in front of the character at the cursor's place; if there is none, moves to the next
line. -/
def goOn (c : Cursor) : Except Fault Unit × Cursor :=
  match c.buffer.length with
  | .error e => (.error e, c)
  | .ok n => if c.index < n then (.ok (), c) else c.refill

/-- What a move does once it has counted the character. -/
theorem popFront_of_counted {c d : Cursor} (ha : c.atEnd = .ok false)
    (hd : c.countCharacter = .ok d) :
    c.popFront = ({ d with column := d.column + 1 } : Cursor).goOn := by
  unfold popFront
  rw [ha]
  dsimp only
  rw [hd]
  rfl

/-- The tally after a read that gave `l`, some time after the start, and that was the first on its
line or one of `refills`. -/
def tallyAfter (c : Cursor) (l : Line) (milliseconds : Float) (refills : Int) : Tally :=
  if c.tallies then
    { c.tally with
      milliseconds
      lines := if l.truthy then c.tally.lines + 1 else c.tally.lines
      refills := c.tally.refills + refills }
  else c.tally

theorem fetch_of_error {c : Cursor} {e : Fault} {g : Feed} (h : c.feed.readLine = (.error e, g)) :
    ∃ d, c.fetch = (.error e, d) ∧ ({ c with feed := g } : Cursor).Beside d := by
  unfold fetch tick
  dsimp only
  rw [h]
  dsimp only
  split <;> exact ⟨_, rfl, rfl, rfl, rfl, rfl, rfl, rfl⟩

theorem fetch_of_ok {c : Cursor} {l : Line} {g : Feed} (h : c.feed.readLine = (.ok l, g)) :
    ∃ d ms, c.fetch = (.ok l, d) ∧
      ({ c with feed := g, tally := c.tallyAfter l ms 0 } : Cursor).Beside d := by
  unfold fetch tick
  dsimp only
  rw [h]
  dsimp only
  by_cases ht : c.settings.tallying.truthy = true
  · simp only [tallies, ht, if_true, countRead, tallyAfter, Int.add_zero]
    exact ⟨_, _, rfl, rfl, rfl, rfl, rfl, rfl, rfl⟩
  · simp only [tallies, ht, tallyAfter]
    exact ⟨_, 0, rfl, rfl, rfl, rfl, rfl, rfl, rfl⟩

/-- Only rates that do not exist keep a cursor from recording its end. -/
theorem noteEnd_cases (c : Cursor) (hb : c.buffer.IsPlain) :
    ∃ r d, c.noteEnd = (r, d) ∧ c.Beside d ∧
      (r = .ok () ∨ ∃ e, r = .error e ∧ c.atEnd = .ok true ∧ c.tally.toDatum = .error e) := by
  unfold noteEnd
  split
  · exact ⟨_, c, rfl, .refl c, .inl rfl⟩
  · split
    · next e he =>
      rw [atEnd, c.buffer.length_eq hb] at he
      split at he <;> cases he
    · exact ⟨_, c, rfl, .refl c, .inl rfl⟩
    · next he =>
      dsimp only
      split
      · next e ht => exact ⟨_, _, rfl, ⟨rfl, rfl, rfl, rfl, rfl, rfl⟩, .inr ⟨e, rfl, he, ht⟩⟩
      · exact ⟨_, _, rfl, ⟨rfl, rfl, rfl, rfl, rfl, rfl⟩, .inl rfl⟩

theorem noteRefill_eq (c : Cursor) (hb : c.buffer.IsPlain) :
    ∃ d, c.noteRefill = (.ok (), d) ∧ c.Beside d := by
  unfold noteRefill
  rw [c.buffer.length_eq hb]
  split
  · exact ⟨_, rfl, .note c _ _ _ _⟩
  · exact ⟨_, rfl, .refl c⟩

theorem refill_of_error {c : Cursor} {e : Fault} {g : Feed} (h : c.feed.readLine = (.error e, g)) :
    ∃ d, c.refill = (.error e, d) ∧ ({ c with feed := g } : Cursor).Beside d := by
  obtain ⟨d, hd, hb⟩ := fetch_of_error h
  exact ⟨d, by rw [refill, hd], hb⟩

/-- After a read the cursor is on the next line, also if its end cannot be recorded then. -/
theorem refill_of_ok {c : Cursor} {l : Line} {g : Feed} (hl : l.IsPlain)
    (h : c.feed.readLine = (.ok l, g)) :
    ∃ r d ms, c.refill = (r, d) ∧
      ({ c with
          feed := g, buffer := l, line := c.line + 1, column := 1
          tally := c.tallyAfter l ms 1 } : Cursor).Beside d ∧
      (r = .ok () ∨ ∃ e, r = .error e ∧ d.atEnd = .ok true ∧ d.tally.toDatum = .error e) := by
  obtain ⟨d₁, ms, hf, hb₁⟩ := fetch_of_ok h
  obtain ⟨d₂, hn, hb₂⟩ := noteRefill_eq (d₁.onNextLine l) hl
  have hp : d₂.buffer.IsPlain := by rw [hb₂.buffer]; exact hl
  obtain ⟨r, d₃, he, hb₃, hr⟩ := noteEnd_cases d₂ hp
  refine ⟨r, d₃, ms, by rw [refill, hf]; dsimp only; rw [hn]; exact he, ?_, ?_⟩
  · refine Beside.trans ?_ ((hb₁.onNextLine l).trans (hb₂.trans hb₃))
    refine ⟨rfl, rfl, rfl, rfl, rfl, ?_⟩
    by_cases ht : c.settings.tallying.truthy = true <;>
      simp [Cursor.onNextLine, tallyAfter, tallies, ht]
  · rcases hr with hr | ⟨e, hr, ha, ht⟩
    · exact .inl hr
    · refine .inr ⟨e, hr, ?_, by rw [hb₃.tally]; exact ht⟩
      unfold atEnd index at ha ⊢
      rw [hb₃.feed, hb₃.buffer, hb₃.column]
      exact ha

end Cursor

/-! ## A cursor and its outline -/

/-- The figures of a tally are those of an outline. -/
structure Tally.Counts (t : Tally) (o : Outline) : Prop where
  characters : t.characters = o.consumed
  lines : t.lines = o.linesRead
  refills : t.refills = o.past.length

namespace Cursor

/-- A cursor with the given settings stands as an outline does.  It has counted all that it read, or
nothing if it does not count. -/
structure Shows (s : Settings) (c : Cursor) (o : Outline) : Prop where
  settings : c.settings = s
  feed : c.feed = o.feed
  buffer : c.buffer = o.buffer
  line : c.line = o.line
  column : c.column = o.index + 1
  counted : s.tallying.truthy = true → c.tally.Counts o
  idle : s.tallying.truthy = false → c.tally = {}

namespace Shows

variable {s : Settings} {c d : Cursor} {o : Outline}

theorem beside (h : c.Shows s o) (k : c.Beside d) : d.Shows s o where
  settings := k.settings.trans h.settings
  feed := k.feed.trans h.feed
  buffer := k.buffer.trans h.buffer
  line := k.line.trans h.line
  column := k.column.trans h.column
  counted hs := by rw [k.tally]; exact h.counted hs
  idle hs := k.tally.trans (h.idle hs)

theorem index_eq (h : c.Shows s o) : c.index = o.index := by
  rw [Cursor.index, h.column]
  rfl

theorem tallies_eq (h : c.Shows s o) : c.tallies = s.tallying.truthy := by
  rw [tallies, h.settings]

theorem location (h : c.Shows s o) : c.location = o.location := by
  unfold Cursor.location Outline.location name
  rw [h.line, h.column, h.feed]

theorem length_eq (h : c.Shows s o) (hp : o.buffer.IsPlain) :
    c.buffer.length = .ok o.buffer.size := by
  rw [h.buffer, o.buffer.length_eq hp]

theorem atEnd (h : c.Shows s o) (hp : o.buffer.IsPlain) : c.atEnd = .ok o.atEnd := by
  unfold Cursor.atEnd Outline.atEnd
  rw [h.feed, h.length_eq hp, h.index_eq]
  cases o.feed.ended.truthy <;> rfl

theorem atEnd_iff (h : c.Shows s o) (hp : o.buffer.IsPlain) {b : Bool} :
    c.atEnd = .ok b ↔ o.atEnd = b := by
  rw [h.atEnd hp, Except.ok.injEq]

theorem front_of_some (h : c.Shows s o) (hp : o.buffer.IsPlain) {x : Datum}
    (hx : o.buffer.characters[o.index]? = some x) : c.front = (.ok x, c) := by
  have hi : o.index < o.buffer.size := (List.getElem?_eq_some_iff.1 hx).1
  unfold Cursor.front
  rw [h.length_eq hp, h.index_eq]
  dsimp only
  rw [if_pos hi, h.buffer, o.buffer.item_eq _ _ hx]

/-- What a cursor shows in front of it, its outline tells. -/
theorem front (h : c.Shows s o) (hp : o.buffer.IsPlain) :
    c.front.1 = o.front ∧ c.front.2.Shows s o := by
  unfold Outline.front
  split
  · next x hx =>
    rw [h.front_of_some hp hx]
    exact ⟨rfl, h⟩
  · next hx =>
    have hi : ¬ o.index < o.buffer.size := Nat.not_lt.2 (List.getElem?_eq_none_iff.1 hx)
    unfold Cursor.front
    rw [h.length_eq hp, h.index_eq]
    dsimp only
    rw [if_neg hi, h.location]
    exact ⟨rfl, h.beside (.note c _ _ _ _)⟩

/-- A cursor that has passed a character shows its outline if it has counted it. -/
theorem passed (h : c.Shows s o) {t : Tally}
    (ht : s.tallying.truthy = true → t.Counts { o with index := o.index + 1 })
    (hn : s.tallying.truthy = false → t = {}) :
    ({ c with tally := t, column := c.column + 1 } : Cursor).Shows s
      { o with index := o.index + 1 } := by
  refine ⟨h.settings, h.feed, h.buffer, h.line, ?_, ht, hn⟩
  show c.column + 1 = o.index + 1 + 1
  rw [h.column]

/-- The character in front is counted when it is passed, and only once. -/
theorem countCharacter (h : c.Shows s o) (hp : o.buffer.IsPlain) :
    ∃ d, c.countCharacter = .ok d ∧
      ({ d with column := d.column + 1 } : Cursor).Shows s { o with index := o.index + 1 } := by
  have hc : ({ o with index := o.index + 1 } : Outline).consumed =
      o.consumed + if o.index < o.buffer.size then 1 else 0 := by
    unfold Outline.consumed
    dsimp only
    split <;> omega
  unfold Cursor.countCharacter
  rw [h.tallies_eq, h.length_eq hp, h.index_eq]
  cases hs : s.tallying.truthy with
  | false =>
    refine ⟨c, rfl, h.passed (fun ht => ?_) h.idle⟩
    rw [hs] at ht
    cases ht
  | true =>
    have hk := h.counted hs
    have hn (t : Tally) : s.tallying.truthy = false → t = {} := by
      intro ht
      rw [hs] at ht
      cases ht
    by_cases hi : o.index < o.buffer.size
    · refine ⟨{ c with tally := { c.tally with characters := c.tally.characters + 1 } },
        by rw [if_pos rfl, Except.map, if_pos hi],
        h.passed (fun _ => ⟨?_, hk.lines, hk.refills⟩) (hn _)⟩
      show c.tally.characters + 1 = _
      rw [hc, if_pos hi, hk.characters]
      rfl
    · refine ⟨c, by rw [if_pos rfl, Except.map, if_neg hi],
        h.passed (fun _ => ⟨?_, hk.lines, hk.refills⟩) (hn _)⟩
      rw [hc, if_neg hi]
      exact hk.characters

theorem refill_of_error (h : c.Shows s o) {e : Fault} {g : Feed}
    (hr : o.feed.readLine = (.error e, g)) :
    ∃ d, c.refill = (.error e, d) ∧ d.Shows s { o with feed := g } := by
  rw [← h.feed] at hr
  obtain ⟨d, hd, hb⟩ := Cursor.refill_of_error hr
  have hs : ({ c with feed := g } : Cursor).Shows s { o with feed := g } := by
    refine ⟨h.settings, rfl, h.buffer, h.line, h.column, fun ht => ?_, h.idle⟩
    have hk := h.counted ht
    exact ⟨hk.characters, hk.lines, hk.refills⟩
  exact ⟨d, hd, hs.beside hb⟩

/-- A tally that counted all lines up to the cursor's own counts the next one too. -/
theorem tallyAfter (h : c.Shows s o) (hs : s.tallying.truthy = true)
    (hi : o.buffer.size ≤ o.index) (l : Line) (g : Feed) (ms : Float) :
    (c.tallyAfter l ms 1).Counts ⟨g, o.buffer :: o.past, l, 0⟩ := by
  have hk := h.counted hs
  unfold Cursor.tallyAfter
  rw [h.tallies_eq, if_pos hs]
  refine ⟨?_, ?_, ?_⟩
  · show c.tally.characters = _
    rw [hk.characters]
    simp only [Outline.consumed, List.map_cons, List.sum_cons]
    omega
  · show (if l.truthy then c.tally.lines + 1 else c.tally.lines) = _
    rw [hk.lines]
    unfold Outline.linesRead
    rw [List.countP_cons (a := l)]
    split <;> simp
  · show c.tally.refills + 1 = _
    rw [hk.refills]
    rfl

theorem refill_of_ok (h : c.Shows s o) (hi : o.buffer.size ≤ o.index) {l : Line} (hl : l.IsPlain)
    {g : Feed} (hr : o.feed.readLine = (.ok l, g)) :
    ∃ r d, c.refill = (r, d) ∧ d.Shows s ⟨g, o.buffer :: o.past, l, 0⟩ ∧
      (r = .ok () ∨ ∃ e, r = .error e ∧ d.atEnd = .ok true ∧ d.tally.toDatum = .error e) := by
  rw [← h.feed] at hr
  obtain ⟨r, d, ms, hd, hb, hc⟩ := Cursor.refill_of_ok hl hr
  refine ⟨r, d, hd, beside (o := ⟨g, o.buffer :: o.past, l, 0⟩) ?_ hb, hc⟩
  refine ⟨h.settings, rfl, rfl, ?_, rfl, fun hs => h.tallyAfter hs hi l g ms, fun hs => ?_⟩
  · show c.line + 1 = _
    rw [h.line]
    rfl
  · show c.tallyAfter l ms 1 = {}
    rw [Cursor.tallyAfter, h.tallies_eq, hs, if_neg (by simp)]
    exact h.idle hs

/-- Before the end a move counts the character in front and goes on behind it, with the next line if
that was the last one. -/
theorem popFront_of_before (h : c.Shows s o) (hp : o.buffer.IsPlain) (ha : o.atEnd = false) :
    ∃ d, c.countCharacter = .ok d ∧
      ({ d with column := d.column + 1 } : Cursor).Shows s { o with index := o.index + 1 } ∧
      c.popFront =
        if o.index + 1 < o.buffer.size then (.ok (), { d with column := d.column + 1 })
        else ({ d with column := d.column + 1 } : Cursor).refill := by
  obtain ⟨d, hd, hk⟩ := h.countCharacter hp
  have hc : c.atEnd = .ok false := by rw [h.atEnd hp, ha]
  refine ⟨d, hd, hk, ?_⟩
  rw [popFront_of_counted hc hd, goOn, hk.length_eq hp]
  dsimp only
  rw [hk.index_eq]

/-- A move of a cursor is the move of its outline.  The outcome is another one only if the move came
to the end and the rates do not exist there. -/
theorem popFront (h : c.Shows s o) (hp : o.Plain) :
    ∃ r d, c.popFront = (r, d) ∧ d.Shows s o.advance.2 ∧
      (r = o.advance.1 ∨ o.advance.1 = .ok () ∧
        ∃ e, r = .error e ∧ d.atEnd = .ok true ∧ d.tally.toDatum = .error e) := by
  rcases o.advance_cases with
    ⟨ha, he⟩ | ⟨ha, hi, he⟩ | ⟨e, g, ha, hi, hr, he⟩ | ⟨l, g, ha, hi, hr, he⟩
  · rw [he]
    refine ⟨_, c, ?_, h, .inl rfl⟩
    unfold Cursor.popFront
    rw [h.atEnd hp.buffer, ha]
  · obtain ⟨d, -, hk, hpop⟩ := h.popFront_of_before hp.buffer ha
    rw [he]
    exact ⟨_, _, by rw [hpop, if_pos hi], hk, .inl rfl⟩
  · obtain ⟨d, -, hk, hpop⟩ := h.popFront_of_before hp.buffer ha
    rw [he]
    obtain ⟨d', hd', hs⟩ := hk.refill_of_error hr
    exact ⟨_, d', by rw [hpop, if_neg (by omega), hd'], hs, .inl rfl⟩
  · obtain ⟨d, -, hk, hpop⟩ := h.popFront_of_before hp.buffer ha
    rw [he]
    have hl : l.IsPlain := hp.feed 0 l (by rw [Feed.after, hr])
    obtain ⟨r, d', hd', hs, hc⟩ := hk.refill_of_ok hi hl hr
    refine ⟨r, d', by rw [hpop, if_neg (by omega), hd'], hs, ?_⟩
    rcases hc with hc | hc
    · exact .inl hc
    · exact .inr ⟨rfl, hc⟩

/-- The rates of a tally exist while fewer than `2^1000` characters lie behind, and always if
nothing is counted. -/
theorem toDatum_ok (h : c.Shows s o) (hl : s.tallying.truthy = true → o.consumed < 2 ^ 1000) :
    ∃ x, c.tally.toDatum = .ok x := by
  cases hs : s.tallying.truthy with
  | false =>
    rw [h.idle hs]
    exact Tally.toDatum_empty
  | true =>
    apply Tally.toDatum_ok
    rw [(h.counted hs).characters, Int.natAbs_natCast]
    exact hl hs

/-- The outcome of a move is that of its outline, unless too much lies behind at the end. -/
theorem popFront_eq_of_consumed (h : c.Shows s o) (hp : o.Plain)
    (hl : s.tallying.truthy = true → o.advance.2.atEnd = true →
      o.advance.2.consumed < 2 ^ 1000) :
    ∃ d, c.popFront = (o.advance.1, d) ∧ d.Shows s o.advance.2 := by
  obtain ⟨r, d, hpop, hs, hr | ⟨-, e, -, ha, ht⟩⟩ := h.popFront hp
  · exact ⟨d, by rw [hpop, hr], hs⟩
  · rw [hs.atEnd hp.advance.buffer] at ha
    obtain ⟨x, hx⟩ := hs.toDatum_ok fun ht => hl ht (Except.ok.inj ha)
    rw [hx] at ht
    cases ht

theorem popFront_eq (h : c.Shows s o) (hp : o.Plain)
    (hl : s.tallying.truthy = true → o.advance.2.Light) :
    ∃ d, c.popFront = (o.advance.1, d) ∧ d.Shows s o.advance.2 :=
  h.popFront_eq_of_consumed hp fun ht ha => (hl ht).consumed_lt ha

end Shows

/-- A cursor opens on the first line of its feed. -/
theorem start_of_ok {feed g : Feed} {l : Line} (hl : l.IsPlain) (hr : feed.readLine = (.ok l, g))
    (s : Settings) (x : Context) :
    ∃ c, Cursor.start feed s x = (.ok (), c) ∧ c.Shows s ⟨g, [], l, 0⟩ := by
  obtain ⟨d, ms, hf, hb⟩ := fetch_of_ok (c := { settings := s, context := x, feed }) hr
  have hd : ({ d with buffer := l } : Cursor).Shows s ⟨g, [], l, 0⟩ := by
    refine ⟨hb.settings, hb.feed, rfl, hb.line, hb.column, fun hs => ?_, fun hs => ?_⟩
    · show d.tally.Counts _
      rw [hb.tally, tallyAfter, tallies, if_pos hs]
      refine ⟨by simp [Outline.consumed], ?_, rfl⟩
      simp only [Outline.linesRead, List.countP_cons, List.countP_nil]
      split <;> rfl
    · show d.tally = {}
      rw [hb.tally, tallyAfter, tallies, hs, if_neg (by simp)]
  have hn : ({ d with buffer := l }.note .debug "Character stream opened"
      [("source_name", ({ d with buffer := l } : Cursor).name),
        ("first_line_length", .int l.size)]).Shows s ⟨g, [], l, 0⟩ :=
    hd.beside (.note _ _ _ _ _)
  obtain ⟨r, d', he, hb', hr'⟩ := noteEnd_cases _ (by rw [hn.buffer]; exact hl)
  have hd' := hn.beside hb'
  obtain ⟨y, hy⟩ := hn.toDatum_ok fun _ => by
    simp only [Outline.consumed, List.map_nil, List.sum_nil, Nat.zero_min]
    exact pow_pos two_pos 1000
  have hok : r = .ok () := by
    rcases hr' with hr' | ⟨e, -, -, ht⟩
    · exact hr'
    · rw [hy] at ht
      cases ht
  subst hok
  refine ⟨d', ?_, hd'⟩
  unfold Cursor.start
  dsimp only
  rw [hf]
  dsimp only
  rw [l.length_eq hl]
  exact he

theorem start_of_error {feed g : Feed} {e : Fault} (hr : feed.readLine = (.error e, g))
    (s : Settings) (x : Context) : ∃ c, Cursor.start feed s x = (.error e, c) := by
  obtain ⟨d, hf, -⟩ := fetch_of_error (c := { settings := s, context := x, feed }) hr
  unfold Cursor.start
  dsimp only
  rw [hf]
  exact ⟨d, rfl⟩

end Cursor

end LineCursor
